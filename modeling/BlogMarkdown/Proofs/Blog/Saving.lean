import BlogMarkdown.Blog.Saving
import BlogMarkdown.Proofs.Blog.Records
import BlogMarkdown.Proofs.Files.Directories
/-!
# Where docs are saved

The docs of a converted blog have ids of their own, so as long as their ids are names and not paths each of them gets a
file of its own, all side by side in the destination.  An id that is a path leads elsewhere, and two ids that differ may
lead to one place.
-/
namespace BlogMarkdown.Blog

open Files Text

/-! ## Ids of docs -/

theorem sublist_ids_converted : ∀ tried : List Attempt,
    ((tried.filterMap (·.converted?)).map (·.id)).Sublist (tried.map (·.doc.id))
  | [] => .slnil
  | attempt :: tried => by
    have ih := sublist_ids_converted tried
    rw [List.filterMap_cons, List.map_cons]
    unfold Attempt.converted?
    cases attempt.result with
    | ok text => exact ih.cons_cons _
    | error e => exact ih.cons _

/-- No two docs of a blog have one id. -/
theorem nodup_ids {channel : Export.Channel} {options : Options} {blog : Blog}
    (h : ofChannel channel options = .ok blog) : (blog.docs.map (·.id)).Nodup := by
  obtain ⟨prepared, hprepared, rfl⟩ := exists_prepared h
  obtain ⟨hentries, -⟩ := entriesOf_of_prepared hprepared
  have hsublist := sublist_ids_converted (attempts (prepared.links options.mediaDir) [] prepared.docs).1
  have hids := congrArg (List.map Doc.id) (map_doc_attempts (prepared.links options.mediaDir) prepared.docs [])
  rw [List.map_map, Prepared.docs, List.map_map] at hids
  exact hsublist.nodup (hids ▸ nodup_entriesOf hentries)

/-! ## Files of docs -/

/-- The name of a doc's file. -/
def Doc.fileName (doc : Doc) : String := doc.id ++ ".md"

theorem isPlainName_fileName {doc : Doc} (h : '/' ∉ doc.id.toList) : IsPlainName doc.fileName := by
  have hlast : doc.fileName.toList.getLast? = some 'd' := by
    rw [Doc.fileName, String.toList_append, List.getLast?_append]
    rfl
  refine ⟨?_, ?_, ?_, ?_⟩
  · rintro hname
    rw [hname] at hlast
    cases hlast
  · rintro hname
    rw [hname] at hlast
    exact absurd hlast (by decide)
  · rintro hname
    rw [hname] at hlast
    exact absurd hlast (by decide)
  · rw [Doc.fileName, String.toList_append, List.mem_append, not_or]
    exact ⟨h, by decide⟩

theorem nodup_fileNames {docs : List Doc} (h : (docs.map (·.id)).Nodup) : (docs.map Doc.fileName).Nodup := by
  have hnames : docs.map Doc.fileName = (docs.map (·.id)).map (· ++ ".md") := by
    rw [List.map_map]
    rfl
  rw [hnames]
  exact h.map fun id id' heq => (String.append_left_inj ".md").1 heq

/-- The content of a doc's file under its name. -/
def Doc.namedFile (doc : Doc) : String × List UInt8 := (doc.fileName, Utf8.encode doc.file)

theorem saveChanges_eq (blog : Blog) (options : Options) (destination : String) :
    blog.saveChanges options destination =
      Tree.fills destination options.mediaDir ((blog.savedDocs options).map Doc.namedFile) := by
  rw [saveChanges, Tree.fills, Tree.writes, List.map_map]
  rfl

theorem save_eq (blog : Blog) (options : Options) (destination : String) (here : Place) (tree : Tree) :
    blog.save options destination here tree =
      let outcome := tree.performAll here
        (Tree.fills destination options.mediaDir ((blog.savedDocs options).map Doc.namedFile))
      (outcome.1, match outcome.2 with
        | none => .ok (blog.savedDocs options).length
        | some fault => .error (.file fault)) := by
  rw [save, saveChanges_eq]
  generalize tree.performAll here _ = outcome
  obtain ⟨after, fault?⟩ := outcome
  cases fault? <;> rfl

/-- **Where a blog is saved.**  If the ids of the docs that are saved hold no slash, every file that saving leaves and
that was not there before is the file of such a doc and stands in the destination itself.  If nothing is refused the
docs are counted, their files are as many, and each of them is there with the text of its doc. -/
theorem save_inside_destination {channel : Export.Channel} {options saving : Options} {blog : Blog}
    (h : ofChannel channel options = .ok blog) (hmedia : IsPlainName saving.mediaDir)
    (hids : ∀ doc ∈ blog.savedDocs saving, '/' ∉ doc.id.toList) (here : Place) (tree : Tree) (destination : String) :
    let after := (blog.save saving destination here tree).1
    (∀ place content, after.entry? place = some (.file content) → tree.entry? place = some (.file content) ∨
      ∃ directory, after.LeadsTo here destination directory ∧ ∃ doc ∈ blog.savedDocs saving,
        place = directory ++ [doc.id ++ ".md"] ∧ content = Utf8.encode doc.file) ∧
    ∀ n, (blog.save saving destination here tree).2 = .ok n →
      ∃ directory, after.LeadsTo here destination directory ∧ n = (blog.savedDocs saving).length ∧
        ((blog.savedDocs saving).map fun doc => directory ++ [doc.id ++ ".md"]).Nodup ∧
        ∀ doc ∈ blog.savedDocs saving,
          after.entry? (directory ++ [doc.id ++ ".md"]) = some (.file (Utf8.encode doc.file)) := by
  have hplain : ∀ file ∈ (blog.savedDocs saving).map Doc.namedFile, IsPlainName file.1 := by
    intro file hfile
    obtain ⟨doc, hdoc, rfl⟩ := List.mem_map.1 hfile
    exact isPlainName_fileName (hids doc hdoc)
  have hsaved : ((blog.savedDocs saving).map Doc.fileName).Nodup :=
    nodup_fileNames ((List.filter_sublist.map _).nodup (nodup_ids h))
  have hnames : (((blog.savedDocs saving).map Doc.namedFile).map (·.1)).Nodup := by
    rw [List.map_map]
    exact hsaved
  rw [save_eq]
  constructor
  · intro place content hplace
    rcases Tree.file_of_fills hmedia hplain hplace with hbefore | ⟨directory, hdirectory, file, hfile, hplace⟩
    · exact .inl hbefore
    · obtain ⟨doc, hdoc, rfl⟩ := List.mem_map.1 hfile
      exact .inr ⟨directory, hdirectory, doc, hdoc, hplace⟩
  · intro n hn
    dsimp only at hn ⊢
    split at hn
    · rename_i hnone
      obtain ⟨directory, hdirectory, hfiles⟩ := Tree.entry?_of_fills hmedia hplain hnames hnone
      refine ⟨directory, hdirectory, (Except.ok.inj hn).symm, ?_, fun doc hdoc => ?_⟩
      · have hplaces : ((blog.savedDocs saving).map fun doc => directory ++ [doc.id ++ ".md"]) =
            ((blog.savedDocs saving).map Doc.fileName).map fun name => directory ++ [name] := by
          rw [List.map_map]
          rfl
        rw [hplaces]
        exact hsaved.map fun name name' heq => List.singleton_inj.1 (List.append_cancel_left heq)
      · exact hfiles doc.namedFile (List.mem_map_of_mem hdoc)
    · cases hn

/-! ## Posts by their names -/

/-- A channel of published posts with these names, each its own title. -/
def namedPosts (names : List String) : Export.Channel :=
  { items := names.map fun name =>
      { postType := "post", title := name, postName := name, postDateGmt := zeroTime, status := "publish",
        commentStatus := "open" } }

/-- Their blog. -/
def namedBlog (names : List String) : Blog where
  author := {}
  docs := names.map fun name =>
    { id := name, title := name, content := "", html := "", kind := .post, status := .publish, published := none,
      commentsEnabled := true }
  attachments := []
  failures := []

theorem save_two_posts :
    ofChannel (namedPosts ["x", "y"]) {} = .ok (namedBlog ["x", "y"]) ∧
      ((namedBlog ["x", "y"]).save {} "out" [] ⟨[]⟩).2 = .ok 2 ∧
      ∃ directory, ((namedBlog ["x", "y"]).save {} "out" [] ⟨[]⟩).1.LeadsTo [] "out" directory ∧
        ∀ doc ∈ (namedBlog ["x", "y"]).savedDocs {},
          Tree.entry? ((namedBlog ["x", "y"]).save {} "out" [] ⟨[]⟩).1 (directory ++ [doc.id ++ ".md"]) =
            some (.file (Utf8.encode doc.file)) := by
  have hblog : ofChannel (namedPosts ["x", "y"]) {} = .ok (namedBlog ["x", "y"]) := by decide +kernel
  have hsaved : ((namedBlog ["x", "y"]).save {} "out" [] ⟨[]⟩).2 = .ok 2 := by decide +kernel
  have hmedia : IsPlainName ({} : Options).mediaDir := ⟨by decide, by decide, by decide, by decide⟩
  obtain ⟨directory, hleads, -, -, hfiles⟩ :=
    (save_inside_destination hblog hmedia (by decide +kernel) [] ⟨[]⟩ "out").2 2 hsaved
  exact ⟨hblog, hsaved, directory, hleads, hfiles⟩

/-- A name that leads up puts its post beside the destination, and of two names that lead to one place the second takes
the file of the first: two posts are counted, one is left. -/
theorem save_posts_named_by_paths :
    (ofChannel (namedPosts ["../x"]) {} = .ok (namedBlog ["../x"]) ∧
      (namedBlog ["../x"]).save {} "out" [] ⟨[]⟩ =
        (⟨[(["out"], .directory), (["out", "wpmedia"], .directory),
          (["x.md"], .file (Utf8.encode "-title=../x\n".toList))]⟩, .ok 1)) ∧
    ofChannel (namedPosts ["x", "./x"]) {} = .ok (namedBlog ["x", "./x"]) ∧
      (namedBlog ["x", "./x"]).save {} "out" [] ⟨[]⟩ =
        (⟨[(["out"], .directory), (["out", "wpmedia"], .directory),
          (["out", "x.md"], .file (Utf8.encode "-title=./x\n".toList))]⟩, .ok 2) := by
  decide +kernel

end BlogMarkdown.Blog
