import BlogMarkdown.Blog.Conversion
import BlogMarkdown.Proofs.Blog.Permalinks
import BlogMarkdown.Proofs.Markdown.Targets
import BlogMarkdown.Proofs.Steps
/-!
# Which files get a name

A file gets its local name when a link first asks for it, in the middle of a rendering, and keeps it whatever becomes
of the rendering.  So a name has one of three sources: a link in the text of a doc, a link in a heading that could not
be rendered, or a link in a doc that could not be converted.
-/
namespace BlogMarkdown.Blog

open Markdown

/-- A target leads where a URL leads. -/
def LeadsTo (target url : String) : Prop :=
  ∃ u v, Url.ofText? target.toList = some u ∧ Url.ofText? url.toList = some v ∧ u.address = v.address

/-- How a link to a file is written. -/
def filePath (mediaDir name : String) : String := mediaDir ++ "/" ++ name

theorem mem_of_lookup {α β : Type} [BEq α] [LawfulBEq α] {a : α} {b : β} {l : List (α × β)}
    (h : l.lookup a = some b) : (a, b) ∈ l := by
  obtain ⟨before, after, rfl, -⟩ := List.lookup_eq_some_iff.1 h
  exact List.mem_append_right _ List.mem_cons_self

namespace Links

/-! ## Asking for files -/

/-- The number of the file that a target leads to, unless a doc is there. -/
def fileAt? (links : Links) (target : String) : Option Nat :=
  (Url.ofText? target.toList).bind fun url =>
    match links.doc? url.address with
    | some _ => none
    | none => links.files.lookup url.address

theorem fileAt?_eq_some {links : Links} {target : String} {number : Nat} (h : links.fileAt? target = some number) :
    ∃ url, Url.ofText? target.toList = some url ∧ links.doc? url.address = none ∧
      links.files.lookup url.address = some number := by
  obtain ⟨url, hurl, h⟩ := Option.bind_eq_some_iff.1 h
  cases hdoc : links.doc? url.address with
  | some id =>
    rw [hdoc] at h
    cases h
  | none =>
    rw [hdoc] at h
    exact ⟨url, hurl, hdoc, h⟩

theorem rewrite_of_file {links : Links} {target : String} {number : Nat} (h : links.fileAt? target = some number)
    (names : FileNames) : links.rewrite target names =
      (filePath links.mediaDir (links.useFile number names).1, (links.useFile number names).2) := by
  obtain ⟨url, hurl, hdoc, hfile⟩ := fileAt?_eq_some h
  simp only [rewrite, hurl, hdoc, hfile]
  rfl

/-- Only a link to a file changes the names. -/
theorem names_of_no_file {links : Links} {target : String} (h : links.fileAt? target = none) (names : FileNames) :
    (links.rewrite target names).2 = names := by
  rw [fileAt?] at h
  rw [rewrite]
  cases hurl : Url.ofText? target.toList with
  | none => rfl
  | some url =>
    rw [hurl, Option.bind_some] at h
    dsimp only
    cases hdoc : links.doc? url.address with
    | some id => rfl
    | none =>
      rw [hdoc] at h
      simp only [show links.files.lookup url.address = none from h]

/-- A name for a file, when some files have their names already. -/
def newName (links : Links) (number : Nat) (names : FileNames) : String :=
  String.ofList (freshName (names.map fun (_, name) => Text.lowercase name.toList)
    ((links.urls.lookup number).getD ""))

theorem useFile_named (links : Links) {number : Nat} {names : FileNames} {name : String}
    (h : names.lookup number = some name) : links.useFile number names = (name, names) := by
  rw [useFile, h]

theorem useFile_unnamed (links : Links) {number : Nat} {names : FileNames} (h : names.lookup number = none) :
    links.useFile number names = (links.newName number names, (number, links.newName number names) :: names) := by
  rw [useFile, h]
  rfl

/-- **A question leaves the names as they are, or gives a name to a file that has none.** -/
theorem names_of_rewrite (links : Links) (target : String) (names : FileNames) :
    (links.rewrite target names).2 = names ∨ ∃ number, links.fileAt? target = some number ∧
      names.lookup number = none ∧
      (links.rewrite target names).1 = filePath links.mediaDir (links.newName number names) ∧
      (links.rewrite target names).2 = (number, links.newName number names) :: names := by
  cases hfile : links.fileAt? target with
  | none => exact .inl (names_of_no_file hfile names)
  | some number =>
    rw [rewrite_of_file hfile]
    cases hname : names.lookup number with
    | some name =>
      rw [useFile_named links hname]
      exact .inl rfl
    | none =>
      rw [useFile_unnamed links hname]
      exact .inr ⟨number, rfl, hname, rfl, rfl⟩

/-- A name that a file has after a question it had before, or the question led to the file and got the name. -/
theorem lookup_of_rewrite {links : Links} {target : String} {names : FileNames} {number : Nat} {name : String}
    (h : (links.rewrite target names).2.lookup number = some name) :
    names.lookup number = some name ∨
      (links.rewrite target names).1 = filePath links.mediaDir name ∧ links.fileAt? target = some number := by
  rcases links.names_of_rewrite target names with hkept | ⟨asked, hfile, -, hform, hnew⟩
  · rw [hkept] at h
    exact .inl h
  · rw [hnew, List.lookup_cons] at h
    by_cases hn : number = asked
    · subst hn
      rw [beq_self_eq_true] at h
      cases h
      exact .inr ⟨hform, hfile⟩
    · rw [beq_false_of_ne hn] at h
      exact .inl h

theorem lookup_of_asked {links : Links} {number : Nat} {name : String} :
    ∀ {names names' : FileNames} {asked : List (String × String)}, Asked links.rewriter names asked names' →
    names'.lookup number = some name → names.lookup number = some name ∨
      ∃ p ∈ asked, p.2 = filePath links.mediaDir name ∧ links.fileAt? p.1 = some number
  | _, _, _, .nil _, h => .inl h
  | _, _, _, .cons target ha, h => by
    rcases lookup_of_asked ha h with h | ⟨p, hp, h⟩
    · rcases lookup_of_rewrite h with h | ⟨hform, h⟩
      · exact .inl h
      · exact .inr ⟨_, List.mem_cons_self, hform, h⟩
    · exact .inr ⟨p, List.mem_cons_of_mem _ hp, h⟩

/-! ## The table of files -/

/-- The files added one after the other, each given by its URL and its number. -/
def addFiles (links : Links) (files : List (String × Nat)) : Links :=
  files.foldl (fun links file => links.addFile file.1 file.2) links

/-- What a blog's rewriter knows: where its docs and its files were on the web. -/
def ofBlog (mediaDir : String) (docs : List (String × String)) (files : List (String × Nat)) : Links :=
  (addDocs ⟨mediaDir, [], [], []⟩ docs).addFiles files

/-- Adding a doc leaves alone all but the docs. -/
theorem addDoc_eq (links : Links) (link id : String) : ∃ docs, links.addDoc link id = { links with docs := docs } := by
  rw [addDoc]
  cases Url.ofText? link.toList with
  | none => exact ⟨links.docs, rfl⟩
  | some url => exact ⟨_, rfl⟩

theorem addDocs_eq : ∀ (docs : List (String × String)) (links : Links),
    ∃ known, links.addDocs docs = { links with docs := known }
  | [], links => ⟨links.docs, rfl⟩
  | doc :: docs, links => by
    obtain ⟨known, hdoc⟩ := addDoc_eq links doc.1 doc.2
    rw [addDocs, List.foldl_cons, hdoc]
    exact addDocs_eq docs { links with docs := known }

theorem urls_addFile (links : Links) (url : String) (number : Nat) :
    (links.addFile url number).urls = (number, url) :: links.urls := by
  rw [addFile]
  cases Url.ofText? url.toList <;> rfl

theorem mediaDir_addFile (links : Links) (url : String) (number : Nat) :
    (links.addFile url number).mediaDir = links.mediaDir := by
  rw [addFile]
  cases Url.ofText? url.toList <;> rfl

theorem mem_files_addFile {links : Links} {url : String} {number : Nat} {file : List Char × Nat}
    (h : file ∈ (links.addFile url number).files) :
    file ∈ links.files ∨
      file.2 = number ∧ ∃ parsed, Url.ofText? url.toList = some parsed ∧ parsed.address = file.1 := by
  rw [addFile] at h
  cases hurl : Url.ofText? url.toList with
  | none =>
    rw [hurl] at h
    exact .inl h
  | some parsed =>
    rw [hurl] at h
    rcases List.mem_cons.1 h with rfl | h
    · exact .inr ⟨rfl, parsed, rfl, rfl⟩
    · exact .inl h

theorem mediaDir_addFiles : ∀ (files : List (String × Nat)) (links : Links),
    (links.addFiles files).mediaDir = links.mediaDir
  | [], _ => rfl
  | file :: files, links => by rw [addFiles, List.foldl_cons, ← addFiles, mediaDir_addFiles files, mediaDir_addFile]

theorem urls_addFiles : ∀ (files : List (String × Nat)) (links : Links),
    (links.addFiles files).urls = (files.map Prod.swap).reverse ++ links.urls
  | [], _ => rfl
  | file :: files, links => by
    rw [addFiles, List.foldl_cons, ← addFiles, urls_addFiles files, urls_addFile, List.map_cons, List.reverse_cons,
      List.append_assoc]
    rfl

theorem mem_files_addFiles {address : List Char} {number : Nat} : ∀ (files : List (String × Nat)) (links : Links),
    (address, number) ∈ (links.addFiles files).files → (address, number) ∈ links.files ∨
      ∃ url, (url, number) ∈ files ∧ ∃ parsed, Url.ofText? url.toList = some parsed ∧ parsed.address = address
  | [], _, h => .inl h
  | file :: files, links, h => by
    rcases mem_files_addFiles files (links.addFile file.1 file.2) h with h | ⟨url, hmem, h⟩
    · rcases mem_files_addFile h with h | ⟨rfl, h⟩
      · exact .inl h
      · exact .inr ⟨file.1, List.mem_cons_self, h⟩
    · exact .inr ⟨url, List.mem_cons_of_mem _ hmem, h⟩

section

variable (mediaDir : String) (docs : List (String × String)) (files : List (String × Nat))

theorem mediaDir_ofBlog : (ofBlog mediaDir docs files).mediaDir = mediaDir := by
  obtain ⟨known, hdocs⟩ := addDocs_eq docs ⟨mediaDir, [], [], []⟩
  rw [ofBlog, mediaDir_addFiles, hdocs]

theorem urls_ofBlog : (ofBlog mediaDir docs files).urls = (files.map Prod.swap).reverse := by
  obtain ⟨known, hdocs⟩ := addDocs_eq docs ⟨mediaDir, [], [], []⟩
  rw [ofBlog, urls_addFiles, hdocs, List.append_nil]

end

/-- The table of files leads from the address of a file to its number. -/
theorem mem_of_lookup_files {mediaDir : String} {docs : List (String × String)} {files : List (String × Nat)}
    {address : List Char} {number : Nat} (h : (ofBlog mediaDir docs files).files.lookup address = some number) :
    ∃ url, (url, number) ∈ files ∧ ∃ parsed, Url.ofText? url.toList = some parsed ∧ parsed.address = address := by
  obtain ⟨known, hdocs⟩ := addDocs_eq docs ⟨mediaDir, [], [], []⟩
  have hmem := mem_of_lookup h
  rw [ofBlog, hdocs] at hmem
  exact (mem_files_addFiles files _ hmem).resolve_left nofun

end Links

/-- The links of a blog, by the links of its docs and the URLs of its attachments. -/
theorem linksOf_eq (mediaDir : String) (entries : List Entry) (attachments : List Attachment) :
    linksOf mediaDir entries attachments = Links.ofBlog mediaDir
      (entries.map fun entry => (entry.link, entry.doc.id)) (attachments.map (·.url)).zipIdx := by
  rw [linksOf, Links.ofBlog, Links.addDocs, Links.addFiles, List.foldl_map, List.zipIdx_map, List.foldl_map]
  rfl

theorem mediaDir_linksOf (mediaDir : String) (entries : List Entry) (attachments : List Attachment) :
    (linksOf mediaDir entries attachments).mediaDir = mediaDir := by
  rw [linksOf_eq, Links.mediaDir_ofBlog]

/-- The table of a blog leads to the attachment whose URL has the address. -/
theorem attachment_of_lookup {mediaDir : String} {entries : List Entry} {attachments : List Attachment}
    {address : List Char} {number : Nat}
    (h : (linksOf mediaDir entries attachments).files.lookup address = some number) :
    ∃ attachment, attachments[number]? = some attachment ∧
      ∃ url, Url.ofText? attachment.url.toList = some url ∧ url.address = address := by
  rw [linksOf_eq] at h
  obtain ⟨link, hmem, hlink⟩ := Links.mem_of_lookup_files h
  have hnumber := List.mk_mem_zipIdx_iff_getElem?.1 hmem
  rw [List.getElem?_map] at hnumber
  obtain ⟨attachment, hattachment, rfl⟩ := Option.map_eq_some_iff.1 hnumber
  exact ⟨attachment, hattachment, hlink⟩

/-! ## Where names come from -/

/-- A doc has a link or an image that leads where a URL leads. -/
def Doc.LinksTo (doc : Doc) (url : String) : Prop :=
  ∃ root target, rewritten .standard doc.html.toList = .ok root ∧ Names root target ∧ LeadsTo target url

/-- A doc has such a link or image inside a heading that cannot be rendered. -/
def Doc.LosesLinkTo (doc : Doc) (url : String) : Prop :=
  ∃ root target, rewritten .standard doc.html.toList = .ok root ∧ Loses root target ∧ LeadsTo target url

/-- A doc cannot be converted. -/
def Doc.FailsWith (doc : Doc) (e : Error) : Prop :=
  ∃ (links : Links) (names : FileNames), (convert .standard links.rewriter doc.html.toList names).1 = .error e

/-- Why a file has a name, when some docs are converted and others are set aside. -/
inductive Source (given docs : List Doc) (failures : List Error) (path url : String) : Prop
  /-- The text of a doc has a link to it. -/
  | written (doc : Doc) : doc ∈ docs → Shows doc.content.toList path → Source given docs failures path url
  /-- A doc has a link to it in a heading that is written as markup. -/
  | lost (doc : Doc) : doc ∈ docs → doc.LosesLinkTo url → Source given docs failures path url
  /-- A doc with a link to it was set aside. -/
  | failed (doc : Doc) (e : Error) : doc ∈ given → doc.FailsWith e → Error.document doc.title e ∈ failures →
    doc.LinksTo url → Source given docs failures path url

theorem Source.mono {given docs docs' : List Doc} {failures failures' : List Error} {path url : String}
    (hdocs : docs ⊆ docs') (hfailures : failures ⊆ failures') (h : Source given docs failures path url) :
    Source given docs' failures' path url := by
  cases h with
  | written doc hdoc h => exact .written doc (hdocs hdoc) h
  | lost doc hdoc h => exact .lost doc (hdocs hdoc) h
  | failed doc e hdoc hfails he h => exact .failed doc e hdoc hfails (hfailures he) h

/-- Every name that is given has a source. -/
def Converted.Sourced (given : List Doc) (mediaDir : String) (attachments : List Attachment) (done : Converted) :
    Prop :=
  ∀ number name, done.names.lookup number = some name → ∃ attachment, attachments[number]? = some attachment ∧
    Source given done.docs done.failures (filePath mediaDir name) attachment.url

section

variable {mediaDir : String} {entries : List Entry} {attachments : List Attachment} {given : List Doc}
  {keepGoing : Bool}

/-- What a conversion leaves behind in the table of names: a name was there before, or the conversion asked for the
attachment and got the name for it. -/
theorem name_of_convert {html : List Char} {names names' : FileNames} {result : Except Error (List Char)}
    (hconvert : convert .standard (linksOf mediaDir entries attachments).rewriter html names = (result, names'))
    {number : Nat} {name : String} (h : names'.lookup number = some name) :
    names.lookup number = some name ∨ ∃ attachment, attachments[number]? = some attachment ∧
      ∃ root target, rewritten .standard html = .ok root ∧ Names root target ∧ LeadsTo target attachment.url ∧
        ∀ text, result = .ok text → Shows text (filePath mediaDir name) ∨ Loses root target := by
  obtain ⟨asked, ha, hasked⟩ := asked_of_convert .standard (linksOf mediaDir entries attachments).rewriter html names
  rw [hconvert] at ha hasked
  rcases Links.lookup_of_asked ha h with h | ⟨⟨target, form⟩, hp, rfl, hfile⟩
  · exact .inl h
  · obtain ⟨url, hurl, -, hfile⟩ := Links.fileAt?_eq_some hfile
    obtain ⟨root, hroot, hnames, hshows⟩ := hasked _ hp
    obtain ⟨attachment, hnumber, url', hurl', haddress⟩ := attachment_of_lookup hfile
    rw [mediaDir_linksOf] at hshows
    exact .inr ⟨attachment, hnumber, root, target, hroot, hnames, ⟨url, url', hurl, hurl', haddress.symm⟩, hshows⟩

theorem convertDoc_ok {links : Links} {done done' : Converted} {doc : Doc}
    (h : convertDoc links keepGoing done doc = .ok done') :
    (∃ text names, convert .standard links.rewriter doc.html.toList done.names = (.ok text, names) ∧
      done' = { done with docs := done.docs ++ [{ doc with content := String.ofList text }], names := names }) ∨
    ∃ e names, convert .standard links.rewriter doc.html.toList done.names = (.error e, names) ∧
      keepGoing = true ∧
      done' = { done with failures := done.failures ++ [.document doc.title e], names := names } := by
  unfold convertDoc at h
  generalize convert .standard links.rewriter doc.html.toList done.names = outcome at h ⊢
  obtain ⟨result, names⟩ := outcome
  cases result with
  | ok text => exact .inl ⟨text, names, rfl, (Except.ok.inj h).symm⟩
  | error e =>
    cases keepGoing with
    | false => cases h
    | true => exact .inr ⟨e, names, rfl, rfl, (Except.ok.inj h).symm⟩

theorem sourced_convertDoc {done done' : Converted} {doc : Doc} (hdoc : doc ∈ given)
    (h : done.Sourced given mediaDir attachments)
    (hconvert : convertDoc (linksOf mediaDir entries attachments) keepGoing done doc = .ok done') :
    done'.Sourced given mediaDir attachments := by
  intro number name hname
  -- a name from before keeps its source, as docs and failures only grow; a new one has its source in this doc
  rcases convertDoc_ok hconvert with ⟨text, names, hc, rfl⟩ | ⟨e, names, hc, -, rfl⟩
  · rcases name_of_convert hc hname with hbefore | ⟨attachment, hnumber, root, target, hroot, -, hleads, hshows⟩
    · obtain ⟨attachment, hnumber, hsource⟩ := h number name hbefore
      exact ⟨attachment, hnumber, hsource.mono (List.subset_append_left _ _) (List.Subset.refl _)⟩
    · have hmem (doc : Doc) : doc ∈ done.docs ++ [doc] := List.mem_append_right _ List.mem_cons_self
      refine ⟨attachment, hnumber, ?_⟩
      rcases hshows text rfl with hshows | hloses
      · exact .written _ (hmem _) (by rwa [String.toList_ofList])
      · exact .lost _ (hmem _) ⟨root, target, hroot, hloses, hleads⟩
  · rcases name_of_convert hc hname with hbefore | ⟨attachment, hnumber, root, target, hroot, hnames, hleads, -⟩
    · obtain ⟨attachment, hnumber, hsource⟩ := h number name hbefore
      exact ⟨attachment, hnumber, hsource.mono (List.Subset.refl _) (List.subset_append_left _ _)⟩
    · have hfails : doc.FailsWith e := ⟨_, done.names, congrArg Prod.fst hc⟩
      exact ⟨attachment, hnumber, .failed doc e hdoc hfails (List.mem_append_right _ List.mem_cons_self)
        ⟨root, target, hroot, hnames, hleads⟩⟩

end

/-! ## Blogs -/

theorem ofChannel_ok {channel : Export.Channel} {options : Options} {blog : Blog}
    (h : ofChannel channel options = .ok blog) :
    ∃ entries attachments done, entriesOf channel = .ok entries ∧
      (entries.map (·.doc)).foldlM (convertDoc (linksOf options.mediaDir entries attachments) options.keepGoing) {} =
        .ok done ∧ blog.docs = done.docs ∧ blog.failures = done.failures ∧
      blog.attachments = attachments.zipIdx.map fun (attachment, number) =>
        { attachment with filename := done.names.lookup number } := by
  unfold ofChannel at h
  obtain ⟨author, -, h⟩ := exists_of_bind h
  obtain ⟨entries, hentries, h⟩ := exists_of_bind h
  obtain ⟨attachments, -, h⟩ := exists_of_bind h
  obtain ⟨done, hdone, h⟩ := exists_of_bind h
  cases h
  exact ⟨entries, attachments, done, hentries, hdone, rfl, rfl, rfl⟩

/-- **Where the name of a file comes from.**  An attachment of a converted blog has a name only if the text of a doc
shows the link to it under that name, or a doc has a link to it inside a heading that could not be rendered, or a doc
with a link to it was set aside. -/
theorem source_of_filename {channel : Export.Channel} {options : Options} {blog : Blog}
    (h : ofChannel channel options = .ok blog) {attachment : Attachment} (hattachment : attachment ∈ blog.attachments)
    {name : String} (hname : attachment.filename = some name) :
    ∃ entries, entriesOf channel = .ok entries ∧
      Source (entries.map (·.doc)) blog.docs blog.failures (filePath options.mediaDir name) attachment.url := by
  obtain ⟨entries, attachments, done, hentries, hdone, hdocs, hfailures, hattachments⟩ := ofChannel_ok h
  have hsourced : done.Sourced (entries.map (·.doc)) options.mediaDir attachments :=
    foldlM_preserves (fun _ hdoc _ _ => sourced_convertDoc hdoc) (fun _ _ h => by cases h) hdone
  rw [hattachments] at hattachment
  obtain ⟨⟨attachment, number⟩, hmem, rfl⟩ := List.mem_map.1 hattachment
  obtain ⟨attachment', hnumber, hsource⟩ := hsourced number name hname
  rw [List.mk_mem_zipIdx_iff_getElem?, hnumber] at hmem
  cases hmem
  exact ⟨entries, hentries, hdocs ▸ hfailures ▸ hsource⟩

/-! ## Pages with one file -/

/-- A channel of one page, to which a file was uploaded. -/
def channelOf (html : String) : Export.Channel :=
  { items := [
      { postType := "page", postName := "p", postId := 1, content := html, postDateGmt := zeroTime, status := "publish",
        commentStatus := "closed" },
      { postType := "attachment", postId := 2, postParent := 1, attachmentUrl := "file:///f.png" }] }

/-- The doc of such a channel. -/
def pageOf (html content : String) : Doc :=
  { id := "p", title := "", content := content, html := html, kind := .page, status := .publish, published := none,
    commentsEnabled := false }

/-- Its file under the name that a link gives it. -/
def namedFile : Attachment := { parent := "p", url := "file:///f.png", filename := some "f.png" }

/-- A page that links to the file in a heading. -/
def linkingPage : Doc := pageOf "<h2>See <a href='file:///f.png'>f</a></h2>" "## See [f](wpmedia/f.png)\n"

theorem source_of_linked_file :
    ofChannel (channelOf linkingPage.html) {} =
        .ok { author := {}, docs := [linkingPage], attachments := [namedFile], failures := [] } ∧
      ∃ entries, entriesOf (channelOf linkingPage.html) = .ok entries ∧
        Source (entries.map (·.doc)) [linkingPage] [] (filePath "wpmedia" "f.png") "file:///f.png" := by
  have hblog : ofChannel (channelOf linkingPage.html) {} =
      .ok { author := {}, docs := [linkingPage], attachments := [namedFile], failures := [] } :=
    eq_ok_of_toOption (by decide +kernel)
  exact ⟨hblog, source_of_filename hblog List.mem_cons_self rfl⟩

/-- A link gives the file its name; then a caption without an image stops the conversion, and no doc is left that could
link to the file. -/
theorem named_by_failed_page :
    ∃ blog, ofChannel (channelOf "<a href='file:///f.png'>f</a>[caption]x[/caption]") { keepGoing := true } = .ok blog ∧
      blog.manifest = [("file:///f.png", "f.png")] ∧
      ¬ ∃ doc ∈ blog.docs, Shows doc.content.toList (filePath "wpmedia" "f.png") := by
  refine ⟨{ author := {}, docs := [], attachments := [namedFile], failures := [.document "" .captionShape] },
    eq_ok_of_toOption (by decide +kernel), rfl, ?_⟩
  rintro ⟨doc, hdoc, -⟩
  cases hdoc

/-- The same in a heading, which is written as the markup it is. -/
example : ofChannel (channelOf "<h2><a href='file:///f.png'>f</a>[caption]x[/caption]</h2>") {} = .ok
    { author := {}
      docs := [pageOf "<h2><a href='file:///f.png'>f</a>[caption]x[/caption]</h2>"
        "<h2><a href=\"file:///f.png\">f</a><caption>x</caption></h2>\n"]
      attachments := [namedFile], failures := [] } :=
  eq_ok_of_toOption (by decide +kernel)

end BlogMarkdown.Blog
