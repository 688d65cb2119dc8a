import BlogMarkdown.Proofs.Blog.Filenames
import Mathlib.Data.List.Nodup
/-!
# Names of files

A file gets its name when a link first leads to it, and the name is made so that no other file has it, whatever digests
come out.  So over every sequence of questions the names differ even in lower case, a file keeps its name, and all
links to it are written alike.
-/
namespace BlogMarkdown.Text

theorem length_lowerChar_pos (c : Char) : 0 < (lowerChar c).length := by
  rw [lowerChar]
  split
  · exact Nat.one_pos
  split
  · exact Nat.two_pos
  split <;> exact Nat.one_pos

theorem length_le_lowercaseFrom : ∀ (before s : List Char), s.length ≤ (lowercaseFrom before s).length
  | _, [] => Nat.zero_le _
  | before, c :: s => by
    have hs := length_le_lowercaseFrom (c :: before) s
    have hc := length_lowerChar_pos c
    rw [lowercaseFrom, List.length_append, List.length_cons]
    split
    · rw [List.length_singleton]
      omega
    · omega

/-- Lower case is never shorter. -/
theorem length_le_lowercase (s : List Char) : s.length ≤ (lowercase s).length := length_le_lowercaseFrom [] s

end BlogMarkdown.Text

namespace BlogMarkdown.Blog

open Text (lowercase)

namespace Links

/-! ## Names that are not in use -/

theorem le_foldl_max : ∀ (ns : List Nat) (start : Nat), start ≤ ns.foldl max start ∧ ∀ n ∈ ns, n ≤ ns.foldl max start
  | [], _ => ⟨Nat.le_refl _, nofun⟩
  | n :: ns, start => by
    obtain ⟨hstart, hall⟩ := le_foldl_max ns (max start n)
    rw [List.foldl_cons]
    exact ⟨by omega, List.forall_mem_cons.2 ⟨by omega, hall⟩⟩

theorem lowercase_digestName? {used : List (List Char)} {url : String} {base name : List Char} :
    ∀ {fuel attempt : Nat}, digestName? used url base fuel attempt = some name → lowercase name ∉ used
  | 0, _, h => by cases h
  | fuel + 1, attempt, h => by
    rw [digestName?] at h
    split at h
    · exact lowercase_digestName? h
    · rename_i hfree
      cases h
      simpa using hfree

theorem lowercase_longName (used : List (List Char)) (base : List Char) : lowercase (longName used base) ∉ used := by
  -- the name is longer than all that are in use, and lower case makes nothing shorter
  intro hmem
  have hused := (le_foldl_max (used.map List.length) 0).2 _ (List.mem_map_of_mem hmem)
  have hlower := Text.length_le_lowercase (longName used base)
  have hlong : (longName used base).length = (used.map List.length).foldl max 0 + 1 + base.length := by
    rw [longName, List.length_append, List.length_replicate]
  omega

/-- **A fresh name is in use by no file**, whether a digest was found for it or not. -/
theorem lowercase_freshName (used : List (List Char)) (url : String) : lowercase (freshName used url) ∉ used := by
  rw [freshName]
  split
  · cases hdigest : digestName? used url (baseName url) attemptLimit 0 with
    | some name => exact lowercase_digestName? hdigest
    | none => exact lowercase_longName used _
  · rename_i hfree
    simpa using hfree

/-! ## One question -/

/-- No file has two names, and no two files have names that are one name in lower case. -/
structure Apart (names : FileNames) : Prop where
  numbers : (names.map (·.1)).Nodup
  lower : (names.map fun (_, name) => lowercase name.toList).Nodup

theorem Apart.nil : Apart [] := ⟨List.nodup_nil, List.nodup_nil⟩

theorem Apart.rewrite {links : Links} {names : FileNames} (h : Apart names) (target : String) :
    Apart (links.rewrite target names).2 := by
  rcases links.names_of_rewrite target names with hkept | ⟨number, -, hnone, -, hnew⟩
  · rwa [hkept]
  · rw [hnew]
    refine ⟨List.nodup_cons.2 ⟨fun hmem => ?_, h.numbers⟩, List.nodup_cons.2 ⟨?_, h.lower⟩⟩
    · obtain ⟨⟨_, name⟩, hname, rfl⟩ := List.mem_map.1 hmem
      simpa using List.lookup_eq_none_iff.1 hnone _ hname
    · show lowercase (links.newName number names).toList ∉ _
      rw [newName, String.toList_ofList]
      exact lowercase_freshName _ _

theorem lookup_rewrite {links : Links} {names : FileNames} {number : Nat} {name : String}
    (h : names.lookup number = some name) (target : String) :
    (links.rewrite target names).2.lookup number = some name := by
  rcases links.names_of_rewrite target names with hkept | ⟨other, -, hnone, -, hnew⟩
  · rwa [hkept]
  · have hne : number ≠ other := fun heq => by rw [← heq, h] at hnone; cases hnone
    rw [hnew, List.lookup_cons, beq_false_of_ne hne]
    exact h

/-- A link to a file is written with the name that the file has then. -/
theorem rewrite_eq_filePath {links : Links} {target : String} {number : Nat} (h : links.fileAt? target = some number)
    (names : FileNames) : ∃ name, (links.rewrite target names).2.lookup number = some name ∧
      (links.rewrite target names).1 = filePath links.mediaDir name := by
  rw [rewrite_of_file h]
  cases hname : names.lookup number with
  | some name =>
    rw [useFile_named links hname]
    exact ⟨name, hname, rfl⟩
  | none =>
    rw [useFile_unnamed links hname]
    exact ⟨links.newName number names, List.lookup_cons_self, rfl⟩

/-! ## Questions one after the other -/

/-- The targets with the forms they got, asked for one after the other, and the names given by then. -/
def ask (links : Links) (names : FileNames) : List String → List (String × String) × FileNames
  | [] => ([], names)
  | target :: targets =>
    let (form, names) := links.rewrite target names
    let (calls, names) := ask links names targets
    ((target, form) :: calls, names)

theorem ask_cons (links : Links) (names : FileNames) (target : String) (targets : List String) :
    links.ask names (target :: targets) =
      ((target, (links.rewrite target names).1) :: (links.ask (links.rewrite target names).2 targets).1,
        (links.ask (links.rewrite target names).2 targets).2) := rfl

theorem ask_append (links : Links) : ∀ (targets more : List String) (names : FileNames),
    (links.ask names (targets ++ more)).2 = (links.ask (links.ask names targets).2 more).2
  | [], _, _ => rfl
  | target :: targets, more, names => by rw [List.cons_append, ask_cons, ask_cons, ask_append links targets more]

theorem Apart.ask {links : Links} : ∀ {names : FileNames}, Apart names → ∀ targets, Apart (links.ask names targets).2
  | _, h, [] => h
  | _, h, target :: targets => by
    rw [ask_cons]
    exact Apart.ask (h.rewrite target) targets

/-- **A file keeps its name.** -/
theorem lookup_ask {links : Links} {number : Nat} {name : String} : ∀ {names : FileNames},
    names.lookup number = some name → ∀ targets, (links.ask names targets).2.lookup number = some name
  | _, h, [] => h
  | _, h, target :: targets => by
    rw [ask_cons]
    exact lookup_ask (lookup_rewrite h target) targets

/-- **Every link to a file is written with the name that the file has in the end.** -/
theorem filePath_of_call {links : Links} {call : String × String} {number : Nat}
    (hfile : links.fileAt? call.1 = some number) : ∀ (targets : List String) (names : FileNames),
    call ∈ (links.ask names targets).1 → ∃ name, (links.ask names targets).2.lookup number = some name ∧
      call.2 = filePath links.mediaDir name
  | [], _, h => by cases h
  | target :: targets, names, h => by
    rw [ask_cons] at h ⊢
    rcases List.mem_cons.1 h with rfl | h
    · obtain ⟨name, hname, hform⟩ := rewrite_eq_filePath hfile names
      exact ⟨name, lookup_ask hname targets, hform⟩
    · exact filePath_of_call hfile targets (links.rewrite target names).2 h

/-- **Only a link gives a file its name.** -/
theorem call_of_lookup {links : Links} {number : Nat} {name : String} : ∀ (targets : List String) (names : FileNames),
    (links.ask names targets).2.lookup number = some name → names.lookup number = some name ∨
      ∃ call ∈ (links.ask names targets).1, links.fileAt? call.1 = some number
  | [], _, h => .inl h
  | target :: targets, names, h => by
    rw [ask_cons] at h ⊢
    rcases call_of_lookup targets (links.rewrite target names).2 h with h | ⟨call, hcall, hfile⟩
    · refine (lookup_of_rewrite h).imp_right fun ⟨_, hfile⟩ => ?_
      exact ⟨(target, (links.rewrite target names).1), List.mem_cons_self, hfile⟩
    · exact .inr ⟨call, List.mem_cons_of_mem _ hcall, hfile⟩

/-! ## The files of a blog -/

/-- The name of each file by its number. -/
def filenames (links : Links) (names : FileNames) : List (Option String) :=
  (List.range links.fileCount).map fun number => names.lookup number

theorem lt_fileCount {links : Links} {number : Nat} (h : number ∈ links.urls.map (·.1)) : number < links.fileCount := by
  obtain ⟨file, hfile, rfl⟩ := List.mem_map.1 h
  exact (le_foldl_max (links.urls.map (·.1 + 1)) 0).2 _ (List.mem_map_of_mem (f := (·.1 + 1)) hfile)

theorem lt_fileCount_ofBlog {mediaDir : String} {docs : List (String × String)} {files : List (String × Nat)}
    {file : String × Nat} (h : file ∈ files) : file.2 < (ofBlog mediaDir docs files).fileCount := by
  refine lt_fileCount ?_
  rw [urls_ofBlog, List.map_reverse, List.map_map]
  exact List.mem_reverse.2 (List.mem_map_of_mem (f := Prod.fst ∘ Prod.swap) h)

/-- A link leads to a file of the blog only. -/
theorem mem_of_fileAt? {mediaDir : String} {docs : List (String × String)} {files : List (String × Nat)}
    {target : String} {number : Nat} (h : (ofBlog mediaDir docs files).fileAt? target = some number) :
    ∃ url, (url, number) ∈ files := by
  obtain ⟨_, -, -, hfile⟩ := fileAt?_eq_some h
  exact (mem_of_lookup_files hfile).imp fun _ => And.left

theorem getElem?_filenames {links : Links} (names : FileNames) {number : Nat} (h : number < links.fileCount) :
    (links.filenames names)[number]? = some (names.lookup number) := by
  rw [filenames, List.getElem?_map, List.getElem?_range h]
  rfl

theorem lookup_of_filenames {links : Links} {names : FileNames} {number : Nat} {name : Option String}
    (h : (links.filenames names)[number]? = some name) : number < links.fileCount ∧ names.lookup number = name := by
  rw [filenames, List.getElem?_map] at h
  obtain ⟨n, hn, hname⟩ := Option.map_eq_some_iff.1 h
  obtain ⟨hlt, rfl⟩ := List.getElem?_eq_some_iff.1 hn
  rw [List.getElem_range] at hname
  exact ⟨by simpa using hlt, hname⟩

/-- Links with the same scheme, host, port and path lead to the same file. -/
theorem fileAt?_congr {links : Links} {target other : String} (h : place? target = place? other) :
    links.fileAt? target = links.fileAt? other := by
  rw [place?, place?] at h
  rw [fileAt?, fileAt?]
  cases hurl : Url.ofText? target.toList with
  | none =>
    rw [hurl, Option.map_none] at h
    rw [Option.map_eq_none_iff.1 h.symm]
  | some url =>
    rw [hurl, Option.map_some] at h
    obtain ⟨url', hurl', hplace⟩ := Option.map_eq_some_iff.1 h.symm
    have haddress : url.address = url'.address := by
      simp only [Url.place, Prod.mk.injEq] at hplace
      obtain ⟨hscheme, hhost, hport, hpath⟩ := hplace
      rw [Url.address, Url.address, hscheme, hhost, hport, hpath]
    rw [hurl', Option.bind_some, Option.bind_some, haddress]

/-- What is true of some names of files, given the calls that led to them. -/
structure Naming (links : Links) (files : List (String × Nat)) (calls : List (String × String))
    (filenames : List (Option String)) : Prop where
  /-- Two files have different names, also in lower case. -/
  apart : ∀ (number other : Nat) (name name' : String), filenames[number]? = some (some name) →
    filenames[other]? = some (some name') → lowercase name.toList = lowercase name'.toList → number = other
  /-- A link to a file is written as the path to the file under its name. -/
  answered : ∀ call ∈ calls, ∀ number, links.fileAt? call.1 = some number →
    ∃ name, filenames[number]? = some (some name) ∧ call.2 = filePath links.mediaDir name
  /-- So all links to one place are written alike. -/
  alike : ∀ call ∈ calls, ∀ other ∈ calls, (links.fileAt? call.1).isSome → place? call.1 = place? other.1 →
    call.2 = other.2
  /-- A file that no link leads to has no name. -/
  unasked : ∀ file ∈ files, (∀ call ∈ calls, links.fileAt? call.1 ≠ some file.2) → filenames[file.2]? = some none

/-- **The names of the files of a blog**, after any questions: they differ even in lower case, every link to a file was
written with the name that the file has, and no file has a name without a link to it.  Whatever is asked after that, a
file keeps its name. -/
theorem naming_of_ask (mediaDir : String) (docs : List (String × String)) (files : List (String × Nat))
    (targets more : List String) :
    let links := ofBlog mediaDir docs files
    Naming links files (links.ask [] targets).1 (links.filenames (links.ask [] targets).2) ∧
      ∀ (number : Nat) (name : String), (links.filenames (links.ask [] targets).2)[number]? = some (some name) →
        (links.filenames (links.ask [] (targets ++ more)).2)[number]? = some (some name) := by
  intro links
  have hapart : Apart (links.ask [] targets).2 := Apart.nil.ask targets
  have hanswered : ∀ call ∈ (links.ask [] targets).1, ∀ number, links.fileAt? call.1 = some number →
      ∃ name, (links.filenames (links.ask [] targets).2)[number]? = some (some name) ∧
        call.2 = filePath links.mediaDir name := fun call hcall number hfile => by
    obtain ⟨name, hname, hform⟩ := filePath_of_call hfile targets [] hcall
    obtain ⟨url, hmem⟩ := mem_of_fileAt? hfile
    exact ⟨name, by rw [getElem?_filenames _ (lt_fileCount_ofBlog hmem), hname], hform⟩
  refine ⟨⟨fun number other name name' h h' hlower => ?_, hanswered, fun call hcall other hother hsome hplace => ?_,
    fun file hfile hcalls => ?_⟩, fun number name h => ?_⟩
  · have hmem := mem_of_lookup (lookup_of_filenames h).2
    have hmem' := mem_of_lookup (lookup_of_filenames h').2
    exact congrArg Prod.fst (List.inj_on_of_nodup_map hapart.lower hmem hmem' hlower)
  · obtain ⟨number, hnumber⟩ := Option.isSome_iff_exists.1 hsome
    obtain ⟨name, hname, hform⟩ := hanswered call hcall number hnumber
    obtain ⟨name', hname', hform'⟩ := hanswered other hother number (fileAt?_congr hplace ▸ hnumber)
    rw [hname] at hname'
    cases hname'
    rw [hform, hform']
  · rw [getElem?_filenames _ (lt_fileCount_ofBlog hfile)]
    cases hname : (links.ask [] targets).2.lookup file.2 with
    | none => rfl
    | some name =>
      rcases call_of_lookup targets [] hname with h | ⟨call, hcall, hfile'⟩
      · cases h
      · exact absurd hfile' (hcalls call hcall)
  · obtain ⟨hlt, hname⟩ := lookup_of_filenames h
    rw [getElem?_filenames _ hlt, ask_append, lookup_ask hname more]

-- The names of two files that differ only in case: the one that a link leads to first keeps the plain name.
example : let links := ofBlog "m" [] [("file:///a/x.png", 0), ("file:///b/X.png", 1)]
    (links.ask [] ["file:///b/X.png", "file:///a/x.png", "file:///b/X.png?q"]).1.map (·.2) =
      ["m/X.png", "m/b5c7a516_x.png", "m/X.png"] := by decide +kernel

end Links

end BlogMarkdown.Blog
