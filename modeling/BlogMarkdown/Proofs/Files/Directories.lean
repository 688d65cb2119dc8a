import BlogMarkdown.Files.Tree
import BlogMarkdown.Proofs.Steps
import Mathlib.Data.List.DropRight
import Mathlib.Data.List.Nodup
/-!
# Directories and the files written into them

Where a path leads depends on the directories of a tree alone.  Making directories keeps all that is there and adds no
file; writing a file keeps all directories.  So files that are written one after the other under names without slashes
stand side by side in the directory that the path before their names leads to.
-/
namespace BlogMarkdown.Files

/-- A name that leads one step down from any directory. -/
def IsPlainName (name : String) : Prop := name ≠ "" ∧ name ≠ "." ∧ name ≠ ".." ∧ '/' ∉ name.toList

namespace Tree

/-! ## Entries -/

theorem lookup_map_replace (place : Place) (entry : Entry) (q : Place) : ∀ entries : List (Place × Entry),
    (entries.map fun (other, old) => if other = place then (place, entry) else (other, old)).lookup q =
      if q = place then (entries.lookup q).map fun _ => entry else entries.lookup q
  | [] => by split <;> rfl
  | (other, old) :: entries => by
    rw [List.map_cons, List.lookup_cons, List.lookup_cons, lookup_map_replace place entry q entries]
    by_cases hother : other = place
    · subst hother
      rw [if_pos rfl]
      by_cases hq : q = other
      · subst hq
        simp
      · simp only [if_neg hq, beq_false_of_ne hq]
    · rw [if_neg hother]
      by_cases hq : q = other
      · subst hq
        simp [hother]
      · simp [beq_false_of_ne hq]

theorem lookup_put (tree : Tree) (place : Place) (entry : Entry) (q : Place) :
    (tree.put place entry).entries.lookup q = if q = place then some entry else tree.entries.lookup q := by
  unfold put
  by_cases hthere : (tree.entries.lookup place).isSome
  · rw [if_pos hthere]
    show (tree.entries.map _).lookup q = _
    rw [lookup_map_replace]
    by_cases hq : q = place
    · subst hq
      rw [if_pos rfl, if_pos rfl]
      obtain ⟨old, hold⟩ := Option.isSome_iff_exists.1 hthere
      rw [hold]
      rfl
    · rw [if_neg hq, if_neg hq]
  · rw [if_neg hthere]
    show (tree.entries ++ [(place, entry)]).lookup q = _
    rw [List.lookup_append, List.lookup_cons, List.lookup_nil]
    by_cases hq : q = place
    · subst hq
      rw [Option.not_isSome_iff_eq_none.1 hthere, beq_self_eq_true, if_pos rfl]
      rfl
    · rw [beq_false_of_ne hq, if_neg hq]
      exact Option.or_none

theorem entry?_put (tree : Tree) {place : Place} (hplace : place ≠ []) (entry : Entry) (q : Place) :
    entry? (tree.put place entry) q = if q = place then some entry else tree.entry? q := by
  unfold entry?
  rw [lookup_put]
  by_cases hq : q = []
  · subst hq
    rw [if_pos rfl, if_neg hplace.symm]
    rfl
  · rw [if_neg hq, if_neg hq]

/-! ## Following paths -/

/-- Some steps from a place lead to a directory at another. -/
def Follows (tree : Tree) (start : Place) (steps : List String) (place : Place) : Prop :=
  steps.foldlM tree.next start = .ok place ∧ tree.entry? place = some .directory

/-- A path leads to a directory. -/
def LeadsTo (tree : Tree) (here : Place) (path : String) (place : Place) : Prop :=
  tree.Follows (startOf here path) (parts path) place

theorem next_ok {tree : Tree} {place q : Place} {part : String} (h : tree.next place part = .ok q) :
    tree.entry? place = some .directory := by
  unfold next at h
  split at h
  · cases h
  · cases h
  · assumption

/-- A step is the same in every tree that has the directory. -/
theorem next_congr {tree tree' : Tree} {place : Place} (h : tree.entry? place = some .directory)
    (h' : tree'.entry? place = some .directory) (part : String) : tree'.next place part = tree.next place part := by
  unfold next
  rw [h, h']

theorem next_stay {tree : Tree} {place : Place} (h : tree.entry? place = some .directory) :
    tree.next place "" = .ok place := by
  unfold next
  rw [h]
  rfl

theorem next_plain {tree : Tree} {place q : Place} {name : String} (hname : IsPlainName name)
    (h : tree.next place name = .ok q) : q = place ++ [name] := by
  obtain ⟨hempty, hdot, hdots, -⟩ := hname
  unfold next at h
  rw [next_ok h] at h
  dsimp only at h
  rw [if_neg (by simp [isStay, hempty, hdot]), if_neg hdots] at h
  split at h
  · cases h
  · exact (Except.ok.inj h).symm

theorem foldlM_next_mono {tree tree' : Tree}
    (h : ∀ p, tree.entry? p = some .directory → tree'.entry? p = some .directory) :
    ∀ {steps : List String} {start place : Place}, steps.foldlM tree.next start = .ok place →
      steps.foldlM tree'.next start = .ok place
  | [], _, _, hsteps => hsteps
  | step :: steps, start, place, hsteps => by
    rw [List.foldlM_cons] at hsteps
    obtain ⟨after, hstep, hsteps⟩ := exists_of_bind hsteps
    have hdirectory : tree.entry? start = some .directory := next_ok hstep
    rw [List.foldlM_cons, next_congr hdirectory (h start hdirectory), hstep]
    exact foldlM_next_mono h hsteps

theorem Follows.mono {tree tree' : Tree} (h : ∀ p, tree.entry? p = some .directory → tree'.entry? p = some .directory)
    {start place : Place} {steps : List String} (hsteps : tree.Follows start steps place) :
    tree'.Follows start steps place :=
  ⟨foldlM_next_mono h hsteps.1, h place hsteps.2⟩

theorem Follows.unique {tree : Tree} {start place place' : Place} {steps : List String}
    (h : tree.Follows start steps place) (h' : tree.Follows start steps place') : place = place' :=
  Except.ok.inj (h.1.symm.trans h'.1)

theorem foldlM_next_append_ok {tree : Tree} {start place : Place} {steps more : List String}
    (h : (steps ++ more).foldlM tree.next start = .ok place) :
    ∃ middle, steps.foldlM tree.next start = .ok middle ∧ more.foldlM tree.next middle = .ok place := by
  rw [List.foldlM_append] at h
  exact exists_of_bind h

theorem foldlM_next_append {tree : Tree} {start middle place : Place} {steps more : List String}
    (h : steps.foldlM tree.next start = .ok middle) (h' : more.foldlM tree.next middle = .ok place) :
    (steps ++ more).foldlM tree.next start = .ok place := by
  rw [List.foldlM_append, h]
  exact h'

/-- Blank steps lead nowhere else. -/
theorem follows_append_blanks {tree : Tree} {start place : Place} {steps : List String}
    (h : tree.Follows start steps place) : ∀ blanks : List String, (∀ blank ∈ blanks, blank = "") →
      tree.Follows start (steps ++ blanks) place
  | [], _ => by rwa [List.append_nil]
  | blank :: blanks, hblanks => by
    obtain rfl := hblanks blank List.mem_cons_self
    have hone : tree.Follows start (steps ++ [""]) place := by
      refine ⟨foldlM_next_append h.1 ?_, h.2⟩
      rw [List.foldlM_cons, next_stay h.2]
      rfl
    have hmore := follows_append_blanks hone blanks fun blank h => hblanks blank (List.mem_cons_of_mem _ h)
    rwa [List.append_assoc] at hmore

theorem isDirectory_iff {tree : Tree} {start : Place} {steps : List String} :
    tree.isDirectory start steps = true ↔ ∃ place, tree.Follows start steps place := by
  unfold isDirectory Follows
  cases steps.foldlM tree.next start with
  | error fault => simp
  | ok place => simp

end Tree

/-! ## Joining a name to a path -/

theorem parts_plain {name : String} (h : IsPlainName name) : parts name = [name] := by
  obtain ⟨-, -, -, hslash⟩ := h
  have hone : name.toList.splitOnP (· = '/') = [name.toList] :=
    List.splitOnP_eq_singleton fun c hc => decide_eq_false fun heq => hslash (heq ▸ hc)
  rw [parts, hone, List.map_singleton, String.ofList_toList]

theorem parts_append_slash (s t : List Char) :
    parts (String.ofList (s ++ '/' :: t)) = parts (String.ofList s) ++ parts (String.ofList t) := by
  unfold parts
  rw [String.toList_ofList, String.toList_ofList, String.toList_ofList, List.splitOnP_append_cons _ _ (by rfl),
    List.map_append]

theorem not_isAbsolute_plain {name : String} (h : IsPlainName name) : isAbsolute name = false := by
  obtain ⟨-, -, -, hslash⟩ := h
  refine decide_eq_false fun hhead => hslash ?_
  exact List.mem_of_mem_head? hhead

/-- The steps of a path with a plain name at its end are those of the path, up to a blank one, and the name. -/
theorem parts_join (directory : String) {name : String} (h : IsPlainName name) :
    ∃ above, parts (join directory name) = above ++ [name] ∧
      (parts directory = above ∨ parts directory = above ++ [""]) := by
  unfold join
  rw [not_isAbsolute_plain h]
  by_cases hempty : directory = ""
  · subst hempty
    exact ⟨[], by rw [if_pos (.inr rfl), parts_plain h]; rfl, .inr rfl⟩
  rw [if_neg (by simp [hempty])]
  by_cases hslash : directory.toList.getLast? = some '/'
  · obtain ⟨above, habove⟩ := List.getLast?_eq_some_iff.1 hslash
    have hdirectory : directory = String.ofList (above ++ '/' :: []) := by
      rw [← habove, String.ofList_toList]
    have hjoin : directory ++ name = String.ofList (above ++ '/' :: name.toList) := by
      rw [hdirectory, ← String.toList_inj]
      simp
    rw [if_pos hslash, hjoin, parts_append_slash, String.ofList_toList, parts_plain h, hdirectory, parts_append_slash]
    exact ⟨_, rfl, .inr rfl⟩
  · have hjoin : directory ++ "/" ++ name = String.ofList (directory.toList ++ '/' :: name.toList) := by
      rw [← String.toList_inj]
      simp
    rw [if_neg hslash, hjoin, parts_append_slash, String.ofList_toList, String.ofList_toList, parts_plain h]
    exact ⟨_, rfl, .inl rfl⟩

theorem startOf_join (here : Place) (directory : String) {name : String} (h : IsPlainName name) :
    startOf here (join directory name) = startOf here directory := by
  have habsolute : isAbsolute (join directory name) = isAbsolute directory := by
    unfold join
    rw [not_isAbsolute_plain h]
    by_cases hempty : directory = ""
    · subst hempty
      rw [if_pos (.inr rfl), not_isAbsolute_plain h]
      rfl
    rw [if_neg (by simp [hempty])]
    have hhead (rest : String) : isAbsolute (directory ++ rest) = isAbsolute directory := by
      unfold isAbsolute
      rw [String.toList_append, List.head?_append_of_ne_nil _ fun h => hempty (String.toList_eq_nil_iff.1 h)]
    split
    · exact hhead name
    · rw [String.append_assoc]
      exact hhead _
  unfold startOf
  rw [habsolute]

namespace Tree

/-- Where a plain name in a directory leads: into the directory that the path to it leads to. -/
theorem leadsTo_of_locate_join {tree : Tree} {here place : Place} {directory name : String} (hname : IsPlainName name)
    (h : (parts (join directory name)).foldlM tree.next (startOf here (join directory name)) = .ok place) :
    ∃ above, tree.LeadsTo here directory above ∧ place = above ++ [name] := by
  obtain ⟨steps, hjoin, hparts⟩ := parts_join directory hname
  rw [hjoin, startOf_join here directory hname] at h
  obtain ⟨above, habove, hlast⟩ := foldlM_next_append_ok h
  have hstep : tree.next above name = .ok place := by
    rw [List.foldlM_cons] at hlast
    obtain ⟨after, hnext, hlast⟩ := exists_of_bind hlast
    cases hlast
    exact hnext
  have hfollows : tree.Follows (startOf here directory) steps above := ⟨habove, next_ok hstep⟩
  refine ⟨above, ?_, next_plain hname hstep⟩
  rcases hparts with hparts | hparts
  · rwa [LeadsTo, hparts]
  · rw [LeadsTo, hparts]
    exact follows_append_blanks hfollows [""] fun _ => List.mem_singleton.1

/-! ## Making directories -/

/-- A tree has all that another has, and no file beyond. -/
structure Grows (tree tree' : Tree) : Prop where
  kept : ∀ p entry, tree.entry? p = some entry → tree'.entry? p = some entry
  files : ∀ p content, tree'.entry? p = some (.file content) → tree.entry? p = some (.file content)

theorem Grows.refl (tree : Tree) : Grows tree tree := ⟨fun _ _ h => h, fun _ _ h => h⟩

theorem Grows.trans {a b c : Tree} (hab : Grows a b) (hbc : Grows b c) : Grows a c :=
  ⟨fun p entry h => hbc.kept p entry (hab.kept p entry h), fun p content h => hab.files p content (hbc.files p content h)⟩

theorem grows_put_directory {tree : Tree} {place : Place} (hplace : place ≠ []) (h : tree.entry? place = none) :
    Grows tree (tree.put place .directory) where
  kept p entry hp := by
    rw [entry?_put tree hplace, if_neg fun heq => ?_]
    · exact hp
    · rw [heq, h] at hp
      cases hp
  files p content hp := by
    rw [entry?_put tree hplace] at hp
    split at hp
    · cases hp
    · exact hp

theorem entry?_root (tree : Tree) : tree.entry? [] = some .directory := if_pos rfl

/-- Steps are those above, the last one, and the blanks behind it. -/
theorem exists_blanks {steps above : List String} {last : String}
    (h : steps.reverse.dropWhile (· = "") = last :: above) :
    ∃ blanks, steps = above.reverse ++ [last] ++ blanks ∧ ∀ blank ∈ blanks, blank = "" := by
  refine ⟨steps.rtakeWhile (· = ""), ?_, fun blank hblank => by simpa using List.mem_rtakeWhile_imp hblank⟩
  have hcut := List.rdropWhile_append_rtakeWhile (p := fun step => decide (step = "")) (l := steps)
  rw [List.rdropWhile, h, List.reverse_cons] at hcut
  exact hcut.symm

theorem makeDirectory_ok {tree tree' : Tree} {start : Place} {steps : List String}
    (h : tree.makeDirectory start steps = .ok tree') : Grows tree tree' ∧ ∃ place, tree'.Follows start steps place := by
  unfold makeDirectory at h
  cases hreverse : steps.reverse.dropWhile (· = "") with
  | nil =>
    rw [hreverse] at h
    cases h
  | cons last above =>
    rw [hreverse] at h
    obtain ⟨middle, hmiddle, h⟩ := exists_of_bind h
    obtain ⟨place, hplace, h⟩ := exists_of_bind h
    split at h
    · cases h
    rename_i hnew
    cases h
    have hnone : tree.entry? place = none := by simpa using fun h => hnew (.inr (.inr h))
    have hroot : place ≠ [] := fun hroot => by
      rw [hroot, entry?_root] at hnone
      cases hnone
    have hgrows := grows_put_directory hroot hnone
    refine ⟨hgrows, place, ?_⟩
    obtain ⟨blanks, hsteps, hblanks⟩ := exists_blanks hreverse
    have hdirectory (p : Place) (hp : tree.entry? p = some .directory) :
        entry? (tree.put place .directory) p = some .directory := hgrows.kept p _ hp
    have hlast : (tree.put place .directory).Follows start (above.reverse ++ [last]) place := by
      refine ⟨foldlM_next_mono hdirectory (foldlM_next_append hmiddle ?_), ?_⟩
      · rw [List.foldlM_cons, hplace]
        rfl
      · rw [entry?_put tree hroot, if_pos rfl]
    rw [hsteps]
    exact follows_append_blanks hlast blanks hblanks

theorem ensureDirectory_ok {tree tree' : Tree} {start : Place} {steps : List String}
    (h : tree.ensureDirectory start steps = .ok tree') : Grows tree tree' ∧ ∃ place, tree'.Follows start steps place := by
  unfold ensureDirectory at h
  split at h
  · split at h
    · rename_i hthere
      cases h
      exact ⟨.refl tree, isDirectory_iff.1 hthere⟩
    · cases h
  · exact makeDirectory_ok h

theorem ensureDirectories_grows (start : Place) : ∀ (paths : List (List String)) (tree : Tree),
    Grows tree (tree.ensureDirectories start paths).1
  | [], tree => .refl tree
  | path :: above, tree => by
    have habove := ensureDirectories_grows start above tree
    rw [ensureDirectories]
    split
    · rename_i h
      exact (ensureDirectory_ok h).1
    · split
      · rename_i h
        rwa [h] at habove
      · rename_i h
        rw [h] at habove
        split
        · rename_i h
          exact habove.trans (ensureDirectory_ok h).1
        · exact habove
    · exact .refl tree

theorem follows_of_ensureDirectories {start : Place} {path : List String} {above : List (List String)} {tree : Tree}
    (h : (tree.ensureDirectories start (path :: above)).2 = none) :
    ∃ place, (tree.ensureDirectories start (path :: above)).1.Follows start path place := by
  rw [ensureDirectories] at h ⊢
  split at h
  · rename_i hpath
    exact (ensureDirectory_ok hpath).2
  · split at h
    · cases h
    · split at h
      · rename_i hpath
        exact (ensureDirectory_ok hpath).2
      · cases h
  · cases h

theorem makeDirectories_grows (tree : Tree) (here : Place) (path : String) :
    Grows tree (tree.makeDirectories here path).1 := by
  unfold makeDirectories
  split
  · exact .refl tree
  · split
    · exact .refl tree
    · exact ensureDirectories_grows _ _ tree

/-- Once a directory is made its path leads to it. -/
theorem leadsTo_of_makeDirectories (tree : Tree) (here : Place) {path : String} (hpath : path ≠ "")
    (h : (tree.makeDirectories here path).2 = none) :
    ∃ place, (tree.makeDirectories here path).1.LeadsTo here path place := by
  unfold makeDirectories at h ⊢
  rw [if_neg hpath] at h ⊢
  split at h
  · cases h
  · exact follows_of_ensureDirectories h

/-! ## Writing files -/

theorem write_ok {tree tree' : Tree} {here : Place} {path : String} {content : List UInt8}
    (h : tree.write here path content = .ok tree') :
    ∃ place, (parts path).foldlM tree.next (startOf here path) = .ok place ∧ tree.entry? place ≠ some .directory ∧
      tree' = tree.put place (.file content) := by
  obtain ⟨place, hplace, h⟩ := exists_of_bind h
  unfold locate at hplace
  split at hplace
  · cases hplace
  · refine ⟨place, hplace, ?_⟩
    split at h
    · cases h
    · rename_i hother
      cases h
      exact ⟨fun hdirectory => hother hdirectory, rfl⟩

/-- Puts files into a directory. -/
def putFiles (tree : Tree) (directory : Place) (files : List (String × List UInt8)) : Tree :=
  files.foldl (fun tree (name, content) => tree.put (directory ++ [name]) (.file content)) tree

/-- The changes that write files into the directory that a path leads to. -/
def writes (path : String) (files : List (String × List UInt8)) : List Change :=
  files.map fun (name, content) => .write (join path name) content

/-- **Files that are written side by side** stand in the directory that their path leads to, up to the first that is
refused. -/
theorem performAll_writes {here directory : Place} {path : String} : ∀ {files : List (String × List UInt8)} {tree : Tree},
    (∀ file ∈ files, IsPlainName file.1) → tree.LeadsTo here path directory →
    ∃ written rest, files = written ++ rest ∧ (tree.performAll here (writes path files)).1 = tree.putFiles directory written ∧
      (tree.putFiles directory written).LeadsTo here path directory ∧
      ((tree.performAll here (writes path files)).2 = none → rest = [])
  | [], tree, _, hpath => ⟨[], [], rfl, rfl, hpath, fun _ => rfl⟩
  | (name, content) :: files, tree, hplain, hpath => by
    have hname : IsPlainName name := hplain (name, content) List.mem_cons_self
    rw [writes, List.map_cons, performAll, perform]
    cases hwrite : tree.write here (join path name) content with
    | error fault => exact ⟨[], _, rfl, rfl, hpath, nofun⟩
    | ok after =>
      obtain ⟨place, hplace, hfree, rfl⟩ := write_ok hwrite
      obtain ⟨directory', hpath', rfl⟩ := leadsTo_of_locate_join hname hplace
      obtain rfl : directory' = directory := hpath'.unique hpath
      have hkept (p : Place) (hp : tree.entry? p = some .directory) :
          entry? (tree.put (directory' ++ [name]) (.file content)) p = some .directory := by
        have hne : p ≠ directory' ++ [name] := by
          rintro rfl
          exact hfree hp
        rwa [entry?_put tree (by simp), if_neg hne]
      obtain ⟨written, rest, rfl, hresult, hleads, hall⟩ :=
        performAll_writes (fun file h => hplain file (List.mem_cons_of_mem _ h)) (Follows.mono hkept hpath)
      exact ⟨(name, content) :: written, rest, rfl, hresult, hleads, hall⟩

theorem file_of_putFiles {directory place : Place} {content : List UInt8} : ∀ (files : List (String × List UInt8))
    {tree : Tree}, entry? (tree.putFiles directory files) place = some (.file content) →
    tree.entry? place = some (.file content) ∨ ∃ file ∈ files, place = directory ++ [file.1] ∧ content = file.2
  | [], _, h => .inl h
  | (name, content') :: files, tree, h => by
    rcases file_of_putFiles files h with h | ⟨file, hfile, hplace⟩
    · rw [entry?_put tree (by simp)] at h
      split at h
      · rename_i hplace
        cases h
        exact .inr ⟨_, List.mem_cons_self, hplace, rfl⟩
      · exact .inl h
    · exact .inr ⟨file, List.mem_cons_of_mem _ hfile, hplace⟩

theorem entry?_putFiles_of_notMem {directory : Place} {name : String} : ∀ {files : List (String × List UInt8)}
    {tree : Tree}, name ∉ files.map (·.1) →
    entry? (tree.putFiles directory files) (directory ++ [name]) = tree.entry? (directory ++ [name])
  | [], _, _ => rfl
  | (other, content) :: files, tree, h => by
    rw [List.map_cons, List.mem_cons, not_or] at h
    show entry? ((tree.put _ _).putFiles directory files) _ = _
    rw [entry?_putFiles_of_notMem h.2, entry?_put tree (by simp), if_neg]
    simpa using h.1

/-- Each of several files with names of their own is there once all are written. -/
theorem entry?_putFiles_of_mem {directory : Place} {file : String × List UInt8} :
    ∀ {files : List (String × List UInt8)} {tree : Tree}, (files.map (·.1)).Nodup → file ∈ files →
    entry? (tree.putFiles directory files) (directory ++ [file.1]) = some (.file file.2)
  | (name, content) :: files, tree, hnodup, hfile => by
    rw [List.map_cons, List.nodup_cons] at hnodup
    show entry? ((tree.put _ _).putFiles directory files) _ = _
    rcases List.mem_cons.1 hfile with rfl | hfile
    · rw [entry?_putFiles_of_notMem hnodup.1, entry?_put tree (by simp), if_pos rfl]
    · exact entry?_putFiles_of_mem hnodup.2 hfile

/-! ## Files in a directory that is made for them -/

theorem join_ne_empty (path : String) {name : String} (h : IsPlainName name) : join path name ≠ "" := by
  intro hempty
  obtain ⟨above, hjoin, -⟩ := parts_join path h
  rw [hempty] at hjoin
  have hname : some name = some "" := by
    rw [← List.getLast?_concat (l := above), ← hjoin]
    rfl
  exact h.1 (Option.some.inj hname)

section

variable {tree : Tree} {here : Place} {path media : String} {files : List (String × List UInt8)}

/-- The changes that make a directory below a path and write files beside it. -/
def fills (path media : String) (files : List (String × List UInt8)) : List Change :=
  .makeDirectories (join path media) :: writes path files

theorem performAll_fills (tree : Tree) (here : Place) (path : String) (hmedia : IsPlainName media) (hplain : ∀ file ∈ files, IsPlainName file.1) :
    ∃ made, Grows tree made ∧
      ((∃ fault, tree.performAll here (fills path media files) = (made, some fault)) ∨
        ∃ directory written rest, files = written ++ rest ∧
          (tree.performAll here (fills path media files)).1 = made.putFiles directory written ∧
          (made.putFiles directory written).LeadsTo here path directory ∧
          ((tree.performAll here (fills path media files)).2 = none → rest = [])) := by
  have hgrows := makeDirectories_grows tree here (join path media)
  have hleads := leadsTo_of_makeDirectories tree here (join_ne_empty path hmedia)
  rw [fills, performAll, perform]
  generalize tree.makeDirectories here (join path media) = outcome at hgrows hleads ⊢
  obtain ⟨made, fault?⟩ := outcome
  refine ⟨made, hgrows, ?_⟩
  cases fault? with
  | some fault => exact .inl ⟨fault, rfl⟩
  | none =>
    obtain ⟨place, hplace⟩ := hleads rfl
    obtain ⟨directory, hdirectory, -⟩ := leadsTo_of_locate_join hmedia hplace.1
    exact .inr ⟨directory, performAll_writes hplain hdirectory⟩

/-- Every file that is new is one of those that were to be written, in the directory that the path leads to. -/
theorem file_of_fills (hmedia : IsPlainName media) (hplain : ∀ file ∈ files, IsPlainName file.1) {place : Place}
    {content : List UInt8}
    (h : entry? (tree.performAll here (fills path media files)).1 place = some (.file content)) :
    tree.entry? place = some (.file content) ∨
      ∃ directory, (tree.performAll here (fills path media files)).1.LeadsTo here path directory ∧
        ∃ file ∈ files, place = directory ++ [file.1] ∧ content = file.2 := by
  obtain ⟨made, hgrows, ⟨fault, hresult⟩ | ⟨directory, written, rest, hfiles, hresult, hleads, -⟩⟩ :=
    performAll_fills tree here path hmedia hplain
  · rw [hresult] at h
    exact .inl (hgrows.files place content h)
  · rw [hresult] at h ⊢
    rcases file_of_putFiles written h with h | ⟨file, hfile, hplace⟩
    · exact .inl (hgrows.files place content h)
    · exact .inr ⟨directory, hleads, file, hfiles ▸ List.mem_append_left _ hfile, hplace⟩

/-- If nothing is refused every file is there, in the directory that the path leads to. -/
theorem entry?_of_fills (hmedia : IsPlainName media) (hplain : ∀ file ∈ files, IsPlainName file.1)
    (hnodup : (files.map (·.1)).Nodup) (h : (tree.performAll here (fills path media files)).2 = none) :
    ∃ directory, (tree.performAll here (fills path media files)).1.LeadsTo here path directory ∧
      ∀ file ∈ files, entry? (tree.performAll here (fills path media files)).1 (directory ++ [file.1]) =
        some (.file file.2) := by
  obtain ⟨made, -, ⟨fault, hresult⟩ | ⟨directory, written, rest, hfiles, hresult, hleads, hall⟩⟩ :=
    performAll_fills tree here path hmedia hplain
  · rw [hresult] at h
    cases h
  · obtain rfl := hall h
    obtain rfl : files = written := hfiles.trans (List.append_nil written)
    rw [hresult]
    exact ⟨directory, hleads, fun file hfile => entry?_putFiles_of_mem hnodup hfile⟩

end

end Tree

end BlogMarkdown.Files
