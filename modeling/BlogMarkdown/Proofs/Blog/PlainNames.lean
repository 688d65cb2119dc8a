import BlogMarkdown.Proofs.Blog.Filenames
import BlogMarkdown.Proofs.Files.Directories
import BlogMarkdown.Proofs.Url.Segments
/-!
# Plain names of files

A file is named for the last segment of its URL, decoded, with a digest in front if that name is in use.  The segment
holds no slash and is no step, but what is decoded of it may: the name of a file is a plain one exactly if no slash is
escaped in the segment, and the segment is no step or its name is in use.
-/
namespace BlogMarkdown.Blog

open Text (lowercase)
open Url.Path (lastSegment IsStep)
open Url.Percent (EscapesSlash)

theorem slash_not_mem_wordText (w : UInt32) : '/' ∉ Digest.Sha1.wordText w := by
  rw [Digest.Sha1.wordText, List.mem_append, List.mem_replicate]
  rintro (⟨-, h⟩ | h)
  · exact absurd h (by decide)
  · obtain ⟨d, hd⟩ := Url.exists_digitChar_of_mem_hex _ h
    exact Nat.digitChar_ne '/' (by decide) hd.symm

namespace Links

/-! ## The name in a URL -/

section

variable {url : String} {parsed : Url}

theorem baseName_eq (hparsed : Url.ofText? url.toList = some parsed) {name : List Char}
    (hname : Text.Utf8.decodeLossy (Url.Percent.decode (Text.Utf8.encode (lastSegment parsed.path))) = name) :
    baseName url = if name = [] then "attachment".toList else name := by
  rw [baseName, hparsed]
  dsimp only
  rw [show ((parsed.path.reverse.dropWhile (· = '/')).takeWhile (· ≠ '/')).reverse = lastSegment parsed.path from rfl,
    hname]
  cases name <;> rfl

theorem baseName_ne_nil (url : String) : baseName url ≠ [] := by
  rw [baseName]
  split
  · decide
  · assumption

/-- A slash is in the name exactly if one is escaped in the segment. -/
theorem slash_mem_baseName_iff (hparsed : Url.ofText? url.toList = some parsed) :
    '/' ∈ baseName url ↔ EscapesSlash (lastSegment parsed.path) := by
  have hdecoded := (Url.Percent.standsFor_decode (lastSegment parsed.path)).slash_mem_iff
  rw [or_iff_right (Url.Path.slash_not_mem_lastSegment parsed.path)] at hdecoded
  rw [← hdecoded, baseName_eq hparsed rfl]
  have hmem := Text.Utf8.mem_decodeLossy_iff (c := '/') (by decide)
    (Url.Percent.decode (Text.Utf8.encode (lastSegment parsed.path)))
  split
  · rename_i hempty
    rw [hempty] at hmem
    exact iff_of_false (by decide) (mt hmem.2 List.not_mem_nil)
  · exact hmem

/-- The name is that of a step exactly if the segment is one. -/
theorem step_baseName_iff (hparsed : Url.ofText? url.toList = some parsed) :
    baseName url = ['.'] ∨ baseName url = ['.', '.'] ↔ IsStep (lastSegment parsed.path) := by
  have hread {name : List Char} (hascii : ∀ c ∈ name, c.toNat < 0x80) (hnil : [] ≠ name)
      (hblank : "attachment".toList ≠ name) : baseName url = name ↔
        Url.Percent.decode (Text.Utf8.encode (lastSegment parsed.path)) = Text.Utf8.encode name := by
    rw [baseName_eq hparsed rfl, ← Text.Utf8.decodeLossy_eq_iff hascii]
    split
    · rename_i hempty
      rw [hempty]
      exact iff_of_false hblank hnil
    · exact Iff.rfl
  rw [hread (by simp) (by decide) (by decide), hread (by simp) (by decide) (by decide), IsStep,
    Url.Percent.isDot_iff, Url.Percent.isDoubleDot_iff]
  exact Iff.rfl

end

/-! ## A name that is not in use -/

theorem exists_front_digestName? {used : List (List Char)} {url : String} {base name : List Char} :
    ∀ {fuel attempt : Nat}, digestName? used url base fuel attempt = some name →
      ∃ front, name = front ++ base ∧ '/' ∉ front ∧ '_' ∈ front
  | 0, _, h => by cases h
  | fuel + 1, attempt, h => by
    rw [digestName?] at h
    split at h
    · exact exists_front_digestName? h
    · cases h
      refine ⟨_ ++ ['_'], (List.append_assoc _ ['_'] base).symm, ?_, by simp⟩
      rw [List.mem_append, not_or]
      exact ⟨slash_not_mem_wordText _, by decide⟩

/-- A name that is in use gets a front that holds an underscore and no slash. -/
theorem freshName_cases (used : List (List Char)) (url : String) :
    (lowercase (baseName url) ∈ used ∧ ∃ front, freshName used url = front ++ baseName url ∧ '/' ∉ front ∧ '_' ∈ front) ∨
      (lowercase (baseName url) ∉ used ∧ freshName used url = baseName url) := by
  by_cases hused : lowercase (baseName url) ∈ used
  · refine .inl ⟨hused, ?_⟩
    rw [freshName, if_pos (by simpa using hused)]
    cases hdigest : digestName? used url (baseName url) attemptLimit 0 with
    | some name => exact exists_front_digestName? hdigest
    | none => exact ⟨_, rfl, by simp, by simp⟩
  · exact .inr ⟨hused, by rw [freshName, if_neg (by simpa using hused)]⟩

theorem isPlainName_ofList_iff (name : List Char) :
    Files.IsPlainName (String.ofList name) ↔ name ≠ [] ∧ '/' ∉ name ∧ ¬ (name = ['.'] ∨ name = ['.', '.']) := by
  have hname (other : String) : String.ofList name = other ↔ name = other.toList := by
    rw [← String.toList_inj, String.toList_ofList]
  rw [Files.IsPlainName, String.toList_ofList, Ne, Ne, Ne, hname, hname, hname, not_or]
  exact and_congr_right fun _ => by rw [← and_assoc, and_comm]; rfl

/-- **Which files get a plain name**: those in whose last segment no slash is escaped, unless it is a step and the name
free.  It is no step in a path that begins with a slash, but for a file behind a parted drive letter. -/
theorem isPlainName_useFile {links : Links} {number : Nat} {names : FileNames} {url : String} {parsed : Url}
    (hunnamed : names.lookup number = none) (hurl : links.urls.lookup number = some url)
    (hparsed : Url.ofText? url.toList = some parsed) :
    (Files.IsPlainName (links.useFile number names).1 ↔ ¬ EscapesSlash (lastSegment parsed.path) ∧
      (IsStep (lastSegment parsed.path) →
        lowercase (baseName url) ∈ names.map fun (_, name) => lowercase name.toList)) ∧
    (IsStep (lastSegment parsed.path) → parsed.path.head? ≠ some '/' ∨
      parsed.scheme = "file".toList ∧ ∃ c ∈ url.toList, Url.Path.isPassedOver c = true) := by
  refine ⟨?_, Url.step_of_ofText hparsed⟩
  rw [useFile_unnamed links hunnamed, newName, hurl, Option.getD_some, isPlainName_ofList_iff,
    ← slash_mem_baseName_iff hparsed, ← step_baseName_iff hparsed]
  generalize names.map (fun (_, name) => lowercase name.toList) = used
  rcases freshName_cases used url with ⟨hused, front, hname, hslash, hmark⟩ | ⟨hfree, hname⟩
  · -- the underscore in front makes the name neither empty nor a step
    have hmem : '_' ∈ freshName used url := hname ▸ List.mem_append_left _ hmark
    have hstep : ¬ (freshName used url = ['.'] ∨ freshName used url = ['.', '.']) := by
      rintro (heq | heq) <;> exact absurd (heq ▸ hmem) (by decide)
    rw [and_iff_right (List.ne_nil_of_mem hmem), and_iff_left hstep, and_iff_left fun _ => hused, hname,
      List.mem_append, or_iff_right hslash]
  · rw [hname, and_iff_right (baseName_ne_nil url), imp_iff_not hfree]

/-- What else is escaped does no harm. -/
theorem isPlainName_of_escaped_blank :
    ([] : FileNames).lookup 0 = none ∧
      (ofBlog "m" [] [("http://[::1]/a/%20%25.png", 0)]).urls.lookup 0 = some "http://[::1]/a/%20%25.png" ∧
      Url.ofText? "http://[::1]/a/%20%25.png".toList =
        some ⟨"http".toList, some "[::1]".toList, none, "/a/%20%25.png".toList, none⟩ ∧
      Files.IsPlainName ((ofBlog "m" [] [("http://[::1]/a/%20%25.png", 0)]).useFile 0 []).1 := by
  have hurl : (ofBlog "m" [] [("http://[::1]/a/%20%25.png", 0)]).urls.lookup 0 = some "http://[::1]/a/%20%25.png" := by
    decide +kernel
  have hparsed : Url.ofText? "http://[::1]/a/%20%25.png".toList =
      some ⟨"http".toList, some "[::1]".toList, none, "/a/%20%25.png".toList, none⟩ := by decide +kernel
  have hslash : ¬ EscapesSlash (lastSegment "/a/%20%25.png".toList) := by
    unfold EscapesSlash
    decide +kernel
  have hstep : ¬ IsStep (lastSegment "/a/%20%25.png".toList) := by
    unfold IsStep
    decide +kernel
  exact ⟨rfl, hurl, hparsed, (isPlainName_useFile rfl hurl hparsed).1.2 ⟨hslash, fun h => absurd h hstep⟩⟩

/-- Escaped slashes lead out of the directory of the files. -/
theorem name_of_escaped_slashes :
    Url.ofText? "http://[::1]/..%2F..%2Fx.png".toList =
        some ⟨"http".toList, some "[::1]".toList, none, "/..%2F..%2Fx.png".toList, none⟩ ∧
      ((ofBlog "m" [] [("http://[::1]/..%2F..%2Fx.png", 0)]).useFile 0 []).1 = "../../x.png" ∧
      ¬ Files.IsPlainName ((ofBlog "m" [] [("http://[::1]/..%2F..%2Fx.png", 0)]).useFile 0 []).1 := by
  have hname : ((ofBlog "m" [] [("http://[::1]/..%2F..%2Fx.png", 0)]).useFile 0 []).1 = "../../x.png" := by
    decide +kernel
  refine ⟨by decide +kernel, hname, fun hplain => ?_⟩
  rw [hname] at hplain
  exact hplain.2.2.2 (by decide)

end Links

end BlogMarkdown.Blog
