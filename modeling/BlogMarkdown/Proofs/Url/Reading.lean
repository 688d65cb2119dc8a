import BlogMarkdown.Proofs.Url.Address
import Mathlib.Data.List.TakeWhile
/-!
# URLs as they are read

A URL is read in two steps that know nothing of each other: the parts that say where it leads, and the fragment behind
them.  Of every URL that is read the parts are in their written form.
-/
namespace BlogMarkdown.Url

/-! ## Cutting a text -/

theorem cut_append_snd (p : Char → Bool) (text : List Char) : (cut p text).1 ++ (cut p text).2 = text := by
  rw [cut, List.span_eq_takeWhile_dropWhile]
  exact List.takeWhile_append_dropWhile

/-- Behind a text in which nothing ends, a character that does is where it is cut. -/
theorem cut_append_cons {p : Char → Bool} {text : List Char} {c : Char} (htext : ∀ d ∈ text, p d = false)
    (hc : p c = true) (rest : List Char) : cut p (text ++ c :: rest) = (text, c :: rest) :=
  Text.span_append_cons (fun d hd => by rw [htext d hd]; rfl) (by rw [hc]; rfl)

theorem cut_of_forall {p : Char → Bool} {text : List Char} (htext : ∀ d ∈ text, p d = false) :
    cut p text = (text, []) := by
  have hspan : cut p (text ++ []) = (text, []) :=
    Text.span_append_of_stop (fun d hd => by rw [htext d hd]; rfl) fun d hd => nomatch hd
  rwa [List.append_nil] at hspan

/-- What is cut off in front does not change with what follows an end. -/
theorem cut_append_cons_fst {p : Char → Bool} {c : Char} (hc : p c = true) (text rest : List Char) :
    (cut p (text ++ c :: rest)).1 = (cut p text).1 := by
  simp only [cut, List.span_eq_takeWhile_dropWhile]
  induction text with
  | nil => exact List.takeWhile_cons_of_neg (by simp [hc])
  | cons d text ih =>
    rw [List.cons_append, List.takeWhile_cons, List.takeWhile_cons, ih]

/-! ## Schemes -/

theorem splitScheme_eq_some {text scheme rest : List Char} : splitScheme text = some (scheme, rest) ↔
    ∃ c name, text = c :: name ++ ':' :: rest ∧ (∀ d ∈ c :: name, isSchemeChar d = true) ∧ c.isAlpha = true ∧
      scheme = (c :: name).map Char.toLower := by
  constructor
  · intro h
    unfold splitScheme at h
    split at h
    · rename_i c name behind hspan
      rw [List.span_eq_takeWhile_dropWhile, Prod.mk.injEq] at hspan
      obtain ⟨hname, hbehind⟩ := hspan
      split at h
      · rename_i halpha
        simp only [Option.some.injEq, Prod.mk.injEq] at h
        obtain ⟨rfl, rfl⟩ := h
        refine ⟨c, name, ?_, fun d hd => List.mem_takeWhile_imp (hname ▸ hd), halpha, rfl⟩
        rw [← hname, ← hbehind, List.takeWhile_append_dropWhile]
      · cases h
    · cases h
  · rintro ⟨c, name, rfl, hname, halpha, rfl⟩
    rw [splitScheme, Text.span_append_cons hname (by decide)]
    exact if_pos halpha

theorem splitScheme_append {text scheme rest : List Char} (h : splitScheme text = some (scheme, rest))
    (more : List Char) : splitScheme (text ++ more) = some (scheme, rest ++ more) := by
  obtain ⟨c, name, rfl, hname, halpha, rfl⟩ := splitScheme_eq_some.1 h
  exact splitScheme_eq_some.2 ⟨c, name, by simp, hname, halpha, rfl⟩

theorem toLower_ne_colon {c : Char} (h : isSchemeChar c = true) : c.toLower ≠ ':' := by
  intro heq
  unfold Char.toLower at heq
  split at heq
  · rename_i hupper
    have hval : c.val + 32 = 58 := congrArg Char.val heq
    have hge : 65 ≤ c.val.toNat := UInt32.le_iff_toNat_le.1 hupper.1
    have hle : c.val.toNat ≤ 90 := UInt32.le_iff_toNat_le.1 hupper.2
    have hsum := congrArg UInt32.toNat hval
    rw [UInt32.toNat_add] at hsum
    change (c.val.toNat + 32) % 2 ^ 32 = 58 at hsum
    omega
  · rw [heq] at h
    exact absurd h (by decide)

theorem colon_not_mem_scheme {text scheme rest : List Char} (h : splitScheme text = some (scheme, rest)) :
    ':' ∉ scheme := by
  obtain ⟨c, name, -, hname, -, rfl⟩ := splitScheme_eq_some.1 h
  rintro hmem
  obtain ⟨d, hd, heq⟩ := List.mem_map.1 hmem
  exact toLower_ne_colon (hname d hd) heq

/-! ## Fragments apart -/

/-- The URL with another fragment. -/
def withFragment (url : Url) (fragment : Option (List Char)) : Url := { url with fragment := fragment }

@[simp] theorem fragment_withFragment (url : Url) (fragment : Option (List Char)) :
    (url.withFragment fragment).fragment = fragment := rfl

/-- The fragment behind the part of a text that is cut off at a hash. -/
def fragmentBehind : List Char → Option (List Char)
  | _ :: fragment => some (Percent.encode Percent.isBarredInFragment fragment)
  | [] => none

/-- Reads a URL behind its scheme, up to its query.  `raw` is the same text with the characters that are passed
over. -/
def ofBehind? (scheme raw text : List Char) (ends : Bool) (fragment : Option (List Char)) : Option Url :=
  if scheme = "file".toList then ofFile? scheme raw fragment
  else if (defaultPort? scheme).isSome then ofAuthority? scheme (text.dropWhile (isSlash true)) ends fragment
  else
    match text with
    | '/' :: '/' :: rest => ofAuthority? scheme rest ends fragment
    | text => some (ofOpaque scheme text fragment)

theorem ofAuthority_fragment (scheme text : List Char) (ends : Bool) (fragment : Option (List Char)) :
    ofAuthority? scheme text ends fragment = (ofAuthority? scheme text ends none).map (·.withFragment fragment) := by
  simp only [ofAuthority?]
  split
  · split <;> rfl
  · rfl

theorem ofFile_fragment (scheme text : List Char) (fragment : Option (List Char)) :
    ofFile? scheme text fragment = (ofFile? scheme text none).map (·.withFragment fragment) := by
  simp only [ofFile?]
  split
  · rfl
  split
  · rfl
  split
  · rfl
  split
  · rfl
  split
  · rfl
  split
  · rfl
  rw [Option.map_map]
  refine congrArg (Option.map · _) (funext fun host => ?_)
  rw [Function.comp_apply]
  split <;> rfl

theorem ofBehind_fragment (scheme raw text : List Char) (ends : Bool) (fragment : Option (List Char)) :
    ofBehind? scheme raw text ends fragment = (ofBehind? scheme raw text ends none).map (·.withFragment fragment) := by
  unfold ofBehind?
  split
  · exact ofFile_fragment ..
  · split
    · exact ofAuthority_fragment ..
    · split
      · exact ofAuthority_fragment ..
      · rfl

/-- What stands behind the scheme of a text, up to its query, with the characters that are passed over. -/
def rawBehind (text : List Char) : List Char :=
  (cut (fun c => c = '?' || c = '#') ((text.dropWhile (· ≠ ':')).drop 1)).1

theorem ofText_eq {text scheme rest front hash : List Char}
    (hscheme : splitScheme (Path.visible (trimmed text)) = some (scheme, rest))
    (hhash : cut (· = '#') rest = (front, hash)) :
    ofText? text =
      ofBehind? scheme (rawBehind (trimmed text)) (cut (· = '?') front).1
        ((cut (· = '?') front).2.isEmpty && hash.isEmpty) (fragmentBehind hash) := by
  simp only [ofText?, hscheme, hhash, ofBehind?]
  cases hash <;> rfl

theorem exists_scheme_of_ofText {text : List Char} {url : Url} (h : ofText? text = some url) :
    ∃ scheme rest, splitScheme (Path.visible (trimmed text)) = some (scheme, rest) := by
  cases hscheme : splitScheme (Path.visible (trimmed text)) with
  | none =>
    simp only [ofText?, hscheme] at h
    cases h
  | some parts => exact ⟨parts.1, parts.2, rfl⟩

/-! ## The parts of a URL that was read -/

theorem isWritten_of_ofAuthority {scheme text : List Char} {ends : Bool} {fragment : Option (List Char)} {url : Url}
    (hscheme : ':' ∉ scheme) (h : ofAuthority? scheme text ends fragment = some url) : url.IsWritten := by
  simp only [ofAuthority?] at h
  split at h
  · rename_i host port rest hhost hport
    split at h
    · cases h
    · rename_i hgood
      obtain rfl := Option.some.inj h
      refine ⟨hscheme, ?_, ?_, ?_⟩
      · intro host' hhost'
        dsimp only at hhost'
        split at hhost'
        · cases hhost'
        · cases hhost'
          split at hhost
          · exact isHost_of_webHost hhost
          · exact isHost_of_opaqueHost hhost
      · intro hnone
        dsimp only at hnone ⊢
        split at hnone
        · rename_i hempty
          -- no colon stands behind an empty host
          simp only [hempty, Bool.true_and, Bool.or_eq_true, not_or] at hgood
          generalize (splitHost false _).2 = behind at hport hgood
          cases behind with
          | nil =>
            cases hport
            rfl
          | cons c behind => exact absurd rfl hgood.1.1
        · cases hnone
      · rintro - c hc
        dsimp only at hc
        split at hc
        · cases hc
        · cases hc
          rfl
  · cases h

theorem isWritten_ofDrivePath {scheme : List Char} {host : Option (List Char)} (hscheme : ':' ∉ scheme)
    (hhost : ∀ text ∈ host, IsHost text) (segments : List (List Char)) (fragment : Option (List Char)) :
    (ofDrivePath scheme host segments fragment).IsWritten := by
  refine ⟨hscheme, ?_, fun _ => rfl, ?_⟩
  · intro text htext
    simp only [ofDrivePath] at htext
    split at htext
    · cases htext
    · exact hhost text htext
  · rintro - c ⟨⟩
    rfl

theorem dropSlash_suffix (web : Bool) : ∀ text : List Char, dropSlash web text <:+ text
  | [] => List.suffix_rfl
  | c :: text => by
    rw [dropSlash]
    split
    · exact List.suffix_cons c text
    · exact List.suffix_rfl

/-- The URL of a file has a host or none, and its path is a part of the text. -/
theorem exists_of_ofFile {scheme text : List Char} {fragment : Option (List Char)} {url : Url}
    (h : ofFile? scheme text fragment = some url) : ∃ host path, (∀ name ∈ host, IsHost name) ∧ path <:+ text ∧
      url = ofDrivePath scheme host (path.splitOnP (isSlash true)) fragment := by
  have hlocal : ∀ {path : List Char}, path <:+ text →
      some (ofDrivePath scheme none (path.splitOnP (isSlash true)) fragment) = some url →
      ∃ host path, (∀ name ∈ host, IsHost name) ∧ path <:+ text ∧
        url = ofDrivePath scheme host (path.splitOnP (isSlash true)) fragment :=
    fun hpath heq => ⟨none, _, by rintro name ⟨⟩, hpath, (Option.some.inj heq).symm⟩
  simp only [ofFile?] at h
  split at h
  · exact hlocal List.suffix_rfl h
  rename_i a rest hfirst
  have hrest : rest <:+ text := (List.suffix_cons a rest).trans (hfirst ▸ List.dropWhile_suffix _)
  split at h
  · exact hlocal List.suffix_rfl h
  split at h
  · exact hlocal hrest h
  rename_i b behind hsecond
  have hbehind : behind <:+ text := ((List.suffix_cons b behind).trans (hsecond ▸ List.dropWhile_suffix _)).trans hrest
  have hpath : (cut (isSlash true) behind).2 <:+ text :=
    List.IsSuffix.trans ⟨_, cut_append_snd (isSlash true) behind⟩ hbehind
  split at h
  · exact hlocal hrest h
  split at h
  · exact hlocal hpath h
  split at h
  · exact hlocal hbehind h
  -- a host of its own
  obtain ⟨host, hhost, heq⟩ := Option.map_eq_some_iff.1 h
  split at heq
  · exact hlocal hpath (congrArg some heq)
  · refine ⟨some host, _, ?_, (dropSlash_suffix true _).trans hpath, heq.symm⟩
    rintro name ⟨⟩
    exact isHost_of_webHost hhost

theorem isWritten_of_ofFile {scheme text : List Char} {fragment : Option (List Char)} {url : Url}
    (hscheme : ':' ∉ scheme) (h : ofFile? scheme text fragment = some url) : url.IsWritten := by
  obtain ⟨host, path, hhost, -, rfl⟩ := exists_of_ofFile h
  exact isWritten_ofDrivePath hscheme hhost _ fragment

theorem isWritten_of_ofText {text : List Char} {url : Url} (h : ofText? text = some url) : url.IsWritten := by
  obtain ⟨scheme, rest, hsplit⟩ := exists_scheme_of_ofText h
  rw [ofText_eq hsplit rfl] at h
  have hscheme := colon_not_mem_scheme hsplit
  unfold ofBehind? at h
  split at h
  · exact isWritten_of_ofFile hscheme h
  · split at h
    · exact isWritten_of_ofAuthority hscheme h
    · split at h
      · exact isWritten_of_ofAuthority hscheme h
      · obtain rfl := Option.some.inj h
        exact ⟨hscheme, by rintro host ⟨⟩, fun _ => rfl, fun hnone => absurd rfl hnone⟩

end BlogMarkdown.Url
