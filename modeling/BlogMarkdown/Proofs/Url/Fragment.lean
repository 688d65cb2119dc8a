import BlogMarkdown.Proofs.Url.Reading
import Mathlib.Data.List.DropRight
/-!
# URLs with a fragment

A text without a fragment may be given one: it then stands for the same URL with the fragment added.  Two texts are left
out, one that ends in a blank, which the fragment would turn into a part of the URL, and one whose authority is an empty
user and nothing else, which is in order only at the very end of a text.
-/
namespace BlogMarkdown.Url

/-! ## Fragments in written form -/

/-- A fragment in its written form. -/
def writtenFragment (fragment : List Char) : List Char :=
  Percent.encode Percent.isBarredInFragment (Path.visible fragment)

theorem encode_eq_self {isBarred : Char → Bool} : ∀ {text : List Char}, (∀ c ∈ text, isBarred c = false) →
    Percent.encode isBarred text = text
  | [], _ => rfl
  | c :: text, h => by
    have ih := encode_eq_self fun d hd => h d (List.mem_cons_of_mem c hd)
    rw [Percent.encode] at ih ⊢
    rw [List.flatMap_cons, ih, h c List.mem_cons_self]
    rfl

theorem encode_ne_nil {isBarred : Char → Bool} : ∀ {text : List Char}, text ≠ [] → Percent.encode isBarred text ≠ []
  | c :: text, _ => by
    rw [Percent.encode, List.flatMap_cons]
    refine List.append_ne_nil_of_left_ne_nil ?_ _
    split
    · obtain ⟨b, bytes, hc⟩ := List.exists_cons_of_ne_nil (String.utf8EncodeChar_ne_nil (c := c))
      rw [hc, List.flatMap_cons, Percent.encodeByte]
      exact List.cons_ne_nil _ _
    · exact List.cons_ne_nil c []

theorem blank_lt_of_unbarred {c : Char} (h : Percent.isBarredInFragment c = false) : ' ' < c := by
  simp only [Percent.isBarredInFragment, Percent.isControl, Bool.or_eq_false_iff, decide_eq_false_iff_not] at h
  obtain ⟨⟨⟨⟨⟨⟨hcontrol, -⟩, hblank⟩, -⟩, -⟩, -⟩, -⟩ := h
  exact Char.not_le.1 fun hle => hblank (Char.le_antisymm hle (Char.not_lt.1 hcontrol))

theorem isPassedOver_of_blank_lt {c : Char} (h : ' ' < c) : Path.isPassedOver c = false := by
  rw [Bool.eq_false_iff]
  intro hpassed
  simp only [Path.isPassedOver, Bool.or_eq_true, decide_eq_true_eq] at hpassed
  rcases hpassed with (rfl | rfl) | rfl <;> exact absurd h (by decide)

/-- A fragment without barred characters is in its written form. -/
theorem writtenFragment_eq_self {fragment : List Char} (h : ∀ c ∈ fragment, Percent.isBarredInFragment c = false) :
    writtenFragment fragment = fragment := by
  have hvisible : Path.visible fragment = fragment := by
    refine List.filter_eq_self.2 fun c hc => ?_
    rw [isPassedOver_of_blank_lt (blank_lt_of_unbarred (h c hc))]
    rfl
  rw [writtenFragment, hvisible, encode_eq_self h]

theorem writtenFragment_ne_nil {fragment : List Char} (hne : fragment ≠ []) (hlast : ∀ c ∈ fragment.getLast?, ' ' < c) :
    writtenFragment fragment ≠ [] := by
  have hblank : ' ' < fragment.getLast hne := hlast _ (List.getLast?_eq_some_getLast hne)
  have hvisible : fragment.getLast hne ∈ Path.visible fragment :=
    List.mem_filter.2 ⟨List.getLast_mem hne, by rw [isPassedOver_of_blank_lt hblank]; rfl⟩
  exact encode_ne_nil (List.ne_nil_of_mem hvisible)

/-! ## Blanks at the ends -/

theorem dropWhile_concat {p : Char → Bool} {c : Char} (hc : p c = false) (text : List Char) :
    (text ++ [c]).dropWhile p = text.dropWhile p ++ [c] := by
  rw [List.dropWhile_append, List.dropWhile_cons_of_neg (by simp [hc])]
  split
  · rename_i hempty
    rw [List.isEmpty_iff.1 hempty, List.nil_append]
  · rfl

theorem trimmed_concat {c : Char} (hc : ' ' < c) (text : List Char) :
    trimmed (text ++ [c]) = text.dropWhile (· ≤ ' ') ++ [c] := by
  have hstop : decide (c ≤ ' ') = false := decide_eq_false (Char.not_le.2 hc)
  show List.rdropWhile _ _ = _
  rw [dropWhile_concat hstop, List.rdropWhile_concat_neg _ _ _ (by simp [hstop])]

theorem trimmed_sublist (text : List Char) : (trimmed text).Sublist text :=
  (List.rdropWhile_prefix _ _).sublist.trans (List.dropWhile_suffix _).sublist

theorem trimmed_suffix {text : List Char} (htext : ∀ c ∈ text.getLast?, ' ' < c) : trimmed text <:+ text := by
  rcases List.eq_nil_or_concat text with rfl | ⟨front, c, rfl⟩
  · exact List.suffix_rfl
  · rw [List.concat_eq_append] at htext ⊢
    have hc : ' ' < c := htext c (by simp)
    rw [trimmed_concat hc]
    obtain ⟨dropped, hdropped⟩ := List.dropWhile_suffix (l := front) (· ≤ ' ')
    exact ⟨dropped, by rw [← List.append_assoc, hdropped]⟩

/-- What is added to a text that does not end in a blank is added to the text without blanks at its ends. -/
theorem trimmed_append {text rest : List Char} (htext : ∀ c ∈ text.getLast?, ' ' < c)
    (hrest : ∀ c ∈ rest.getLast?, ' ' < c) (htext' : text ≠ []) (hrest' : rest ≠ []) :
    trimmed (text ++ rest) = trimmed text ++ rest := by
  obtain ⟨front, c, rfl⟩ := (List.eq_nil_or_concat text).resolve_left htext'
  obtain ⟨back, d, rfl⟩ := (List.eq_nil_or_concat rest).resolve_left hrest'
  rw [List.concat_eq_append] at htext ⊢
  rw [List.concat_eq_append] at hrest ⊢
  have hc : ' ' < c := htext c (by simp)
  have hd : ' ' < d := hrest d (by simp)
  have hdropped : (front ++ [c]).dropWhile (· ≤ ' ') = front.dropWhile (· ≤ ' ') ++ [c] :=
    dropWhile_concat (decide_eq_false (Char.not_le.2 hc)) front
  rw [← List.append_assoc, trimmed_concat hd, trimmed_concat hc, List.dropWhile_append, hdropped, if_neg (by simp),
    List.append_assoc]

/-! ## What may stand at the very end only -/

theorem eq_at_of_splitUser {authority : List Char} (huser : (splitUser authority).1 = some [])
    (hplace : (splitUser authority).2 = []) : authority = ['@'] := by
  rcases hspan : authority.reverse.span (· ≠ '@') with ⟨after, _ | ⟨c, before⟩⟩
  · rw [splitUser, hspan] at huser
    cases huser
  · rw [splitUser, hspan] at huser hplace
    obtain rfl : before = [] := List.reverse_eq_nil_iff.1 (Option.some.inj huser)
    obtain rfl : after = [] := List.reverse_eq_nil_iff.1 hplace
    rw [List.span_eq_takeWhile_dropWhile, Prod.mk.injEq] at hspan
    have hreverse : authority.reverse = [c] := by
      rw [← List.takeWhile_append_dropWhile (p := fun c => decide (c ≠ '@')) (l := authority.reverse), hspan.1, hspan.2,
        List.nil_append]
    have hc := List.head?_dropWhile_not (fun c => decide (c ≠ '@')) authority.reverse
    rw [hspan.2] at hc
    have hat : c = '@' := by simpa using hc
    rw [← List.reverse_reverse authority, hreverse, hat, List.reverse_singleton]

theorem ofAuthority_at {scheme : List Char} (hweb : (defaultPort? scheme).isSome = true) (ends : Bool)
    (fragment : Option (List Char)) : ofAuthority? scheme ['@'] ends fragment = none := by
  have hhost : webHost? (splitHost false (splitUser (cut (isSlash true) ['@']).1).2).1 = none := by decide
  simp only [ofAuthority?, hweb, if_true, hhost]

/-- Only an empty user and nothing else may not be followed. -/
theorem ofAuthority_ends {scheme text : List Char} (htext : text ≠ ['@']) (fragment : Option (List Char)) :
    ofAuthority? scheme text true fragment = ofAuthority? scheme text false fragment := by
  have hbare : ∀ web, let parts := cut (isSlash web) text
      ((splitUser parts.1).2.isEmpty && (splitUser parts.1).1 = some [] && !(parts.2.isEmpty && true)) =
        ((splitUser parts.1).2.isEmpty && (splitUser parts.1).1 = some [] && !(parts.2.isEmpty && false)) := by
    intro web parts
    cases hpath : parts.2.isEmpty with
    | false => rfl
    | true =>
      have hauthority : parts.1 = text := by
        rw [← cut_append_snd (isSlash web) text, List.isEmpty_iff.1 hpath, List.append_nil]
      have hnot : ((splitUser parts.1).2.isEmpty && decide ((splitUser parts.1).1 = some [])) = false := by
        rw [Bool.eq_false_iff, hauthority]
        intro hboth
        rw [Bool.and_eq_true, List.isEmpty_iff, decide_eq_true_eq] at hboth
        exact htext (eq_at_of_splitUser hboth.2 hboth.1)
      rw [hnot]
      rfl
  simp only [ofAuthority?, hbare]

theorem ofBehind_ends {scheme raw text : List Char} {ends : Bool} {fragment : Option (List Char)} {url : Url}
    (h : ofBehind? scheme raw text ends fragment = some url) (hbare : ends = true → text ≠ "//@".toList) :
    ofBehind? scheme raw text false fragment = some url := by
  cases ends with
  | false => exact h
  | true =>
    unfold ofBehind? at h ⊢
    split at h
    · rwa [if_pos ‹_›]
    · rw [if_neg ‹_›]
      split at h
      · rename_i hweb
        rw [if_pos hweb, ← ofAuthority_ends, h]
        intro htext
        rw [htext, ofAuthority_at hweb] at h
        cases h
      · rw [if_neg ‹_›]
        split at h
        · rw [← ofAuthority_ends, h]
          rintro rfl
          exact hbare rfl rfl
        · exact h

/-! ## Fragments added -/

/-- A text that a fragment may follow. -/
def TakesFragment (text : List Char) : Prop :=
  (∀ c ∈ text.getLast?, ' ' < c) ∧ ¬ "//@".toList <:+ Path.visible text

theorem visible_append (text rest : List Char) : Path.visible (text ++ rest) = Path.visible text ++ Path.visible rest :=
  List.filter_append ..

theorem hash_not_mem_rest {text scheme rest : List Char} (hhash : '#' ∉ text)
    (h : splitScheme (Path.visible (trimmed text)) = some (scheme, rest)) : ∀ c ∈ rest, decide (c = '#') = false := by
  intro c hc
  obtain ⟨first, name, hname, -⟩ := splitScheme_eq_some.1 h
  have hvisible : c ∈ Path.visible (trimmed text) := by
    rw [hname]
    exact List.mem_append_right _ (List.mem_cons_of_mem ':' hc)
  have htext : c ∈ text := (trimmed_sublist text).subset (List.mem_of_mem_filter hvisible)
  exact decide_eq_false (ne_of_mem_of_not_mem htext hhash)

/-- A text without a hash has no fragment. -/
theorem fragment_of_ofText {text : List Char} {url : Url} (h : ofText? text = some url) (hhash : '#' ∉ text) :
    url.fragment = none := by
  obtain ⟨scheme, rest, hsplit⟩ := exists_scheme_of_ofText h
  rw [ofText_eq hsplit (cut_of_forall (hash_not_mem_rest hhash hsplit)), ofBehind_fragment] at h
  obtain ⟨url', -, rfl⟩ := Option.map_eq_some_iff.1 h
  rfl

theorem rawBehind_append {text : List Char} (hcolon : ':' ∈ text) (fragment : List Char) :
    rawBehind (text ++ '#' :: fragment) = rawBehind text := by
  have hne : text.dropWhile (· ≠ ':') ≠ [] := by
    rw [Ne, List.dropWhile_eq_nil_iff]
    intro hall
    exact absurd (hall ':' hcolon) (by decide)
  rw [rawBehind, List.dropWhile_append, if_neg (by rwa [List.isEmpty_iff]),
    List.drop_append_of_le_length (List.length_pos_iff.2 hne)]
  exact cut_append_cons_fst (by decide) _ fragment

theorem TakesFragment.not_bare {text scheme rest : List Char} (h : TakesFragment text)
    (hsplit : splitScheme (Path.visible (trimmed text)) = some (scheme, rest))
    (hquery : (cut (· = '?') rest).2.isEmpty = true) : (cut (· = '?') rest).1 ≠ "//@".toList := by
  intro hpath
  obtain ⟨first, name, hname, -⟩ := splitScheme_eq_some.1 hsplit
  have hrest : rest = "//@".toList := by
    rw [← cut_append_snd (· = '?') rest, List.isEmpty_iff.1 hquery, List.append_nil, hpath]
  refine h.2 (List.IsSuffix.trans ?_ ((trimmed_suffix h.1).filter _))
  exact ⟨first :: name ++ [':'], by rw [← hrest, List.append_assoc]; exact hname.symm⟩

/-- **A fragment does not lead elsewhere.**  Behind a text without one it is added to the URL, in its written form. -/
theorem ofText_append_fragment {text fragment : List Char} {url : Url} (h : ofText? text = some url)
    (hhash : '#' ∉ text) (htext : TakesFragment text) (hfragment : ∀ c ∈ fragment.getLast?, ' ' < c) :
    ofText? (text ++ '#' :: fragment) = some (url.withFragment (some (writtenFragment fragment))) := by
  obtain ⟨scheme, rest, hsplit⟩ := exists_scheme_of_ofText h
  have hne : text ≠ [] := by
    rintro rfl
    cases hsplit
  have htrimmed : trimmed (text ++ '#' :: fragment) = trimmed text ++ '#' :: fragment := by
    refine trimmed_append htext.1 (fun c hc => ?_) hne (List.cons_ne_nil '#' fragment)
    cases fragment with
    | nil => cases hc; decide
    | cons d fragment => exact hfragment c (by rwa [List.getLast?_cons_cons] at hc)
  have hsplit' : splitScheme (Path.visible (trimmed (text ++ '#' :: fragment))) =
      some (scheme, rest ++ '#' :: Path.visible fragment) := by
    rw [htrimmed, visible_append]
    exact splitScheme_append hsplit ('#' :: Path.visible fragment)
  have hcolon : ':' ∈ trimmed text := by
    obtain ⟨first, name, hname, -⟩ := splitScheme_eq_some.1 hsplit
    refine List.mem_of_mem_filter (show ':' ∈ Path.visible (trimmed text) from ?_)
    rw [hname]
    exact List.mem_append_right _ List.mem_cons_self
  have hnone := hash_not_mem_rest hhash hsplit
  rw [ofText_eq hsplit (cut_of_forall hnone), List.isEmpty_nil, Bool.and_true] at h
  rw [ofText_eq hsplit' (cut_append_cons hnone (by decide) _), htrimmed, rawBehind_append hcolon, List.isEmpty_cons,
    Bool.and_false, ofBehind_fragment]
  exact congrArg (Option.map _) (ofBehind_ends h (htext.not_bare hsplit))

end BlogMarkdown.Url
