import BlogMarkdown.Proofs.Markdown.Delimiters
import Mathlib.Algebra.Ring.Parity
/-!
# Taking escapes back

With the backslash among the special characters an escaped text falls into units: a special character behind a backslash
of its own, or a character that is no backslash.  So a reader that drops the backslash of each unit gets the text back,
whatever stands behind it, and no unit hides the first character of the next one.
-/
namespace BlogMarkdown.Markdown

/-- Drops, from the left, each backslash that a special character follows. -/
def unescape (special : List Char) : List Char → List Char
  | [] => []
  | '\\' :: c :: rest =>
    if special.contains c then c :: unescape special rest else '\\' :: unescape special (c :: rest)
  | c :: rest => c :: unescape special rest

/-- A special character that is escaped wherever it stands, other than the backslash. -/
def AlwaysEscaped (special : List Char) (c : Char) : Prop := c ∈ special ∧ c ∉ ['\\', '.', ':', '!']

/-- **The units of an escaped text.** -/
inductive Escaped (special : List Char) : List Char → List Char → Prop
  | nil : Escaped special [] []
  | marked {c : Char} {s a : List Char} : c ∈ special → Escaped special s a → Escaped special (c :: s) ('\\' :: c :: a)
  | plain {c : Char} {s a : List Char} : c ≠ '\\' → ¬ AlwaysEscaped special c → Escaped special s a →
    Escaped special (c :: s) (c :: a)

theorem backslash_mem_specialInText : '\\' ∈ specialInText := List.mem_cons_self

section

variable {special : List Char}

theorem unescape_escaped {c : Char} (hc : c ∈ special) (rest : List Char) :
    unescape special ('\\' :: c :: rest) = c :: unescape special rest := by
  rw [unescape, if_pos (List.contains_iff_mem.2 hc)]

theorem unescape_cons {c : Char} (hc : c ≠ '\\') (rest : List Char) :
    unescape special (c :: rest) = c :: unescape special rest := by
  rw [unescape]
  rintro d rest rfl
  exact absurd rfl hc

theorem even_slashes_escaped (c : Char) : Even (slashes ['\\', c]) :=
  (even_slashes_append ['\\'] c).2 fun _ => by decide

theorem even_slashes_of_ne (s : List Char) {c : Char} (hc : c ≠ '\\') : Even (slashes (s ++ [c])) :=
  (even_slashes_append s c).2 fun he => absurd he hc

/-! ## Units -/

namespace Escaped

/-- **A reader that takes units for what they stand for reads the source**, whatever is behind it. -/
theorem read_append {read : List Char → List Char}
    (hmarked : ∀ {c}, c ∈ special → ∀ rest, read ('\\' :: c :: rest) = c :: read rest) {s a : List Char}
    (h : Escaped special s a) (hplain : ∀ {c}, c ∈ s → c ≠ '\\' → ∀ rest, read (c :: rest) = c :: read rest)
    (rest : List Char) : read (a ++ rest) = s ++ read rest := by
  induction h with
  | nil => rfl
  | marked hc _ ih =>
    have hread := ih fun hd => hplain (List.mem_cons_of_mem _ hd)
    rw [List.cons_append, List.cons_append, hmarked hc, hread, List.cons_append]
  | plain hc _ _ ih =>
    have hread := ih fun hd => hplain (List.mem_cons_of_mem _ hd)
    rw [List.cons_append, hplain List.mem_cons_self hc, hread, List.cons_append]

theorem unescape_append {s a : List Char} (h : Escaped special s a) (rest : List Char) :
    unescape special (a ++ rest) = s ++ unescape special rest :=
  h.read_append unescape_escaped (fun _ hc => unescape_cons hc) rest

theorem unescape_eq {s a : List Char} (h : Escaped special s a) : unescape special a = s := by
  have hs := h.unescape_append []
  rwa [unescape, List.append_nil, List.append_nil] at hs

/-- The last unit hides nothing behind it. -/
theorem even_slashes {s a : List Char} (h : Escaped special s a) : Even (slashes a) := by
  induction h with
  | nil => exact Even.zero
  | @marked c s a _ _ ih => exact (even_slashes_append_iff (even_slashes_escaped c) a).2 ih
  | @plain c s a hc _ _ ih => exact (even_slashes_append_iff (even_slashes_of_ne [] hc) a).2 ih

theorem of_append {s t u : List Char} (h : Escaped special (s ++ t) u) :
    ∃ a b, u = a ++ b ∧ Escaped special s a ∧ Escaped special t b := by
  induction s generalizing u with
  | nil => exact ⟨[], u, rfl, .nil, h⟩
  | cons c s ih =>
    cases h with
    | marked hc h =>
      obtain ⟨a, b, rfl, ha, hb⟩ := ih h
      exact ⟨'\\' :: c :: a, b, rfl, .marked hc ha, hb⟩
    | plain hc hplain h =>
      obtain ⟨a, b, rfl, ha, hb⟩ := ih h
      exact ⟨c :: a, b, rfl, .plain hc hplain ha, hb⟩

/-- A character that is always escaped has its backslash wherever it comes out. -/
theorem odd_slashes {c : Char} (hc : AlwaysEscaped special c) {s a : List Char} (h : Escaped special s a) :
    ∀ {left right : List Char}, a = left ++ c :: right → Odd (slashes left) := by
  have hne : '\\' ≠ c := fun he => hc.2 (he ▸ List.mem_cons_self)
  have hbehind {unit left : List Char} (hunit : Even (slashes unit)) (hodd : Odd (slashes left)) :
      Odd (slashes (unit ++ left)) := by
    rw [← Nat.not_even_iff_odd] at hodd ⊢
    rwa [even_slashes_append_iff hunit]
  -- `c` stands in the first unit, or behind it
  induction h with
  | nil =>
    intro left right h
    cases left <;> cases h
  | @marked d s a _ _ ih =>
    intro left right h
    rcases left with _ | ⟨x, _ | ⟨y, left⟩⟩
    · exact absurd (List.cons.inj h).1 hne
    · rw [← (List.cons.inj h).1]
      exact odd_one
    · obtain ⟨hx, h⟩ := List.cons.inj h
      obtain ⟨hy, h⟩ := List.cons.inj h
      rw [← hx, ← hy]
      exact hbehind (even_slashes_escaped d) (ih h)
  | @plain d s a hd hplain _ ih =>
    intro left right h
    rcases left with _ | ⟨x, left⟩
    · exact absurd ((List.cons.inj h).1 ▸ hc) hplain
    · obtain ⟨hx, h⟩ := List.cons.inj h
      rw [← hx]
      exact hbehind (even_slashes_of_ne [] hd) (ih h)

end Escaped

/-! ## Escaping writes units -/

theorem beginsSyntax_of_alwaysEscaped {c : Char} (hc : AlwaysEscaped special c) (before : Option Char) (after : List Char) :
    beginsSyntax before c after = true := by
  have hmarks := hc.2
  simp only [List.mem_cons, List.not_mem_nil, or_false, not_or] at hmarks
  rw [beginsSyntax, if_neg hmarks.2.1, if_neg hmarks.2.2.1, if_neg hmarks.2.2.2]

/-- **An escaped text falls apart wherever the text does.** -/
theorem escapeAfter_split (hslash : '\\' ∈ special) (t : List Char) : ∀ (s : List Char) (before : Option Char),
    ∃ a before', escapeAfter special before (s ++ t) = a ++ escapeAfter special before' t ∧ Escaped special s a
  | [], before => ⟨[], before, rfl, .nil⟩
  | c :: s, before => by
    obtain ⟨a, before', hrest, ha⟩ := escapeAfter_split hslash t s (some c)
    rw [List.cons_append, escapeAfter, hrest]
    split
    · rename_i h
      exact ⟨'\\' :: c :: a, before', rfl, .marked (List.contains_iff_mem.1 h.1) ha⟩
    · rename_i h
      refine ⟨c :: a, before', rfl, .plain ?_ (fun hc => ?_) ha⟩
      · rintro rfl
        exact h ⟨List.contains_iff_mem.2 hslash, rfl⟩
      · exact h ⟨List.contains_iff_mem.2 hc.1, beginsSyntax_of_alwaysEscaped hc before (s ++ t)⟩

theorem escaped_escape (hslash : '\\' ∈ special) (s : List Char) : Escaped special s (escape special s) := by
  obtain ⟨a, before, hs, ha⟩ := escapeAfter_split hslash [] s none
  rw [List.append_nil, escapeAfter, List.append_nil] at hs
  rwa [escape, hs]

/-- **Escaping loses nothing and hides nothing.**  With the backslash among the special characters, taking the escapes
back gives the text, and a character that is always escaped has an odd number of backslashes before it: each one of the
text comes out behind them, in its place, and none comes out without them. -/
theorem unescape_escape (hslash : '\\' ∈ special) (text : List Char) :
    unescape special (escape special text) = text ∧
    ∀ c ∈ special, c ∉ ['\\', '.', ':', '!'] →
      (∀ front back, text = front ++ c :: back → ∃ left right, escape special text = left ++ c :: right ∧
        Odd (slashes left) ∧ unescape special (left ++ [c]) = front ++ [c] ∧ unescape special right = back) ∧
      ∀ left right, escape special text = left ++ c :: right → Odd (slashes left) := by
  have htext := escaped_escape hslash text
  refine ⟨htext.unescape_eq, fun c hc hmarks => ?_⟩
  have hodd : ∀ {left right : List Char}, escape special text = left ++ c :: right → Odd (slashes left) :=
    htext.odd_slashes ⟨hc, hmarks⟩
  refine ⟨?_, fun left right => hodd⟩
  rintro front back rfl
  obtain ⟨a, b, hescape, hfront, hback⟩ := htext.of_append
  cases hback with
  | plain _ hplain _ => exact absurd ⟨hc, hmarks⟩ hplain
  | @marked _ _ right _ hback =>
    have hwhole : escape special (front ++ c :: back) = (a ++ ['\\']) ++ c :: right := by
      rw [hescape, List.append_assoc]
      rfl
    refine ⟨a ++ ['\\'], right, hwhole, hodd hwhole, ?_, hback.unescape_eq⟩
    rw [List.append_assoc, hfront.unescape_append, List.singleton_append, unescape_escaped hc]
    rfl

/-- The backslash of the text, its escape, and the escape of the asterisk stand in a row. -/
theorem unescape_escape_of_marks :
    '\\' ∈ ['\\', '*', '.'] ∧
      unescape ['\\', '*', '.'] (escape ['\\', '*', '.'] "1.\\*é".toList) = "1.\\*é".toList ∧
      (∃ left right, escape ['\\', '*', '.'] "1.\\*é".toList = left ++ '*' :: right ∧ Odd (slashes left) ∧
        unescape ['\\', '*', '.'] (left ++ ['*']) = "1.\\*".toList ∧ unescape ['\\', '*', '.'] right = ['é']) ∧
      Odd (slashes "1\\.\\\\\\".toList) := by
  have hslash : '\\' ∈ ['\\', '*', '.'] := by decide
  obtain ⟨hread, hmarks⟩ := unescape_escape hslash "1.\\*é".toList
  obtain ⟨hplaces, hslashes⟩ := hmarks '*' (by decide) (by decide)
  exact ⟨hslash, hread, hplaces "1.\\".toList ['é'] rfl, hslashes "1\\.\\\\\\".toList ['é'] (by decide)⟩

end

end BlogMarkdown.Markdown
