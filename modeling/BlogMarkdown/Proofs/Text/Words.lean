import BlogMarkdown.Proofs.Text.Search
import Mathlib.Data.List.Infix
import Mathlib.Data.List.TakeWhile
/-!
# Words in texts that are put together

Where a word occurs in a text does not change when other characters are added beside characters that are none of its
own.  Behind a text that ends with the word itself, the first occurrence is that one unless the word, cut short by its
last character, makes the text hold it earlier.  A run of characters ends before the first one that is none of them.
-/
namespace BlogMarkdown.Text

variable {α : Type}

/-! ## Runs -/

/-- A run ends with its text where nothing behind it goes on with it. -/
theorem span_append_of_stop {p : α → Bool} {s t : List α} (hs : ∀ c ∈ s, p c = true)
    (ht : ∀ c ∈ t.head?, p c = false) : (s ++ t).span p = (s, t) := by
  rw [List.span_eq_takeWhile_dropWhile, List.takeWhile_append_of_pos hs, List.dropWhile_append_of_pos hs]
  cases t with
  | nil => simp
  | cons c t => simp [ht c rfl]

theorem span_append_cons {p : α → Bool} {s t : List α} {c : α} (hs : ∀ d ∈ s, p d = true) (hc : p c = false) :
    (s ++ c :: t).span p = (s, c :: t) :=
  span_append_of_stop hs fun _ hd => Option.some.inj hd ▸ hc

/-- **A text is parted where its run ends.** -/
theorem span_eq_iff {p : α → Bool} {text s t : List α} : text.span p = (s, t) ↔
    text = s ++ t ∧ (∀ c ∈ s, p c = true) ∧ ∀ c ∈ t.head?, p c = false := by
  constructor
  · intro h
    rw [List.span_eq_takeWhile_dropWhile, Prod.mk.injEq] at h
    obtain ⟨rfl, rfl⟩ := h
    have hstop := List.head?_dropWhile_not p text
    refine ⟨List.takeWhile_append_dropWhile.symm, fun c hc => List.mem_takeWhile_imp hc, fun c hc => ?_⟩
    rw [Option.mem_def] at hc
    rw [hc] at hstop
    simpa using hstop
  · rintro ⟨rfl, hs, ht⟩
    exact span_append_of_stop hs ht

/-! ## Occurrences in a part -/

theorem prefix_of_prefix_append {c : α} {word : List α} (hc : c ∉ word) {rest : List α} : ∀ {s : List α},
    word <+: s ++ c :: rest → word <+: s
  | [], h => by
    cases word with
    | nil => exact List.nil_prefix
    | cons d word =>
      obtain ⟨rfl, -⟩ := List.cons_prefix_cons.1 h
      exact absurd List.mem_cons_self hc
  | d :: s, h => by
    cases word with
    | nil => exact List.nil_prefix
    | cons e word =>
      obtain ⟨rfl, htail⟩ := List.cons_prefix_cons.1 h
      have hword : c ∉ word := fun hmem => hc (List.mem_cons_of_mem _ hmem)
      exact List.cons_prefix_cons.2 ⟨rfl, prefix_of_prefix_append hword htail⟩

/-- A word is on one side of a character that is none of its own. -/
theorem infix_append_cons {c : α} {word : List α} (hc : c ∉ word) {rest : List α} : ∀ {s : List α},
    word <:+: s ++ c :: rest → word <:+: s ∨ word <:+: rest
  | [], h => by
    rcases List.infix_cons_iff.1 h with hprefix | hinfix
    · exact .inl (prefix_of_prefix_append (s := []) hc hprefix).isInfix
    · exact .inr hinfix
  | d :: s, h => by
    rcases List.infix_cons_iff.1 h with hprefix | hinfix
    · exact .inl (prefix_of_prefix_append (s := d :: s) hc hprefix).isInfix
    · rcases infix_append_cons hc hinfix with hs | hrest
      · exact .inl (List.infix_cons hs)
      · exact .inr hrest

/-! ## Texts that are spaced out -/

/-- A text in which some characters that are not of the alphabet were replaced by others that are not, one or more. -/
inductive Spaced (alphabet : List α) : List α → List α → Prop
  | nil : Spaced alphabet [] []
  | char (c : α) {s t : List α} : Spaced alphabet s t → Spaced alphabet (c :: s) (c :: t)
  | space {c d : α} {more s t : List α} : c ∉ alphabet → d ∉ alphabet → (∀ x ∈ more, x ∉ alphabet) →
    Spaced alphabet s t → Spaced alphabet (c :: s) (d :: (more ++ t))

namespace Spaced

variable {alphabet : List α}

theorem prefix_iff : ∀ {s t word : List α}, Spaced alphabet s t → (∀ x ∈ word, x ∈ alphabet) →
    (word <+: t ↔ word <+: s)
  | _, _, [], _, _ => by simp
  | _, _, d :: word, .nil, _ => Iff.rfl
  | _, _, d :: word, .char c h, hword => by
    rw [List.cons_prefix_cons, List.cons_prefix_cons, h.prefix_iff (List.forall_mem_cons.1 hword).2]
  | _, _, d :: word, .space hc hd _ _, hword => by
    have hmem := (List.forall_mem_cons.1 hword).1
    rw [List.cons_prefix_cons, List.cons_prefix_cons]
    constructor
    · rintro ⟨rfl, -⟩
      exact absurd hmem hd
    · rintro ⟨rfl, -⟩
      exact absurd hmem hc

theorem infix_append {word more : List α} (hword : ∀ x ∈ word, x ∈ alphabet) (hne : word ≠ [])
    (hmore : ∀ x ∈ more, x ∉ alphabet) (t : List α) : word <:+: more ++ t ↔ word <:+: t := by
  induction more with
  | nil => rfl
  | cons c more ih =>
    obtain ⟨hc, hmore⟩ := List.forall_mem_cons.1 hmore
    obtain ⟨d, word', rfl⟩ := List.exists_cons_of_ne_nil hne
    have hno : ¬ d :: word' <+: c :: (more ++ t) := by
      rw [List.cons_prefix_cons]
      rintro ⟨rfl, -⟩
      exact hc (hword d List.mem_cons_self)
    rw [List.cons_append, List.infix_cons_iff, ih hmore]
    exact or_iff_right hno

/-- **Spacing a text out makes and hides no word.** -/
theorem infix_iff {word : List α} (hword : ∀ x ∈ word, x ∈ alphabet) (hne : word ≠ []) : ∀ {s t : List α},
    Spaced alphabet s t → (word <:+: t ↔ word <:+: s)
  | _, _, .nil => Iff.rfl
  | _, _, .char c h => by
    rw [List.infix_cons_iff, List.infix_cons_iff, (Spaced.char c h).prefix_iff hword, h.infix_iff hword hne]
  | _, _, @space _ _ c d more s t hc hd hmore h => by
    have hleft := infix_append hword hne (List.forall_mem_cons.2 ⟨hd, hmore⟩) t
    have hright := infix_append hword hne (List.forall_mem_singleton.2 hc) s
    exact hleft.trans ((h.infix_iff hword hne).trans hright.symm)

end Spaced

/-! ## The word behind a text -/

theorem FirstOccurrence.unique {word text before after before' after' : List α}
    (h : FirstOccurrence word text before after) (h' : FirstOccurrence word text before' after') :
    before = before' ∧ after = after' := by
  have hlength : before.length = before'.length :=
    Nat.le_antisymm (h.first _ _ h'.eq) (h'.first _ _ h.eq)
  have heq := h.eq.symm.trans h'.eq
  rw [List.append_assoc, List.append_assoc] at heq
  obtain ⟨hbefore, hrest⟩ := List.append_inj heq hlength
  exact ⟨hbefore, List.append_cancel_left hrest⟩

variable [BEq α] [LawfulBEq α]

theorem splitAtWord?_eq_some_iff {word text before after : List α} :
    splitAtWord? word text = some (before, after) ↔ FirstOccurrence word text before after := by
  refine ⟨splitAtWord?_eq_some, fun h => ?_⟩
  cases hsplit : splitAtWord? word text with
  | none => exact absurd h.eq (splitAtWord?_eq_none hsplit before after)
  | some parts =>
    obtain ⟨before', after'⟩ := parts
    obtain ⟨rfl, rfl⟩ := h.unique (splitAtWord?_eq_some hsplit)
    rfl

/-- **A text is parted at the word right behind it** exactly if the word is not there before, also not with its last
character missing at the end. -/
theorem splitAtWord?_append_iff {word body : List α} (hword : word ≠ []) (rest : List α) :
    splitAtWord? word (body ++ word ++ rest) = some (body, rest) ↔ ¬ word <:+: body ++ word.dropLast := by
  have hlength : word.dropLast.length + 1 = word.length := by
    rw [List.length_dropLast, Nat.sub_add_cancel (List.length_pos_iff.2 hword)]
  rw [splitAtWord?_eq_some_iff]
  constructor
  · rintro ⟨-, hfirst⟩ ⟨u, v, huv⟩
    have hearlier : body ++ word ++ rest = u ++ word ++ (v ++ [word.getLast hword] ++ rest) :=
      calc body ++ word ++ rest
        _ = body ++ (word.dropLast ++ [word.getLast hword]) ++ rest := by rw [List.dropLast_append_getLast hword]
        _ = body ++ word.dropLast ++ ([word.getLast hword] ++ rest) := by simp only [List.append_assoc]
        _ = u ++ word ++ v ++ ([word.getLast hword] ++ rest) := by rw [huv]
        _ = u ++ word ++ (v ++ [word.getLast hword] ++ rest) := by simp only [List.append_assoc]
    have hle := hfirst _ _ hearlier
    have hsum := congrArg List.length huv
    rw [List.length_append, List.length_append, List.length_append] at hsum
    omega
  · intro h
    refine ⟨rfl, fun u v huv => ?_⟩
    by_contra hlt
    have hfound : u ++ word <+: body ++ word ++ rest := ⟨v, huv.symm⟩
    have hbody : body ++ word.dropLast <+: body ++ word ++ rest := by
      rw [List.append_assoc]
      exact (List.prefix_append_right_inj body).2 ((List.dropLast_prefix word).trans (List.prefix_append word rest))
    have hshort : u ++ word <+: body ++ word.dropLast := by
      refine List.prefix_of_prefix_length_le hfound hbody ?_
      rw [List.length_append, List.length_append]
      omega
    exact h ((List.suffix_append u word).isInfix.trans hshort.isInfix)

end BlogMarkdown.Text
