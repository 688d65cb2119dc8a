import BlogMarkdown.Text.Search
import Mathlib.Data.List.Basic
/-!
# Where a word occurs

Parting a text at a word parts it at the first occurrence of the word, and fails only if the word does not occur.
-/
namespace BlogMarkdown.Text

variable {α : Type} [BEq α] [LawfulBEq α]

/-- **The first occurrence of a word in a text**, which stands between `before` and `after`. -/
structure FirstOccurrence (word text before after : List α) : Prop where
  eq : text = before ++ word ++ after
  first : ∀ u v, text = u ++ word ++ v → before.length ≤ u.length

theorem splitAtWordFrom_eq_some {word after : List α} : ∀ {text read before : List α},
    splitAtWordFrom read word text = some (before, after) →
    ∃ b, before = read.reverse ++ b ∧ FirstOccurrence word text b after
  | [], read, before, h => by
    rw [splitAtWordFrom] at h
    split at h
    · rename_i hword
      cases h
      refine ⟨[], (List.append_nil _).symm, ?_, fun _ _ _ => Nat.zero_le _⟩
      rw [List.isEmpty_iff.1 hword]
      rfl
    · cases h
  | c :: rest, read, before, h => by
    rw [splitAtWordFrom] at h
    split at h
    · rename_i behind hfound
      cases h
      have heq := List.isPrefixOf?_eq_some_iff_append_eq.1 hfound
      exact ⟨[], (List.append_nil _).symm, heq.symm, fun _ _ _ => Nat.zero_le _⟩
    · rename_i hnone
      obtain ⟨b, hbefore, heq, hfirst⟩ := splitAtWordFrom_eq_some h
      refine ⟨c :: b, ?_, congrArg (c :: ·) heq, fun u v huv => ?_⟩
      · rw [hbefore, List.reverse_cons, List.append_assoc, List.singleton_append]
      · cases u with
        | nil =>
          rw [List.nil_append] at huv
          rw [List.isPrefixOf?_eq_some_iff_append_eq.2 huv.symm] at hnone
          cases hnone
        | cons d u =>
          have hrest := (List.cons.inj huv).2
          exact Nat.succ_le_succ (hfirst u v hrest)

theorem splitAtWordFrom_eq_none {word : List α} : ∀ {text read : List α}, splitAtWordFrom read word text = none →
    ∀ u v, text ≠ u ++ word ++ v
  | [], read, h, u, v, huv => by
    have hnil : u ++ word ++ v = [] := huv.symm
    simp only [List.append_eq_nil_iff] at hnil
    rw [splitAtWordFrom, hnil.1.2] at h
    cases h
  | c :: rest, read, h, u, v, huv => by
    rw [splitAtWordFrom] at h
    split at h
    · cases h
    · rename_i hnone
      cases u with
      | nil =>
        rw [List.nil_append] at huv
        rw [List.isPrefixOf?_eq_some_iff_append_eq.2 huv.symm] at hnone
        cases hnone
      | cons d u => exact splitAtWordFrom_eq_none h u v (List.cons.inj huv).2

/-- **A text is parted at the first occurrence of a word.** -/
theorem splitAtWord?_eq_some {word text before after : List α} (h : splitAtWord? word text = some (before, after)) :
    FirstOccurrence word text before after := by
  obtain ⟨b, rfl, hfirst⟩ := splitAtWordFrom_eq_some h
  exact hfirst

theorem splitAtWord?_eq_none {word text : List α} (h : splitAtWord? word text = none) (u v : List α) :
    text ≠ u ++ word ++ v := splitAtWordFrom_eq_none h u v

end BlogMarkdown.Text
