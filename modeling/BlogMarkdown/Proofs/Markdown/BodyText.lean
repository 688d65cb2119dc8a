import BlogMarkdown.Markdown.Render
import Mathlib.Data.List.Basic
import Mathlib.Data.List.Induction
/-!
# Breaks in body text, and how it ends

Newlines that stand together are written as one break.  So a body text falls apart at its newlines: what stands before
them and what stands behind them comes out as if the other were not there.
-/
namespace BlogMarkdown.Markdown

/-! ## The last newlines of a text -/

/-- A text with its last newlines taken out. -/
structure LastNewlines (s front : List Char) (more : Nat) (line : List Char) : Prop where
  eq : s = front ++ (List.replicate (more + 1) '\n' ++ line)
  front : front.getLast? ≠ some '\n'
  line : '\n' ∉ line

theorem getLast?_ne_of_not_mem {s : List Char} (h : '\n' ∉ s) : s.getLast? ≠ some '\n' :=
  fun hlast => h (List.mem_of_getLast? hlast)

theorem exists_lastNewlines (s : List Char) : '\n' ∉ s ∨ ∃ front more line, LastNewlines s front more line := by
  induction s using List.reverseRecOn with
  | nil => exact .inl List.not_mem_nil
  | append_singleton s c ih =>
    by_cases hc : c = '\n'
    · subst hc
      rcases ih with hs | ⟨front, more, line, rfl, hfront, hline⟩
      · exact .inr ⟨s, 0, [], by simp, getLast?_ne_of_not_mem hs, List.not_mem_nil⟩
      · cases line with
        | nil => exact .inr ⟨front, more + 1, [], by simp [List.replicate_succ'], hfront, hline⟩
        | cons d line =>
          refine .inr ⟨_, 0, [], rfl, ?_, List.not_mem_nil⟩
          have hlast := getLast?_ne_of_not_mem hline
          simpa [List.getLast?_append, List.getLast?_cons] using hlast
    · rcases ih with hs | ⟨front, more, line, rfl, hfront, hline⟩
      · exact .inl (by simp [hs, Ne.symm hc])
      · exact .inr ⟨front, more, line ++ [c], by simp, hfront, by simp [hline, Ne.symm hc]⟩

/-! ## Lines of body text -/

theorem bodyLines_line : ∀ (newlines : Nat) (start : List Char) {line : List Char}, '\n' ∉ line →
    bodyLines newlines start line = [(newlines, start.reverse ++ line)]
  | _, _, [], _ => by rw [bodyLines, List.append_nil]
  | newlines, start, c :: line, h => by
    rw [List.mem_cons, not_or] at h
    rw [bodyLines, if_pos (Ne.symm h.1), bodyLines_line newlines (c :: start) h.2, List.reverse_cons, List.append_assoc,
      List.singleton_append]

/-- A newline goes on with the run before it, or ends a line. -/
theorem bodyLines_newline (newlines : Nat) (line text : List Char) :
    bodyLines newlines line ('\n' :: text) =
      if line.isEmpty ∧ newlines ≠ 0 then bodyLines (newlines + 1) [] text
      else (newlines, line.reverse) :: bodyLines 1 [] text := by
  rw [bodyLines, if_neg (by simp)]

theorem bodyLines_newlines (w : List Char) : ∀ (more newlines : Nat), newlines ≠ 0 →
    bodyLines newlines [] (List.replicate more '\n' ++ w) = bodyLines (newlines + more) [] w
  | 0, _, _ => rfl
  | more + 1, newlines, hn => by
    rw [List.replicate_succ, List.cons_append, bodyLines_newline, if_pos ⟨rfl, hn⟩,
      bodyLines_newlines w more (newlines + 1) (Nat.succ_ne_zero _), Nat.add_assoc, Nat.add_comm 1]

/-- Newlines behind something that is no newline begin new lines. -/
theorem bodyLines_run (more : Nat) (w : List Char) : ∀ (u : List Char) (newlines : Nat) (start : List Char),
    u.getLast? ≠ some '\n' → (u = [] → start ≠ [] ∨ newlines = 0) →
    bodyLines newlines start (u ++ (List.replicate (more + 1) '\n' ++ w)) =
      bodyLines newlines start u ++ bodyLines (more + 1) [] w
  | [], newlines, start, _, hstart => by
    have hopen : ¬ (start.isEmpty = true ∧ newlines ≠ 0) := by
      rintro ⟨hempty, hn⟩
      rcases hstart rfl with hne | hzero
      · exact hne (List.isEmpty_iff.1 hempty)
      · exact hn hzero
    rw [List.nil_append, List.replicate_succ, List.cons_append, bodyLines_newline, bodyLines, if_neg hopen,
      bodyLines_newlines w more 1 Nat.one_ne_zero, Nat.add_comm]
    rfl
  | c :: u, newlines, start, hlast, _ => by
    have hu : u.getLast? ≠ some '\n' := fun he => hlast (by rw [List.getLast?_cons, he]; rfl)
    have hne (hc : c = '\n') : u ≠ [] := by
      rintro rfl
      exact hlast (congrArg some hc)
    rw [List.cons_append, bodyLines, bodyLines]
    split
    · exact bodyLines_run more w u newlines (c :: start) hu fun _ => .inl (List.cons_ne_nil _ _)
    · rename_i hc
      have hfull := hne (not_not.1 hc)
      split
      · exact bodyLines_run more w u (newlines + 1) [] hu fun he => absurd he hfull
      · rw [bodyLines_run more w u 1 [] hu fun he => absurd he hfull, List.cons_append]

/-- The first line of a text that does not begin with a newline carries the number of newlines before it. -/
theorem bodyLines_counted : ∀ (s line : List Char), (line = [] → s.head? ≠ some '\n') →
    ∃ first rest, ∀ newlines, bodyLines newlines line s = (newlines, first) :: rest
  | [], line, _ => ⟨line.reverse, [], fun _ => rfl⟩
  | c :: s, line, h => by
    by_cases hc : c = '\n'
    · have hline : line ≠ [] := fun he => h he (congrArg some hc)
      refine ⟨line.reverse, bodyLines 1 [] s, fun newlines => ?_⟩
      rw [bodyLines, if_neg (not_not.2 hc), if_neg fun hempty => hline (List.isEmpty_iff.1 hempty.1)]
    · obtain ⟨first, rest, hrest⟩ := bodyLines_counted s (c :: line) fun he => absurd he (List.cons_ne_nil c line)
      exact ⟨first, rest, fun newlines => by rw [bodyLines, if_pos hc, hrest]⟩

/-! ## Breaks in body text -/

/-- Body text on one line is escaped. -/
theorem bodyText_line {s : List Char} (h : '\n' ∉ s) : bodyText s = escape specialInText s := by
  rw [bodyText, bodyLines_line 0 [] h, List.flatMap_singleton]
  rfl

/-- **Body text falls apart at any newlines.** -/
theorem bodyText_run {u w : List Char} (hu : u.getLast? ≠ some '\n') (hw : w.head? ≠ some '\n') {k : Nat} (hk : k ≠ 0) :
    bodyText (u ++ (List.replicate k '\n' ++ w)) = bodyText u ++ (lineBreak k ++ bodyText w) := by
  obtain ⟨more, rfl⟩ := Nat.exists_eq_succ_of_ne_zero hk
  obtain ⟨first, rest, hrest⟩ := bodyLines_counted w [] fun _ => hw
  rw [bodyText, bodyLines_run more w u 0 [] hu fun _ => .inr rfl, List.flatMap_append, hrest, bodyText, bodyText, hrest]
  simp only [List.flatMap_cons, lineBreak, if_true, List.nil_append, List.append_assoc]

/-- Body text falls apart at its last newlines. -/
theorem bodyText_of_lastNewlines {s front line : List Char} {more : Nat} (h : LastNewlines s front more line) :
    bodyText s = bodyText front ++ (lineBreak (more + 1) ++ escape specialInText line) := by
  have hline : line.head? ≠ some '\n' := fun hhead => h.line (List.mem_of_head? hhead)
  rw [h.eq, bodyText_run h.front hline (Nat.succ_ne_zero more), bodyText_line h.line]

/-! ## Ends -/

/-- The last line of a text is empty behind a newline. -/
theorem LastNewlines.ends {s front line : List Char} {c : Char} {more : Nat}
    (h : LastNewlines (s ++ [c]) front more line) :
    (c = '\n' ∧ line = []) ∨ (c ≠ '\n' ∧ ∃ rest, line = rest ++ [c]) := by
  have heq := h.eq
  rw [← List.append_assoc] at heq
  rcases List.eq_nil_or_concat' line with rfl | ⟨rest, d, rfl⟩
  · rw [List.append_nil, List.replicate_succ', ← List.append_assoc] at heq
    exact .inl ⟨List.singleton_inj.1 (List.append_inj' heq rfl).2, rfl⟩
  · rw [← List.append_assoc] at heq
    obtain rfl : c = d := List.singleton_inj.1 (List.append_inj' heq rfl).2
    refine .inr ⟨?_, rest, rfl⟩
    rintro rfl
    exact h.line (by simp)

/-- A single newline at the end breaks the line in markup. -/
theorem bodyText_newline {s : List Char} (hs : s.getLast? ≠ some '\n') :
    bodyText (s ++ ['\n']) = bodyText s ++ "\n<br".toList ++ ['>'] := by
  have h : LastNewlines (s ++ ['\n']) s 0 [] := ⟨rfl, hs, List.not_mem_nil⟩
  rw [bodyText_of_lastNewlines h, List.append_assoc]
  rfl

/-- Two newlines or more at the end stay two. -/
theorem bodyText_newlines (s : List Char) : ∃ a, bodyText (s ++ ['\n', '\n']) = a ++ ['\n', '\n'] := by
  rw [show s ++ ['\n', '\n'] = s ++ ['\n'] ++ ['\n'] by simp]
  rcases exists_lastNewlines (s ++ ['\n'] ++ ['\n']) with h | ⟨front, more, line, h⟩
  · exact absurd (List.mem_append_right _ (List.mem_singleton_self _)) h
  · obtain ⟨-, rfl⟩ := h.ends.resolve_right fun hne => hne.1 rfl
    cases more with
    | zero =>
      have hfront : s ++ ['\n'] = front :=
        List.append_cancel_right (show s ++ ['\n'] ++ ['\n'] = front ++ ['\n'] from h.eq)
      exact absurd (by rw [← hfront, List.getLast?_concat]) h.front
    | succ more =>
      refine ⟨bodyText front, ?_⟩
      rw [bodyText_of_lastNewlines h]
      rfl

theorem escapeAfter_concat (special : List Char) (c : Char) : ∀ (s : List Char) (before : Option Char),
    ∃ a, escapeAfter special before (s ++ [c]) = a ++ [c]
  | [], before => by
    rw [List.nil_append, escapeAfter]
    split
    · exact ⟨['\\'], rfl⟩
    · exact ⟨[], rfl⟩
  | d :: s, before => by
    obtain ⟨a, ha⟩ := escapeAfter_concat special c s (some d)
    rw [List.cons_append, escapeAfter, ha]
    split
    · exact ⟨'\\' :: d :: a, rfl⟩
    · exact ⟨d :: a, rfl⟩

/-- Anything but a newline at the end stays there. -/
theorem bodyText_concat {c : Char} (hc : c ≠ '\n') (s : List Char) : ∃ a, bodyText (s ++ [c]) = a ++ [c] := by
  rcases exists_lastNewlines (s ++ [c]) with h | ⟨front, more, line, h⟩
  · rw [bodyText_line h]
    exact escapeAfter_concat specialInText c s none
  · obtain ⟨-, line, rfl⟩ := h.ends.resolve_left fun he => hc he.1
    obtain ⟨a, ha⟩ := escapeAfter_concat specialInText c line none
    rw [bodyText_of_lastNewlines h, escape, ha, ← List.append_assoc, ← List.append_assoc]
    exact ⟨_, rfl⟩

end BlogMarkdown.Markdown
