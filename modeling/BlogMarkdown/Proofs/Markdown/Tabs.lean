import BlogMarkdown.Markdown.Escape
import Mathlib.Data.List.Induction
/-!
# Tab stops

A tab becomes the blanks up to the next tab stop.  Which column that is follows from the text written so far, and from
that alone (`expandTabsFrom_append`): the column is the number of characters since the last end of a line.
-/
namespace BlogMarkdown.Markdown

/-- The characters behind which columns begin anew. -/
def endsLine (c : Char) : Bool := c = '\n' || c = '\r' || c = '\x0c'

/-- **The column behind a text**: how many characters stand there since the last end of a line. -/
def column (s : List Char) : Nat := (s.reverse.takeWhile fun c => !endsLine c).length

/-- Some blanks behind a text end at a tab stop, and fewer do not. -/
structure ReachesStop (size : Nat) (out : List Char) (blanks : Nat) : Prop where
  pos : 0 < blanks
  le : blanks ≤ size
  stop : size ∣ column (out ++ List.replicate blanks ' ')
  least : ∀ fewer, 0 < fewer → size ∣ column (out ++ List.replicate fewer ' ') → blanks ≤ fewer

/-- **A text and its expansion**: each tab is blanks up to a tab stop, where columns are those of the expansion, and
all else is as it was. -/
inductive Expanded (size : Nat) : List Char → List Char → Prop
  | nil : Expanded size [] []
  | char {text out : List Char} {c : Char} : Expanded size text out → c ≠ '\t' →
    Expanded size (text ++ [c]) (out ++ [c])
  | tab {text out : List Char} {blanks : Nat} : Expanded size text out → ReachesStop size out blanks →
    Expanded size (text ++ ['\t']) (out ++ List.replicate blanks ' ')

variable {size : Nat}

/-! ## Columns -/

theorem column_concat (s : List Char) (c : Char) : column (s ++ [c]) = if endsLine c then 0 else column s + 1 := by
  rw [column, List.reverse_append, List.reverse_singleton, List.singleton_append, List.takeWhile_cons]
  cases endsLine c <;> rfl

theorem column_blanks (s : List Char) : ∀ n : Nat, column (s ++ List.replicate n ' ') = column s + n
  | 0 => by rw [List.replicate_zero, List.append_nil, Nat.add_zero]
  | n + 1 => by
    rw [List.replicate_succ', ← List.append_assoc, column_concat, column_blanks s n]
    rfl

/-- **The blanks of a tab** are those that the next tab stop is away. -/
theorem reachesStop_iff (hsize : 0 < size) (out : List Char) (blanks : Nat) :
    ReachesStop size out blanks ↔ blanks = size - column out % size := by
  have hlt : column out % size < size := Nat.mod_lt _ hsize
  have hstop (n : Nat) : size ∣ column (out ++ List.replicate n ' ') ↔ size ∣ column out % size + n := by
    rw [column_blanks]
    conv_lhs => rw [← Nat.div_add_mod (column out) size, Nat.add_assoc]
    exact Nat.dvd_add_right (Nat.dvd_mul_right ..)
  have hreach : ReachesStop size out (size - column out % size) := by
    have hsum : column out % size + (size - column out % size) = size := by omega
    refine ⟨by omega, by omega, (hstop _).2 ⟨1, ?_⟩, fun fewer hpos hdvd => ?_⟩
    · rw [hsum, Nat.mul_one]
    · have hle := Nat.le_of_dvd (by omega) ((hstop fewer).1 hdvd)
      omega
  refine ⟨fun h => ?_, fun h => h ▸ hreach⟩
  exact Nat.le_antisymm (h.least _ hreach.pos hreach.stop) (hreach.least _ h.pos h.stop)

/-! ## Expanding behind a text -/

theorem expandTabsFrom_tab (out rest : List Char) :
    expandTabsFrom size (column out) ('\t' :: rest) = List.replicate (size - column out % size) ' ' ++
      expandTabsFrom size (column (out ++ List.replicate (size - column out % size) ' ')) rest := by
  rw [column_blanks, expandTabsFrom]
  rfl

theorem expandTabsFrom_cons {c : Char} (hc : c ≠ '\t') (out rest : List Char) :
    expandTabsFrom size (column out) (c :: rest) = c :: expandTabsFrom size (column (out ++ [c])) rest := by
  rw [expandTabsFrom, if_neg hc, column_concat]
  by_cases hend : c = '\n' ∨ c = '\r' ∨ c = '\x0c'
  · have hline : endsLine c = true := by simpa [endsLine, or_assoc] using hend
    rw [if_pos hend, if_pos hline]
  · have hline : ¬ endsLine c = true := by simpa [endsLine, or_assoc] using hend
    rw [if_neg hend, if_neg hline]

/-- **What is expanded first decides the columns of the rest**, and nothing else of it does. -/
theorem expandTabsFrom_append : ∀ (s t out : List Char), expandTabsFrom size (column out) (s ++ t) =
    expandTabsFrom size (column out) s ++
      expandTabsFrom size (column (out ++ expandTabsFrom size (column out) s)) t
  | [], t, out => by
    rw [expandTabsFrom, List.append_nil]
    rfl
  | c :: s, t, out => by
    by_cases hc : c = '\t'
    · subst hc
      rw [List.cons_append, expandTabsFrom_tab, expandTabsFrom_tab, expandTabsFrom_append s t, List.append_assoc,
        List.append_assoc]
    · rw [List.cons_append, expandTabsFrom_cons hc, expandTabsFrom_cons hc, expandTabsFrom_append s t, List.append_assoc]
      rfl

theorem expandTabs_append (s t : List Char) :
    expandTabs size (s ++ t) = expandTabs size s ++ expandTabsFrom size (column (expandTabs size s)) t :=
  expandTabsFrom_append s t []

theorem expandTabs_concat {c : Char} (hc : c ≠ '\t') (s : List Char) :
    expandTabs size (s ++ [c]) = expandTabs size s ++ [c] := by
  rw [expandTabs_append, expandTabsFrom_cons hc, expandTabsFrom]

theorem expandTabs_concat_tab (s : List Char) :
    expandTabs size (s ++ ['\t']) =
      expandTabs size s ++ List.replicate (size - column (expandTabs size s) % size) ' ' := by
  rw [expandTabs_append, expandTabsFrom_tab, expandTabsFrom, List.append_nil]

theorem expanded_iff (hsize : 0 < size) {text out : List Char} : Expanded size text out ↔ out = expandTabs size text := by
  constructor
  · intro h
    induction h with
    | nil => rfl
    | char _ hc ih => rw [expandTabs_concat hc, ih]
    | tab _ hstop ih => rw [expandTabs_concat_tab, (reachesStop_iff hsize _ _).1 hstop, ih]
  · rintro rfl
    induction text using List.reverseRecOn with
    | nil => exact .nil
    | append_singleton text c ih =>
      by_cases hc : c = '\t'
      · subst hc
        rw [expandTabs_concat_tab]
        exact ih.tab ((reachesStop_iff hsize _ _).2 rfl)
      · rw [expandTabs_concat hc]
        exact ih.char hc

/-! ## Lines and tabs that are gone -/

theorem tab_not_mem_expandTabs (text : List Char) : '\t' ∉ expandTabs size text := by
  induction text using List.reverseRecOn with
  | nil => exact List.not_mem_nil
  | append_singleton text c ih =>
    by_cases hc : c = '\t'
    · subst hc
      rw [expandTabs_concat_tab, List.mem_append, List.mem_replicate]
      rintro (hmem | ⟨-, hblank⟩)
      · exact ih hmem
      · exact absurd hblank (by decide)
    · rw [expandTabs_concat hc, List.mem_append, List.mem_singleton]
      rintro (hmem | rfl)
      · exact ih hmem
      · exact hc rfl

theorem expandTabs_eq_self {text : List Char} (h : '\t' ∉ text) : expandTabs size text = text := by
  induction text using List.reverseRecOn with
  | nil => rfl
  | append_singleton text c ih =>
    rw [List.mem_append, List.mem_singleton, not_or] at h
    rw [expandTabs_concat (Ne.symm h.2), ih h.1]

/-- Behind the end of a line the columns are those of a new text. -/
theorem column_expandTabs_line {line : List Char} (h : ∃ c ∈ line.getLast?, endsLine c = true) :
    column (expandTabs size line) = 0 := by
  obtain ⟨c, hlast, hend⟩ := h
  obtain ⟨s, rfl⟩ := List.getLast?_eq_some_iff.1 hlast
  have hc : c ≠ '\t' := by
    rintro rfl
    exact absurd hend (by decide)
  rw [expandTabs_concat hc, column_concat, if_pos hend]

theorem expandTabs_flatten : ∀ {lines : List (List Char)},
    (∀ line ∈ lines.dropLast, ∃ c ∈ line.getLast?, endsLine c = true) →
    expandTabs size lines.flatten = lines.flatMap (expandTabs size)
  | [], _ => rfl
  | [line], _ => by rw [List.flatten_singleton, List.flatMap_singleton]
  | line :: next :: lines, h => by
    rw [List.dropLast_cons_cons, List.forall_mem_cons] at h
    rw [List.flatten_cons, List.flatMap_cons, expandTabs_append, column_expandTabs_line h.1, ← expandTabs_flatten h.2]
    rfl

/-- **Expanding keeps the text and its columns**, for every text and every distance of tab stops.  The expansion is the
text with each tab replaced by the least number of blanks that end at a tab stop, so no tab is left and expanding once
more changes nothing; and lines are expanded one by one, wherever the text is cut behind ends of lines. -/
theorem expansion_of_text (hsize : 0 < size) (text : List Char) :
    (∀ out, Expanded size text out ↔ out = expandTabs size text) ∧ '\t' ∉ expandTabs size text ∧
      (∀ lines : List (List Char), lines.flatten = text →
        (∀ line ∈ lines.dropLast, ∃ c ∈ line.getLast?, endsLine c = true) →
        expandTabs size text = lines.flatMap (expandTabs size)) ∧
      expandTabs size (expandTabs size text) = expandTabs size text := by
  refine ⟨fun out => expanded_iff hsize, tab_not_mem_expandTabs text, ?_, ?_⟩
  · rintro lines rfl hends
    exact expandTabs_flatten hends
  · exact expandTabs_eq_self (tab_not_mem_expandTabs text)

/-- Two tabs of one line, the first behind a character of two bytes, and a third one behind a form feed. -/
theorem expansion_of_form_feed : 0 < 4 ∧ Expanded 4 "ä\tb\t\x0c\tc".toList "ä   b   \x0c    c".toList ∧
    expandTabs 4 "ä\tb\t\x0c\tc".toList = ["ä\tb\t\x0c".toList, "\tc".toList].flatMap (expandTabs 4) := by
  obtain ⟨hexpanded, -, hlines, -⟩ := expansion_of_text (show 0 < 4 by decide) "ä\tb\t\x0c\tc".toList
  refine ⟨by decide, (hexpanded _).2 (by decide), hlines _ (by decide) ?_⟩
  rintro line hline
  obtain rfl : line = "ä\tb\t\x0c".toList := List.mem_singleton.1 hline
  exact ⟨'\x0c', by decide, by decide⟩

end BlogMarkdown.Markdown
