import BlogMarkdown.Proofs.Markdown.BodyText
import BlogMarkdown.Proofs.Markdown.Outcome
import BlogMarkdown.Proofs.Text.Words
/-!
# Body text in two parts

A body text that is written in two parts comes out as if it were written at once, except at a seam: where newlines meet
newlines, where newlines stand alone beside a block boundary, and where a character is escaped for one beyond the seam.
-/
namespace BlogMarkdown.Markdown

open Text

/-! ## Escapes across a seam -/

/-- A text with one backslash more. -/
def OneMore (s t : List Char) : Prop := ∃ p q, s = p ++ '\\' :: q ∧ t = p ++ q

namespace OneMore

variable {s t : List Char}

theorem front (r : List Char) (h : OneMore s t) : OneMore (r ++ s) (r ++ t) := by
  obtain ⟨p, q, rfl, rfl⟩ := h
  exact ⟨r ++ p, q, by simp, by simp⟩

theorem back (r : List Char) (h : OneMore s t) : OneMore (s ++ r) (t ++ r) := by
  obtain ⟨p, q, rfl, rfl⟩ := h
  exact ⟨p, q ++ r, by simp, by simp⟩

theorem solid_ne (h : OneMore s t) : solid s ≠ solid t := by
  obtain ⟨p, q, rfl, rfl⟩ := h
  intro he
  have hlength := congrArg List.length he
  have hslash : solid ('\\' :: q) = '\\' :: solid q := rfl
  rw [solid_append, solid_append, hslash, List.length_append, List.length_append, List.length_cons] at hlength
  omega

end OneMore

/-- The end of a text is escaped for what follows it. -/
def CutsAhead (a b : List Char) : Prop :=
  ([':'] <:+ a ∧ ['/', '/'] <+: b) ∨ ([':', '/'] <:+ a ∧ ['/'] <+: b) ∨ (['!'] <:+ a ∧ ['!'] <+: b)

/-- Something of a text is escaped for what stands on the other side of its end. -/
def CutsEscape (a b : List Char) : Prop :=
  (∃ d, d.isDigit = true ∧ [d] <:+ a ∧ ['.'] <+: b) ∨ CutsAhead a b

/-- The part of an escaped text before another part. -/
def escapeBefore (before : Option Char) (b : List Char) : List Char → List Char
  | [] => []
  | c :: a =>
    let rest := escapeBefore (some c) b a
    if specialInText.contains c ∧ beginsSyntax before c (a ++ b) then '\\' :: c :: rest else c :: rest

theorem escapeAfter_parts (b : List Char) : ∀ (a : List Char) (before : Option Char),
    escapeAfter specialInText before (a ++ b) =
      escapeBefore before b a ++ escapeAfter specialInText (a.getLast?.or before) b
  | [], _ => rfl
  | c :: a, before => by
    have hlast : (c :: a).getLast?.or before = a.getLast?.or (some c) := by cases a <;> simp [List.getLast?_cons]
    rw [List.cons_append, escapeAfter, escapeBefore, escapeAfter_parts b a (some c), hlast]
    split
    · rfl
    · rfl

/-- Two letters that are escaped alike before two texts. -/
theorem escapeBefore_cons {c : Char} {a b : List Char} {before : Option Char}
    (h : beginsSyntax before c (a ++ b) = beginsSyntax before c a)
    (hrest : (¬ CutsAhead a b → escapeBefore (some c) b a = escapeAfter specialInText (some c) a) ∧
      (CutsAhead a b → OneMore (escapeBefore (some c) b a) (escapeAfter specialInText (some c) a)))
    (hcuts : CutsAhead (c :: a) b ↔ CutsAhead a b) :
    (¬ CutsAhead (c :: a) b → escapeBefore before b (c :: a) = escapeAfter specialInText before (c :: a)) ∧
      (CutsAhead (c :: a) b → OneMore (escapeBefore before b (c :: a)) (escapeAfter specialInText before (c :: a))) := by
  rw [escapeBefore, escapeAfter, h, hcuts]
  split
  · exact ⟨fun hnot => by rw [hrest.1 hnot], fun hcut => (hrest.2 hcut).front ['\\', c]⟩
  · exact ⟨fun hnot => by rw [hrest.1 hnot], fun hcut => (hrest.2 hcut).front [c]⟩

/-- A letter that is escaped if a word follows it, at the end of a text. -/
theorem escapeBefore_marked {c : Char} {a b : List Char} {before : Option Char} (word : List Char)
    (hspecial : specialInText.contains c = true) (hcuts : CutsAhead (c :: a) b ↔ word <+: b)
    (hbegins : beginsSyntax before c (a ++ b) = word.isPrefixOf b)
    (hplain : escapeAfter specialInText before (c :: a) = c :: a) (hrest : escapeBefore (some c) b a = a) :
    (¬ CutsAhead (c :: a) b → escapeBefore before b (c :: a) = escapeAfter specialInText before (c :: a)) ∧
      (CutsAhead (c :: a) b → OneMore (escapeBefore before b (c :: a)) (escapeAfter specialInText before (c :: a))) := by
  rw [hcuts, ← List.isPrefixOf_iff_prefix, hplain, escapeBefore, hrest, hbegins, hspecial]
  cases word.isPrefixOf b with
  | true => exact ⟨fun h => absurd rfl h, fun _ => ⟨[], c :: a, rfl, rfl⟩⟩
  | false => exact ⟨fun _ => rfl, nofun⟩

theorem escapeBefore_single (b : List Char) (c : Char) (before : Option Char) :
    (¬ CutsAhead [c] b → escapeBefore before b [c] = escapeAfter specialInText before [c]) ∧
      (CutsAhead [c] b → OneMore (escapeBefore before b [c]) (escapeAfter specialInText before [c])) := by
  by_cases hcolon : c = ':'
  · subst hcolon
    exact escapeBefore_marked ['/', '/'] rfl (by simp [CutsAhead, List.suffix_cons_iff]) rfl rfl rfl
  by_cases hbang : c = '!'
  · subst hbang
    exact escapeBefore_marked ['!'] rfl (by simp [CutsAhead, List.suffix_cons_iff]) rfl rfl rfl
  refine escapeBefore_cons ?_ ⟨fun _ => rfl, fun h => by simp [CutsAhead] at h⟩ ?_
  · simp [beginsSyntax, hcolon, hbang]
  · simp [CutsAhead, List.suffix_cons_iff, Ne.symm hcolon, Ne.symm hbang]

/-- What is escaped for what follows the text is one of its last two characters, and no other one. -/
theorem escapeBefore_iff (b : List Char) : ∀ (a : List Char) (before : Option Char),
    (¬ CutsAhead a b → escapeBefore before b a = escapeAfter specialInText before a) ∧
      (CutsAhead a b → OneMore (escapeBefore before b a) (escapeAfter specialInText before a))
  | [], _ => ⟨fun _ => rfl, fun h => by simp [CutsAhead] at h⟩
  | [c], before => escapeBefore_single b c before
  | [c, d], before => by
    by_cases hcolon : c = ':' ∧ d = '/'
    · obtain ⟨rfl, rfl⟩ := hcolon
      exact escapeBefore_marked ['/'] rfl (by simp [CutsAhead, List.suffix_cons_iff]) rfl rfl rfl
    · refine escapeBefore_cons ?_ (escapeBefore_single b d (some c)) ?_
      · by_cases hc : c = ':'
        · have hd : d ≠ '/' := fun hd => hcolon ⟨hc, hd⟩
          simp [beginsSyntax, hc, List.isPrefixOf, Ne.symm hd]
        · simp [beginsSyntax, hc, List.isPrefixOf]
      · have hpair : ¬ (':' = c ∧ '/' = d) := fun ⟨hc, hd⟩ => hcolon ⟨hc.symm, hd.symm⟩
        simp [CutsAhead, List.suffix_cons_iff, hpair]
  | c :: d :: e :: a, before => by
    refine escapeBefore_cons ?_ (escapeBefore_iff b (d :: e :: a) (some c)) ?_
    · simp [beginsSyntax, List.isPrefixOf]
    · simp [CutsAhead, List.suffix_cons_iff]

/-- A full stop at the front is escaped behind a digit, and nothing else is escaped for what stands before it. -/
theorem escapeAfter_some_iff (c : Char) (b : List Char) :
    (¬ (c.isDigit = true ∧ ['.'] <+: b) → escapeAfter specialInText (some c) b = escapeAfter specialInText none b) ∧
      (c.isDigit = true ∧ ['.'] <+: b →
        OneMore (escapeAfter specialInText (some c) b) (escapeAfter specialInText none b)) := by
  cases b with
  | nil => exact ⟨fun _ => rfl, fun h => by simp at h⟩
  | cons d b =>
    by_cases hd : d = '.'
    · subst hd
      have hstop : ['.'] <+: '.' :: b := ⟨b, rfl⟩
      have hnone : escapeAfter specialInText none ('.' :: b) = '.' :: escapeAfter specialInText (some '.') b := rfl
      have hbegins : beginsSyntax (some c) '.' b = c.isDigit := rfl
      rw [hnone, escapeAfter, hbegins]
      cases c.isDigit with
      | true => exact ⟨fun h => absurd ⟨rfl, hstop⟩ h, fun _ => ⟨[], _, rfl, rfl⟩⟩
      | false => exact ⟨fun _ => rfl, fun h => absurd h.1 Bool.false_ne_true⟩
    · have hbegins : beginsSyntax (some c) d b = beginsSyntax none d b := by simp [beginsSyntax, hd]
      rw [escapeAfter, escapeAfter, hbegins]
      exact ⟨fun _ => rfl, fun h => absurd (List.cons_prefix_cons.1 h.2).1 (Ne.symm hd)⟩

/-- **Two parts of a line are escaped as they are together**, or all but one backslash. -/
theorem escape_append_iff (a b : List Char) :
    (¬ CutsEscape a b → escape specialInText (a ++ b) = escape specialInText a ++ escape specialInText b) ∧
      (CutsEscape a b → OneMore (escape specialInText (a ++ b)) (escape specialInText a ++ escape specialInText b)) := by
  rcases List.eq_nil_or_concat' a with rfl | ⟨front, c, rfl⟩
  · exact ⟨fun _ => rfl, fun h => by simp [CutsEscape, CutsAhead] at h⟩
  generalize ha : front ++ [c] = a
  have hlast : a.getLast?.or none = some c := by rw [← ha, List.getLast?_concat]; rfl
  have hsuffix (d : Char) : [d] <:+ a ↔ d = c := by
    rw [← ha]
    refine ⟨fun ⟨x, hx⟩ => List.singleton_inj.1 (List.append_inj' hx rfl).2, ?_⟩
    rintro rfl
    exact List.suffix_append front [d]
  have hcuts : CutsEscape a b ↔ (c.isDigit = true ∧ ['.'] <+: b) ∨ CutsAhead a b := by simp [CutsEscape, hsuffix]
  have hstop : ['.'] <+: b → ¬ CutsAhead a b := by
    rintro ⟨rest, rfl⟩
    simp [CutsAhead]
  obtain ⟨hfront, hfront'⟩ := escapeBefore_iff b a none
  obtain ⟨hback, hback'⟩ := escapeAfter_some_iff c b
  rw [hcuts, escape, escapeAfter_parts, hlast]
  refine ⟨fun hnot => ?_, fun hcut => ?_⟩
  · rw [not_or] at hnot
    rw [hfront hnot.2, hback hnot.1]
    rfl
  · rcases hcut with hdigit | hahead
    · rw [hfront (hstop hdigit.2)]
      exact (hback' hdigit).front _
    · rw [hback fun hdigit => hstop hdigit.2 hahead]
      exact (hfront' hahead).back _

/-! ## Lines beside a seam -/

/-- The newlines at the front of a text. -/
theorem exists_startNewlines (s : List Char) : ∃ k rest, s = List.replicate k '\n' ++ rest ∧ rest.head? ≠ some '\n' := by
  induction s with
  | nil => exact ⟨0, [], rfl, nofun⟩
  | cons c s ih =>
    by_cases hc : c = '\n'
    · obtain ⟨k, rest, rfl, hrest⟩ := ih
      exact ⟨k + 1, rest, by rw [hc]; rfl, hrest⟩
    · exact ⟨0, c :: s, rfl, by simpa using hc⟩

/-- A text up to its first newlines. -/
theorem exists_firstNewlines (s : List Char) : '\n' ∉ s ∨ ∃ line more back,
    s = line ++ (List.replicate (more + 1) '\n' ++ back) ∧ '\n' ∉ line ∧ back.head? ≠ some '\n' := by
  by_cases hs : '\n' ∈ s
  · obtain ⟨line, rest, rfl, hline⟩ := List.eq_append_cons_of_mem hs
    obtain ⟨more, back, rfl, hback⟩ := exists_startNewlines rest
    exact .inr ⟨line, more, back, rfl, hline, hback⟩
  · exact .inl hs

/-- Words without newlines stand at the end of a text if they stand at the end of its last line. -/
theorem suffix_line_iff {word line front : List Char} {k : Nat} (hword : '\n' ∉ word) :
    word <:+ front ++ (List.replicate (k + 1) '\n' ++ line) ↔ word <:+ line := by
  refine ⟨fun h => ?_, fun h => ?_⟩
  · have hreverse : (front ++ (List.replicate (k + 1) '\n' ++ line)).reverse =
        line.reverse ++ '\n' :: (List.replicate k '\n' ++ front.reverse) := by
      rw [List.reverse_append, List.reverse_append, List.reverse_replicate, List.replicate_succ, List.append_assoc]
      rfl
    have hprefix := List.reverse_prefix.2 h
    rw [hreverse] at hprefix
    exact List.reverse_prefix.1 (prefix_of_prefix_append (by simpa using hword) hprefix)
  · exact h.trans ((List.suffix_append _ line).trans (List.suffix_append front _))

theorem prefix_line_iff {word line back : List Char} {k : Nat} (hword : '\n' ∉ word) :
    word <+: line ++ (List.replicate (k + 1) '\n' ++ back) ↔ word <+: line :=
  ⟨fun h => prefix_of_prefix_append hword (by simpa [List.replicate_succ] using h), fun h => h.trans (List.prefix_append _ _)⟩

theorem cutsEscape_congr {a a' b b' : List Char} (ha : ∀ word, '\n' ∉ word → (word <:+ a ↔ word <:+ a'))
    (hb : ∀ word, '\n' ∉ word → (word <+: b ↔ word <+: b')) : CutsEscape a b ↔ CutsEscape a' b' := by
  have hdigit (d : Char) : d.isDigit = true ∧ [d] <:+ a ∧ ['.'] <+: b ↔ d.isDigit = true ∧ [d] <:+ a' ∧ ['.'] <+: b' := by
    refine and_congr_right fun hd => ?_
    rw [ha [d] (by rintro (_ | ⟨_, ⟨⟩⟩); exact absurd hd (by decide)), hb ['.'] (by decide)]
  rw [CutsEscape, CutsEscape, CutsAhead, CutsAhead, exists_congr hdigit, ha [':'] (by decide), ha [':', '/'] (by decide),
    ha ['!'] (by decide), hb ['/', '/'] (by decide), hb ['/'] (by decide), hb ['!'] (by decide)]

theorem bodyText_line_append {line v : List Char} (hline : '\n' ∉ line) :
    (¬ CutsEscape line v → bodyText (line ++ v) = bodyText line ++ bodyText v) ∧
      (CutsEscape line v → OneMore (bodyText (line ++ v)) (bodyText line ++ bodyText v)) := by
  have hlines {x : List Char} (hx : '\n' ∉ x) : '\n' ∉ line ++ x := by simp [hline, hx]
  rcases exists_firstNewlines v with hv | ⟨x, more, back, rfl, hx, hback⟩
  · rw [bodyText_line (hlines hv), bodyText_line hline, bodyText_line hv]
    exact escape_append_iff line v
  · have hwhole : bodyText (line ++ (x ++ (List.replicate (more + 1) '\n' ++ back))) =
        bodyText (line ++ x) ++ (lineBreak (more + 1) ++ bodyText back) := by
      rw [← List.append_assoc]
      exact bodyText_run (getLast?_ne_of_not_mem (hlines hx)) hback (Nat.succ_ne_zero more)
    rw [hwhole, bodyText_run (getLast?_ne_of_not_mem hx) hback (Nat.succ_ne_zero more), bodyText_line (hlines hx),
      bodyText_line hline, bodyText_line hx, cutsEscape_congr (fun _ _ => Iff.rfl) fun _ => prefix_line_iff]
    obtain ⟨hsame, hcut⟩ := escape_append_iff line x
    refine ⟨fun h => by rw [hsame h, List.append_assoc], fun h => ?_⟩
    rw [← List.append_assoc (escape specialInText line)]
    exact (hcut h).back _

/-- **Two body texts that meet at no newline** come out as they are together, or all but one backslash. -/
theorem bodyText_append_iff {u v : List Char} (hu : u.getLast? ≠ some '\n') (hv : v.head? ≠ some '\n') :
    (¬ CutsEscape u v → bodyText (u ++ v) = bodyText u ++ bodyText v) ∧
      (CutsEscape u v → OneMore (bodyText (u ++ v)) (bodyText u ++ bodyText v)) := by
  rcases exists_lastNewlines u with hline | ⟨front, more, line, rfl, hfront, hline⟩
  · exact bodyText_line_append hline
  · have hhead {w : List Char} (hw : w.head? ≠ some '\n') : (line ++ w).head? ≠ some '\n' := by
      cases line with
      | nil => exact hw
      | cons c line => simpa using Ne.symm (List.ne_of_not_mem_cons hline)
    have hwhole : bodyText (front ++ (List.replicate (more + 1) '\n' ++ line) ++ v) =
        bodyText front ++ (lineBreak (more + 1) ++ bodyText (line ++ v)) := by
      rw [List.append_assoc, List.append_assoc]
      exact bodyText_run hfront (hhead hv) (Nat.succ_ne_zero more)
    have hparted := bodyText_run (w := line ++ []) hfront (hhead nofun) (Nat.succ_ne_zero more)
    rw [List.append_nil] at hparted
    rw [hwhole, hparted, cutsEscape_congr (fun _ => suffix_line_iff) fun _ _ => Iff.rfl, List.append_assoc, List.append_assoc]
    obtain ⟨hsame, hcut⟩ := bodyText_line_append (v := v) hline
    exact ⟨fun h => by rw [hsame h], fun h => ((hcut h).front _).front _⟩

/-! ## Newlines beside block boundaries -/

/-- A text without a single newline at its ends, where block boundaries are. -/
def trimmed (before after : Bool) (text : List Char) : List Char :=
  let text := if before then dropFirstNewline text else text
  if after then dropLastNewline text else text

/-- How many of `k` newlines are left, where a single one is dropped if they stand alone beside a block boundary. -/
def runLeft (alone : Bool) (k : Nat) : Nat := if alone && k = 1 then 0 else k

theorem runLeft_runLeft (p q : Bool) (k : Nat) : runLeft q (runLeft p k) = runLeft (p || q) k := by
  cases p <;> cases q <;> simp only [runLeft] <;> split <;> simp_all

theorem dropFirstNewline_of_ne {c : Char} (h : c ≠ '\n') (s : List Char) : dropFirstNewline (c :: s) = c :: s := by
  unfold dropFirstNewline
  split <;> simp_all

theorem dropFirstNewline_newline {s : List Char} (h : s.head? ≠ some '\n') : dropFirstNewline ('\n' :: s) = s := by
  cases s with
  | nil => rfl
  | cons c s =>
    have hc : c ≠ '\n' := by simpa using h
    unfold dropFirstNewline
    split <;> simp_all

theorem dropFirstNewline_run {u w : List Char} (hu : u.getLast? ≠ some '\n') (hw : w.head? ≠ some '\n') (k : Nat) :
    dropFirstNewline (u ++ (List.replicate k '\n' ++ w)) =
      dropFirstNewline u ++ (List.replicate (runLeft u.isEmpty k) '\n' ++ w) := by
  match u, k with
  | [], 0 =>
    cases w with
    | nil => rfl
    | cons c w => exact dropFirstNewline_of_ne (by simpa using hw) w
  | [], 1 => exact dropFirstNewline_newline hw
  | [], k + 2 => rfl
  | [c], k =>
    have hc : c ≠ '\n' := by simpa using hu
    rw [dropFirstNewline_of_ne hc]
    exact dropFirstNewline_of_ne hc _
  | c :: d :: u, k =>
    by_cases hc : c = '\n'
    · subst hc
      by_cases hd : d = '\n'
      · subst hd
        rfl
      · rw [dropFirstNewline_newline (by simpa using hd)]
        exact dropFirstNewline_newline (by simpa using hd)
    · rw [dropFirstNewline_of_ne hc]
      exact dropFirstNewline_of_ne hc _

theorem dropLastNewline_run {u w : List Char} (hu : u.getLast? ≠ some '\n') (hw : w.head? ≠ some '\n') (k : Nat) :
    dropLastNewline (u ++ (List.replicate k '\n' ++ w)) =
      u ++ (List.replicate (runLeft w.isEmpty k) '\n' ++ dropLastNewline w) := by
  have hreverse : (u ++ (List.replicate k '\n' ++ w)).reverse = w.reverse ++ (List.replicate k '\n' ++ u.reverse) := by simp
  have hempty : w.reverse.isEmpty = w.isEmpty := by cases w <;> simp
  rw [dropLastNewline, hreverse, dropFirstNewline_run (by simpa using hw) (by simpa using hu), hempty]
  simp [dropLastNewline]

theorem getLast?_dropFirstNewline {u : List Char} (hu : u.getLast? ≠ some '\n') :
    (dropFirstNewline u).getLast? ≠ some '\n' := by
  unfold dropFirstNewline
  split
  · exact hu
  · rename_i rest _
    cases rest with
    | nil => nofun
    | cons c rest => simpa [List.getLast?_cons] using hu
  · exact hu

theorem trimmed_run {u w : List Char} (hu : u.getLast? ≠ some '\n') (hw : w.head? ≠ some '\n') (before after : Bool)
    (k : Nat) : trimmed before after (u ++ (List.replicate k '\n' ++ w)) =
      trimmed before false u ++ (List.replicate (runLeft ((before && u.isEmpty) || (after && w.isEmpty)) k) '\n' ++
        trimmed false after w) := by
  have hnone (k : Nat) : runLeft false k = k := rfl
  have hlast := getLast?_dropFirstNewline hu
  cases before <;> cases after <;>
    simp only [trimmed, Bool.false_and, Bool.true_and, Bool.or_false, Bool.false_or, hnone, if_true, Bool.false_eq_true,
      if_false]
  · exact dropLastNewline_run hu hw k
  · exact dropFirstNewline_run hu hw k
  · rw [dropFirstNewline_run hu hw, dropLastNewline_run hlast hw, runLeft_runLeft]

/-! ## The seam -/

/-- How many newlines a text begins with. -/
def startRun (s : List Char) : Nat := (s.takeWhile (· = '\n')).length

/-- How many newlines a text ends with. -/
def endRun (s : List Char) : Nat := startRun s.reverse

/-- What the newlines at the seam of two texts are written as if the texts are written at once.  `before` and `after` say
whether a block boundary is before the first text and behind the second one. -/
def wholeBreak (before after : Bool) (a b : List Char) : List Char :=
  lineBreak (runLeft ((before && a.length = endRun a) || (after && b.length = startRun b)) (endRun a + startRun b))

/-- What they are written as if the texts are written one by one. -/
def partedBreak (before after : Bool) (a b : List Char) : List Char :=
  lineBreak (runLeft (before && a.length = endRun a) (endRun a)) ++
    lineBreak (runLeft (after && b.length = startRun b) (startRun b))

theorem startRun_run (k : Nat) {w : List Char} (hw : w.head? ≠ some '\n') : startRun (List.replicate k '\n' ++ w) = k := by
  have hnone : w.takeWhile (· = '\n') = [] := by
    cases w with
    | nil => rfl
    | cons c w => exact List.takeWhile_cons_of_neg (by simpa using hw)
  rw [startRun, List.takeWhile_append_of_pos (by simp), hnone]
  simp

theorem exists_startRun (s : List Char) : ∃ w, s = List.replicate (startRun s) '\n' ++ w ∧ w.head? ≠ some '\n' ∧
    (w.isEmpty = true ↔ s.length = startRun s) := by
  obtain ⟨k, w, rfl, hw⟩ := exists_startNewlines s
  rw [startRun_run k hw]
  exact ⟨w, rfl, hw, by simp⟩

theorem exists_endRun (s : List Char) : ∃ u, s = u ++ List.replicate (endRun s) '\n' ∧ u.getLast? ≠ some '\n' ∧
    (u.isEmpty = true ↔ s.length = endRun s) := by
  obtain ⟨w, hs, hw, hempty⟩ := exists_startRun s.reverse
  have hreverse := congrArg List.reverse hs
  rw [List.reverse_reverse, List.reverse_append, List.reverse_replicate] at hreverse
  refine ⟨w.reverse, hreverse, by rwa [List.getLast?_reverse], ?_⟩
  rw [List.length_reverse] at hempty
  rw [endRun, ← hempty, List.isEmpty_reverse]

theorem getLast?_trimmed {u : List Char} (hu : u.getLast? ≠ some '\n') (before : Bool) :
    (trimmed before false u).getLast? ≠ some '\n' := by
  cases before with
  | true => exact getLast?_dropFirstNewline hu
  | false => exact hu

theorem head?_trimmed {w : List Char} (hw : w.head? ≠ some '\n') (after : Bool) :
    (trimmed false after w).head? ≠ some '\n' := by
  cases after with
  | true =>
    have hlast := getLast?_dropFirstNewline (u := w.reverse) (by simpa using hw)
    simpa [trimmed, dropLastNewline] using hlast
  | false => exact hw

/-- Body text falls apart at newlines, and beside nothing. -/
theorem bodyText_apart {u w : List Char} (hu : u.getLast? ≠ some '\n') (hw : w.head? ≠ some '\n') {k : Nat}
    (h : k = 0 → u = [] ∨ w = []) :
    bodyText (u ++ (List.replicate k '\n' ++ w)) = bodyText u ++ (lineBreak k ++ bodyText w) := by
  by_cases hk : k = 0
  · subst hk
    have hnil : bodyText [] = [] := rfl
    rcases h rfl with rfl | rfl
    · rw [hnil]
      rfl
    · rw [hnil]
      simp [lineBreak]
  · exact bodyText_run hu hw hk

theorem bodyText_trimmed_run {u w : List Char} (hu : u.getLast? ≠ some '\n') (hw : w.head? ≠ some '\n')
    (before after : Bool) {k : Nat} (h : k = 0 → u = [] ∨ w = []) :
    bodyText (trimmed before after (u ++ (List.replicate k '\n' ++ w))) = bodyText (trimmed before false u) ++
      (lineBreak (runLeft ((before && u.isEmpty) || (after && w.isEmpty)) k) ++ bodyText (trimmed false after w)) := by
  rw [trimmed_run hu hw]
  refine bodyText_apart (getLast?_trimmed hu before) (head?_trimmed hw after) fun hleft => ?_
  have hempty : u = [] ∨ w = [] := by
    rw [runLeft] at hleft
    split at hleft
    · rename_i halone
      simp only [Bool.and_eq_true, Bool.or_eq_true, List.isEmpty_iff] at halone
      exact halone.1.imp And.right And.right
    · exact h hleft
  rcases hempty with rfl | rfl
  · exact .inl (by cases before <;> rfl)
  · exact .inr (by cases after <;> rfl)

theorem suffix_trimmed_iff {word u : List Char} (hword : '\n' ∉ word) (before : Bool) :
    word <:+ trimmed before false u ↔ word <:+ u := by
  have hdrop : word <:+ dropFirstNewline u ↔ word <:+ u := by
    unfold dropFirstNewline
    split
    · rfl
    · rename_i rest _
      rw [List.suffix_cons_iff]
      refine (or_iff_right fun he => hword ?_).symm
      rw [he]
      exact List.mem_cons_self
    · rfl
  cases before with
  | true => exact hdrop
  | false => exact Iff.rfl

theorem prefix_trimmed_iff {word w : List Char} (hword : '\n' ∉ word) (after : Bool) :
    word <+: trimmed false after w ↔ word <+: w := by
  cases after with
  | true =>
    have hreverse : (trimmed false true w).reverse = trimmed true false w.reverse := by
      simp [trimmed, dropLastNewline]
    rw [← List.reverse_suffix, hreverse, suffix_trimmed_iff (by simpa using hword), List.reverse_suffix]
  | false => exact Iff.rfl

/-- Newlines at a seam keep apart what is beside them. -/
theorem not_cutsEscape {u w : List Char} {m n : Nat} (h : m + n ≠ 0) :
    ¬ CutsEscape (u ++ List.replicate m '\n') (List.replicate n '\n' ++ w) := by
  cases m with
  | succ m =>
    have hlast (word : List Char) (hword : word ≠ []) (hline : '\n' ∉ word) :
        ¬ word <:+ u ++ List.replicate (m + 1) '\n' := by
      rintro ⟨x, hx⟩
      obtain ⟨front, c, rfl⟩ := List.eq_nil_or_concat' word |>.resolve_left hword
      rw [List.replicate_succ', ← List.append_assoc, ← List.append_assoc] at hx
      have hc : c = '\n' := List.singleton_inj.1 (List.append_inj' hx rfl).2
      exact hline (by simp [hc])
    rintro (⟨d, hd, hsuffix, -⟩ | ⟨hsuffix, -⟩ | ⟨hsuffix, -⟩ | ⟨hsuffix, -⟩)
    · refine hlast [d] (List.cons_ne_nil _ _) ?_ hsuffix
      rintro (_ | ⟨_, ⟨⟩⟩)
      exact absurd hd (by decide)
    · exact hlast _ (by decide) (by decide) hsuffix
    · exact hlast _ (by decide) (by decide) hsuffix
    · exact hlast _ (by decide) (by decide) hsuffix
  | zero =>
    obtain ⟨n, rfl⟩ : ∃ k, n = k + 1 := Nat.exists_eq_succ_of_ne_zero (by omega)
    rw [List.replicate_succ, List.cons_append]
    rintro (⟨d, -, -, hprefix⟩ | ⟨-, hprefix⟩ | ⟨-, hprefix⟩ | ⟨-, hprefix⟩)
    all_goals exact absurd (List.cons_prefix_cons.1 hprefix).1 (by decide)

/-- **A body text in two parts** differs from the whole by one backslash where an escape is cut, and else in what the
newlines at the seam are written as. -/
theorem bodyText_parts (before after : Bool) (a b : List Char) :
    let whole := bodyText (trimmed before after (a ++ b))
    let parted := bodyText (trimmed before false a) ++ bodyText (trimmed false after b)
    (CutsEscape a b ∧ OneMore whole parted) ∨
      (¬ CutsEscape a b ∧ ∃ front back, whole = front ++ (wholeBreak before after a b ++ back) ∧
        parted = front ++ (partedBreak before after a b ++ back)) := by
  obtain ⟨u, ha, hu, huEmpty⟩ := exists_endRun a
  obtain ⟨w, hb, hw, hwEmpty⟩ := exists_startRun b
  have hfront : (before && decide (a.length = endRun a)) = (before && u.isEmpty) := by
    rw [Bool.eq_iff_iff]
    simp [huEmpty, -List.isEmpty_iff]
  have hback : (after && decide (b.length = startRun b)) = (after && w.isEmpty) := by
    rw [Bool.eq_iff_iff]
    simp [hwEmpty, -List.isEmpty_iff]
  rw [wholeBreak, partedBreak, hfront, hback]
  generalize endRun a = m at *
  generalize startRun b = n at *
  clear hfront hback huEmpty hwEmpty
  subst ha hb
  have hnil : trimmed false false [] = [] ∧ bodyText [] = [] := ⟨rfl, rfl⟩
  have hfirst := bodyText_trimmed_run hu (w := []) nofun before false (k := m) fun _ => .inr rfl
  have hsecond := bodyText_trimmed_run (u := []) nofun hw false after (k := n) fun _ => .inl rfl
  simp only [hnil, Bool.false_and, Bool.or_false, Bool.false_or, List.append_nil, List.nil_append] at hfirst hsecond
  rw [hfirst, hsecond]
  by_cases hrun : m + n = 0
  · obtain ⟨rfl, rfl⟩ : m = 0 ∧ n = 0 := by omega
    have hbreak (alone : Bool) : lineBreak (runLeft alone 0) = [] := by cases alone <;> rfl
    have hplain (alone : Bool) : List.replicate (runLeft alone 0) '\n' = [] := by cases alone <;> rfl
    have hwhole := trimmed_run hu hw before after 0
    have hcuts : CutsEscape (trimmed before false u) (trimmed false after w) ↔ CutsEscape u w :=
      cutsEscape_congr (fun _ h => suffix_trimmed_iff h before) fun _ h => prefix_trimmed_iff h after
    obtain ⟨hsame, hcut⟩ := bodyText_append_iff (getLast?_trimmed hu before) (head?_trimmed hw after)
    rw [hcuts] at hsame hcut
    simp only [hplain, hbreak, List.replicate_zero, List.append_nil, List.nil_append] at hwhole ⊢
    rw [hwhole]
    by_cases hescape : CutsEscape u w
    · exact .inl ⟨hescape, hcut hescape⟩
    · exact .inr ⟨hescape, _, _, hsame hescape, rfl⟩
  · have hwhole := bodyText_trimmed_run hu hw before after (k := m + n) fun hzero => absurd hzero hrun
    rw [List.replicate_add, List.append_assoc] at hwhole
    rw [List.append_assoc, hwhole]
    refine .inr ⟨not_cutsEscape hrun, bodyText (trimmed before false u), bodyText (trimmed false after w), rfl, ?_⟩
    simp only [List.append_assoc]

end BlogMarkdown.Markdown
