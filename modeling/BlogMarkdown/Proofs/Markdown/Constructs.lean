import BlogMarkdown.Proofs.Markdown.Endings
import BlogMarkdown.Proofs.Text.Words
/-!
# Where code and formulas end

Code, fenced code and formulas are written as they are, between two copies of a delimiter.  A reader finds the end of
such a construct at the first copy behind the opening one.  Code is written this way only if its delimiter is not in it,
and fenced code begins and ends its lines beside the fences, so their ends are found where they were written.  The
contents of a formula are not looked at: its end is missed exactly if they hold two dollars in a row, or end in a dollar.
-/
namespace BlogMarkdown.Markdown

open Dom Text

variable {σ : Type}

/-! ## Constructs -/

/-- What stands between two copies of a delimiter without being escaped, with its source. -/
inductive Construct where
  | code (source : List Char)
  | fenced (source : List Char)
  | formula (source : List Char)
  deriving DecidableEq, Repr

namespace Construct

/-- What opens a construct and closes it. -/
def delimiter : Construct → List Char
  | code _ => ['\x60']
  | fenced _ => codeFence
  | formula _ => ['$', '$']

/-- A text that ends its last line. -/
def endLine (text : List Char) : List Char := if text.getLast? = some '\n' then text else text ++ ['\n']

/-- What stands between the delimiters, before it is laid out. -/
def content : Construct → List Char
  | code source => source
  | fenced source => endLine ('\n' :: expandTabs 8 source)
  | formula source => if source.head? = some '[' then ' ' :: source else source

/-- A formula has the delimiter in its source, or has it there with one more dollar behind. -/
def Spills : Construct → Prop
  | formula source => ['$', '$'] <:+: source ++ ['$']
  | _ => False

/-- Wherever a construct stands and whatever follows it, its end is found where it was written, unless it spills. -/
def Delimits (c : Construct) : Prop :=
  ∀ body after, Laid c.content body →
    (splitAtWord? c.delimiter (body ++ c.delimiter ++ after) = some (body, after) ↔ ¬ c.Spills)

/-- What delimiters are made of. -/
def marks : List Char := ['\x60', '$']

theorem mem_marks_of_mem_delimiter (c : Construct) : ∀ x ∈ c.delimiter, x ∈ marks := by
  have hcode : ∀ x ∈ ['\x60'], x ∈ marks := by simp [marks]
  have hfenced : ∀ x ∈ codeFence, x ∈ marks := by simp [codeFence, marks]
  have hformula : ∀ x ∈ ['$', '$'], x ∈ marks := by simp [marks]
  cases c with
  | code => exact hcode
  | fenced => exact hfenced
  | formula => exact hformula

theorem delimiter_ne_nil (c : Construct) : c.delimiter ≠ [] := by cases c <;> exact List.cons_ne_nil _ _

theorem not_mem_marks_of_isBreak {x : Char} (h : IsBreak x) : x ∉ marks := by rcases h with rfl | rfl <;> decide

theorem not_mem_marks_of_isIndent {x : Char} (h : IsIndent x) : x ∉ marks := by rcases h with rfl | rfl <;> decide

theorem not_isBreak_of_mem_delimiter {c : Construct} {x : Char} (h : x ∈ c.delimiter) : ¬ IsBreak x :=
  fun hbreak => not_mem_marks_of_isBreak hbreak (c.mem_marks_of_mem_delimiter x h)

/-! ## Where the delimiter stands -/

/-- The layout neither has marks nor takes any away. -/
theorem spaced_of_laid : ∀ {s t : List Char}, Laid s t → Spaced marks s t
  | _, _, .nil => .nil
  | _, _, .char c h => .char c (spaced_of_laid h)
  | _, _, .line hc hd hi h => by
    refine .space (not_mem_marks_of_isBreak hc) ?_ (fun x hx => not_mem_marks_of_isIndent (hi x hx)) (spaced_of_laid h)
    rcases hd with rfl | rfl
    · exact not_mem_marks_of_isBreak hc
    · decide

theorem spaced_expandTabsFrom {size : Nat} (hsize : 0 < size) : ∀ (s : List Char) (column : Nat),
    Spaced marks s (expandTabsFrom size column s)
  | [], _ => .nil
  | c :: s, column => by
    rw [expandTabsFrom]
    split
    · rename_i htab
      subst htab
      obtain ⟨n, hn⟩ : ∃ n, size - column % size = n + 1 :=
        Nat.exists_eq_succ_of_ne_zero (Nat.sub_ne_zero_of_lt (Nat.mod_lt column hsize))
      dsimp only
      rw [hn, List.replicate_succ, List.cons_append]
      refine .space (by decide) (by decide) (fun x hx => ?_) (spaced_expandTabsFrom hsize s _)
      rw [List.eq_of_mem_replicate hx]
      decide
    · split
      · exact .char c (spaced_expandTabsFrom hsize s 0)
      · exact .char c (spaced_expandTabsFrom hsize s (column + 1))

/-- The end of a construct is found where it was written exactly if its contents do not close it. -/
theorem splitAtWord?_iff {c : Construct} {body : List Char} (h : Laid c.content body) (after : List Char) :
    splitAtWord? c.delimiter (body ++ c.delimiter ++ after) = some (body, after) ↔
      ¬ c.delimiter <:+: c.content ++ c.delimiter.dropLast := by
  rw [splitAtWord?_append_iff c.delimiter_ne_nil]
  have hspaced := spaced_of_laid (h.append (.refl c.delimiter.dropLast))
  rw [hspaced.infix_iff c.mem_marks_of_mem_delimiter c.delimiter_ne_nil]

theorem delimits_of_iff {c : Construct} (h : c.delimiter <:+: c.content ++ c.delimiter.dropLast ↔ c.Spills) :
    c.Delimits := fun _ after hlaid => (splitAtWord?_iff hlaid after).trans (not_congr h)

theorem delimits_code {source : List Char} (h : source.contains '\x60' = false) : (code source).Delimits := by
  refine delimits_of_iff (iff_of_false (fun hinfix => ?_) id)
  have hmem : '\x60' ∈ source ++ [] := hinfix.subset (List.mem_singleton_self _)
  rw [List.append_nil, ← List.contains_iff_mem, h] at hmem
  cases hmem

theorem infix_of_containsWord {word s : List Char} (h : containsWord word s = false) : ¬ word <:+: s := by
  rintro ⟨u, v, huv⟩
  rw [containsWord, Option.isSome_eq_false_iff, Option.isNone_iff_eq_none] at h
  exact splitAtWord?_eq_none h u v huv.symm

theorem exists_endLine (text : List Char) : ∃ front, endLine ('\n' :: text) = front ++ ['\n'] ∧ front <+: '\n' :: text := by
  rw [endLine]
  split
  · rename_i hlast
    obtain ⟨front, hfront⟩ := List.getLast?_eq_some_iff.1 hlast
    exact ⟨front, hfront, hfront ▸ List.prefix_append front ['\n']⟩
  · exact ⟨'\n' :: text, rfl, List.prefix_rfl⟩

/-- The fences stand on lines of their own, so nothing beside them can lengthen them. -/
theorem delimits_fenced {source : List Char} (h : containsWord codeFence source = false) : (fenced source).Delimits := by
  refine delimits_of_iff (iff_of_false (fun hinfix => ?_) id)
  have hnewline : '\n' ∉ codeFence := by decide
  obtain ⟨front, hcontent, hfront⟩ := exists_endLine (expandTabs 8 source)
  have hsplit : codeFence <:+: front ++ '\n' :: codeFence.dropLast := by
    have hsame : front ++ '\n' :: codeFence.dropLast = (fenced source).content ++ (fenced source).delimiter.dropLast := by
      rw [content, hcontent, List.append_assoc]
      rfl
    rwa [hsame]
  rcases infix_append_cons hnewline hsplit with hinfix | hinfix
  · have hline : codeFence <:+: [] ++ '\n' :: expandTabs 8 source := hinfix.trans hfront.isInfix
    rcases infix_append_cons hnewline hline with hnil | hsource
    · exact absurd (List.infix_nil.1 hnil) (by decide)
    · have hspaced : Spaced marks source (expandTabs 8 source) := spaced_expandTabsFrom (by decide) source 0
      have hmarks := (fenced source).mem_marks_of_mem_delimiter
      exact infix_of_containsWord h ((hspaced.infix_iff hmarks (fenced source).delimiter_ne_nil).1 hsource)
  · exact absurd hinfix.length_le (by decide)

theorem delimits_formula (source : List Char) : (formula source).Delimits := by
  refine delimits_of_iff ?_
  rw [Spills, content]
  split
  · have hblank : ∀ x ∈ [' '], x ∉ marks := by simp [marks]
    exact Spaced.infix_append (mem_marks_of_mem_delimiter _) (delimiter_ne_nil _) hblank (source ++ ['$'])
  · rfl

end Construct

/-! ## Texts with constructs in them -/

/-- Some constructs stand in a text one behind the other, each laid out between its two delimiters, and each one has its
end found where it was written unless it spills. -/
inductive Contains : List Construct → List Char → Prop
  | nil (s : List Char) : Contains [] s
  | cons {c : Construct} {cs : List Construct} {body after : List Char} (before : List Char) : c.Delimits →
    Laid c.content body → Contains cs after →
    Contains (c :: cs) (before ++ (c.delimiter ++ (body ++ (c.delimiter ++ after))))

namespace Contains

variable {cs ds : List Construct} {s t blanks : List Char}

theorem behind (s : List Char) (h : Contains cs t) : Contains cs (s ++ t) := by
  cases h with
  | nil => exact .nil _
  | cons before hc hl h =>
    rw [← List.append_assoc]
    exact .cons _ hc hl h

theorem append (h : Contains cs s) (h' : Contains ds t) : Contains (cs ++ ds) (s ++ t) := by
  induction h with
  | nil s => exact h'.behind s
  | cons before hc hl _ ih =>
    simp only [List.append_assoc]
    exact .cons before hc hl ih

theorem before (h : Contains cs s) (t : List Char) : Contains cs (s ++ t) := by
  have happend := h.append (.nil t)
  rwa [List.append_nil] at happend

theorem single {c : Construct} (h : c.Delimits) {body : List Char} (hl : Laid c.content body) :
    Contains [c] (c.delimiter ++ (body ++ c.delimiter)) := by
  have hsingle := cons [] h hl (.nil [])
  rwa [List.nil_append, List.append_nil] at hsingle

theorem laid (h : Contains cs s) (hl : Laid s t) : Contains cs t := by
  induction h generalizing t with
  | nil => exact .nil t
  | @cons c _ _ _ before hc hbody _ ih =>
    have hunbroken : ∀ x ∈ c.delimiter, ¬ IsBreak x := fun _ => Construct.not_isBreak_of_mem_delimiter
    obtain ⟨front, u, rfl, -, hopen⟩ := hl.of_append
    obtain ⟨v, rfl, hinside⟩ := Laid.of_unbroken hunbroken hopen
    obtain ⟨inner, w, rfl, hinner, hclose⟩ := hinside.of_append
    obtain ⟨rest, rfl, hrest⟩ := Laid.of_unbroken hunbroken hclose
    exact .cons front hc (hbody.trans hinner) (ih hrest)

/-- What is not of a delimiter may be taken away at the front. -/
theorem of_append_left (hblanks : ∀ x ∈ blanks, x ∉ Construct.marks) (h : Contains cs (blanks ++ s)) :
    Contains cs s := by
  generalize htext : blanks ++ s = text at h
  cases h with
  | nil => exact .nil s
  | @cons c _ _ _ before hc hbody h =>
    rcases List.append_eq_append_iff.1 htext with ⟨x, rfl, rfl⟩ | ⟨x, rfl, hx⟩
    · exact .cons x hc hbody h
    · obtain ⟨d, rest, hd⟩ := List.exists_cons_of_ne_nil c.delimiter_ne_nil
      have hmark : d ∈ Construct.marks := c.mem_marks_of_mem_delimiter d (hd ▸ List.mem_cons_self)
      cases x with
      | nil =>
        rw [List.nil_append] at hx
        exact hx ▸ Contains.cons [] hc hbody h
      | cons e x =>
        rw [hd, List.cons_append, List.cons_append] at hx
        obtain ⟨rfl, -⟩ := List.cons.inj hx
        exact absurd hmark (hblanks d (by simp))

/-- What is not of a delimiter may be taken away at the end. -/
theorem of_append_right (hblanks : ∀ x ∈ blanks, x ∉ Construct.marks) (h : Contains cs (s ++ blanks)) :
    Contains cs s := by
  generalize htext : s ++ blanks = text at h
  induction h generalizing s with
  | nil => exact .nil s
  | @cons c cs body after before hc hbody _ ih =>
    have hwhole : s ++ blanks = before ++ (c.delimiter ++ (body ++ c.delimiter)) ++ after := by
      simp only [htext, List.append_assoc]
    rcases List.append_eq_append_iff.1 hwhole with ⟨x, hx, rfl⟩ | ⟨x, rfl, rfl⟩
    · -- the closing delimiter is the end of what stands there, so nothing of it is taken away
      obtain ⟨front, d, hd⟩ := List.eq_nil_or_concat' c.delimiter |>.resolve_left c.delimiter_ne_nil
      have hmark : d ∈ Construct.marks := c.mem_marks_of_mem_delimiter d (hd ▸ by simp)
      rcases List.eq_nil_or_concat' x with rfl | ⟨x, e, rfl⟩
      · rw [List.append_nil] at hx
        have hall := cons before hc hbody (ih (s := []) rfl)
        rw [List.append_nil, hx] at hall
        exact hall
      · have hend : before ++ (c.delimiter ++ (body ++ front)) ++ [d] = s ++ x ++ [e] := by
          rw [List.append_assoc s, ← hx]
          simp only [hd, List.append_assoc]
        obtain ⟨-, hde⟩ := List.append_inj' hend rfl
        exact absurd (List.singleton_inj.1 hde ▸ hmark) (hblanks e (by simp))
    · have hrest := cons before hc hbody (ih rfl)
      simpa only [List.append_assoc] using hrest

theorem arrives (h : Contains cs s) (ha : Arrives s t) : Contains cs t := by
  obtain ⟨newlines, rest, gap, laid, rfl, rfl, hn, -, hl⟩ := ha
  have hrest := h.of_append_left fun x hx => Construct.not_mem_marks_of_isBreak (.inl (hn x hx))
  exact (hrest.laid hl).behind gap

theorem dropEndWhile {p : Char → Bool} (hp : ∀ x, p x = true → x ∉ Construct.marks) (h : Contains cs s) :
    Contains cs (dropEndWhile p s) := by
  have hs : s = Text.dropEndWhile p s ++ (s.reverse.takeWhile p).reverse := by
    rw [Text.dropEndWhile, ← List.reverse_append, List.takeWhile_append_dropWhile, List.reverse_reverse]
  rw [hs] at h
  exact h.of_append_right fun x hx => hp x (List.mem_takeWhile_imp (List.mem_reverse.1 hx))

theorem trimBlank (h : Contains cs s) : Contains cs (trimBlank s) := by
  have hblank : ∀ x, isBlank x = true → x ∉ Construct.marks := by
    intro x hx hmem
    have hmarks : ∀ x ∈ Construct.marks, isBlank x = false := by simp [Construct.marks, isBlank]
    rw [hmarks x hmem] at hx
    cases hx
  rw [← List.takeWhile_append_dropWhile (p := isBlank) (l := s)] at h
  have hfront := h.of_append_left fun x hx => hblank x (List.mem_takeWhile_imp hx)
  exact hfront.dropEndWhile hblank

theorem finish {w : Writer} {text : List Char} (h : Contains cs s) (hs : w.Spells s) (hok : w.finish = .ok text) :
    Contains cs text := by
  have hlines := h.dropEndWhile (p := (· = '\n')) fun x hx => Construct.not_mem_marks_of_isBreak (.inl (by simpa using hx))
  rw [hs.finish_eq] at hok
  obtain rfl := Except.ok.inj hok
  dsimp only
  split
  · rename_i hempty
    rwa [List.isEmpty_iff.1 hempty] at hlines
  · exact hlines.before ['\n']

/-- Each construct has the earlier ones before it and the later ones behind it. -/
theorem split {c : Construct} {later : List Construct} : ∀ {earlier : List Construct} {s : List Char},
    Contains (earlier ++ c :: later) s → ∃ before body after, s = before ++ (c.delimiter ++ (body ++ (c.delimiter ++ after))) ∧
      c.Delimits ∧ Laid c.content body ∧ Contains earlier before ∧ Contains later after
  | [], _, .cons before hc hl h => ⟨before, _, _, rfl, hc, hl, .nil before, h⟩
  | d :: earlier, _, .cons before hd hl h => by
    obtain ⟨between, body, after, rfl, hc, hbody, hearlier, hlater⟩ := h.split
    refine ⟨before ++ (d.delimiter ++ (_ ++ (d.delimiter ++ between))), body, after, ?_, hc, hbody,
      .cons before hd hl hearlier, hlater⟩
    simp only [List.append_assoc]

end Contains

/-! ## Fenced code -/

namespace Writer

variable {w : Writer}

/-- What is due comes out before the first character that is no newline. -/
theorem write_flushLinefeeds {c : Char} (hc : c ≠ '\n') (s : List Char) (w : Writer) :
    w.flushLinefeeds.write (c :: s) = w.write (c :: s) := by
  have hflush : w.flushLinefeeds.flushLinefeeds = w.flushLinefeeds := flushLinefeeds_of_none rfl
  rw [show c :: s = [c] ++ s from rfl, write_append, write_append, write_char hc, write_char hc, writeContent,
    writeContent, hflush, Utf8.isEmpty_encode, if_neg Bool.false_ne_true, if_neg Bool.false_ne_true]

/-- A linefeed that is requested comes out where the output does not end with one. -/
theorem flushLinefeeds_one (hverbatim : w.verbatim = 0) (hrequested : w.requested = 0) {n : Nat}
    (hrun : w.run = .count n) : (w.ensureLinefeeds 1).flushLinefeeds = w.write (if n = 0 then ['\n'] else []) := by
  obtain ⟨out, verbatim, run, requested, indents⟩ := w
  dsimp only at hverbatim hrequested hrun
  subst hverbatim hrequested hrun
  cases n with
  | zero => rw [if_pos rfl, write_newline]; rfl
  | succ n =>
    have hmissing : (LinefeedRun.count (n + 1)).missing 1 = 0 := by rw [LinefeedRun.missing]; omega
    rw [if_neg (Nat.succ_ne_zero n), ensureLinefeeds, if_pos rfl, flushLinefeeds]
    dsimp only
    rw [show max 0 1 = 1 from rfl, hmissing]
    rfl

/-- Behind a newline, the output ends with linefeeds unless something else is written last. -/
theorem run_write {n : Nat} (hrun : w.run = .count (n + 1)) (hrequested : w.requested = 0) (s : List Char) :
    ∃ k, (w.write s).run = .count k ∧ (k = 0 ↔ ('\n' :: s).getLast? ≠ some '\n') := by
  rcases List.eq_nil_or_concat' s with rfl | ⟨s, c, rfl⟩
  · exact ⟨n + 1, hrun, by simp⟩
  · have hlast : ('\n' :: (s ++ [c])).getLast? = some c := by rw [← List.cons_append, List.getLast?_concat]
    rw [hlast]
    by_cases hc : c = '\n'
    · subst hc
      obtain ⟨⟨k, hk⟩, -⟩ := write_counted ⟨n + 1, hrun⟩ (by omega) s
      rw [write_concat_newline]
      exact ⟨k + 1, by rw [writeLinefeed, hk, LinefeedRun.succ], by simp⟩
    · exact ⟨0, (w.write_concat hc s).1, by simpa using hc⟩

/-- Code that begins behind a line comes out laid out, and ends its last line before what is written next. -/
theorem Spells.write_lines {text : List Char} (h : w.Spells text) (hverbatim : w.verbatim = 0) (hrun : w.run = .count 0)
    (hrequested : w.requested = 0) (code : List Char) :
    ∃ body, Laid (Construct.endLine ('\n' :: code)) body ∧
      (((((w.write ['\n']).enterVerbatim.write code).leaveVerbatim).ensureLinefeeds 1).write codeFence).Spells
        (text ++ (body ++ codeFence)) := by
  obtain ⟨hnone, line, hline, hs⟩ := h.write_laid (s := ['\n']) hrequested
  have hmode : (w.write ['\n']).verbatim = 0 := (later_write ['\n'] w).verbatim.trans hverbatim
  have hinside : (w.write ['\n']).run = .count 1 := by
    rw [write_newline, Writer.writeLinefeed, hrun]
    rfl
  obtain ⟨k, hk, hlast⟩ := run_write (w := (w.write ['\n']).enterVerbatim) hinside hnone code
  generalize w.write ['\n'] = inside at *
  have hbehind := (later_writeVerbatim code inside).verbatim.trans hmode
  obtain ⟨hnone, inner, hinner, hs⟩ := hs.enterVerbatim.write_laid (s := code) hnone
  let tail := if k = 0 then ['\n'] else []
  -- the last line is ended by a linefeed that is requested, or already by the code
  have hcontent : Construct.endLine ('\n' :: code) = ['\n'] ++ code ++ tail := by
    rw [Construct.endLine]
    split
    · rename_i hnewline
      have hpos : k ≠ 0 := fun hzero => hlast.1 hzero hnewline
      rw [show tail = [] from if_neg hpos, List.append_nil]
      rfl
    · rename_i hnewline
      rw [show tail = ['\n'] from if_pos (hlast.2 hnewline)]
      rfl
  obtain ⟨hnone', last, hlast, hs⟩ := hs.leaveVerbatim.write_laid (s := tail) hnone
  obtain ⟨-, fence, hfence, hs⟩ := hs.write_laid (s := codeFence) hnone'
  obtain ⟨_, rfl, hend⟩ := Laid.of_unbroken (s := codeFence) (t := []) (by simp [codeFence, IsBreak]) hfence
  cases hend
  refine ⟨line ++ inner ++ last, hcontent ▸ (hline.append hinner).append hlast, ?_⟩
  have hclose : (inside.enterVerbatim.write code).leaveVerbatim.write tail =
      ((inside.enterVerbatim.write code).leaveVerbatim.ensureLinefeeds 1).flushLinefeeds :=
    (flushLinefeeds_one hbehind hnone hk).symm
  rw [hclose, show codeFence = '\x60' :: ['\x60', '\x60'] from rfl, write_flushLinefeeds (by decide)] at hs
  rw [show codeFence = '\x60' :: ['\x60', '\x60'] from rfl]
  simpa only [List.append_assoc, List.append_nil] using hs

/-- Fenced code comes out between its fences. -/
theorem Spells.renderFenced {text : List Char} (h : w.Spells text) (hverbatim : w.verbatim = 0) (source : List Char)
    (urls : σ) : ∃ gap body, Laid (Construct.fenced source).content body ∧
      ((Markdown.renderFenced source).on ⟨w, urls⟩).2.writer.Spells
        (text ++ (gap ++ (codeFence ++ (body ++ codeFence)))) := by
  obtain ⟨_, hs, harrives⟩ := (h.ensureLinefeeds 2).write_arrives codeFence
  obtain ⟨gap, fence, rfl, -, hfence⟩ := harrives.of_ne (by decide)
  obtain ⟨_, rfl, hend⟩ := Laid.of_unbroken (s := codeFence) (t := []) (by simp [codeFence, IsBreak]) hfence
  cases hend
  have hopened := (w.ensureLinefeeds 2).write_concat (c := '\x60') (by decide) ['\x60', '\x60']
  have hmode : ((w.ensureLinefeeds 2).write codeFence).verbatim = 0 := by
    rw [(later_write codeFence _).verbatim, (later_ensureLinefeeds 2 w).verbatim, hverbatim]
  obtain ⟨body, hbody, hs⟩ := hs.write_lines hmode hopened.1 hopened.2 (expandTabs 8 source)
  refine ⟨gap, body, hbody, ?_⟩
  simp only [List.append_assoc, List.append_nil] at hs
  exact hs.ensureLinefeeds 2

end Writer

end BlogMarkdown.Markdown
