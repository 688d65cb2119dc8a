import BlogMarkdown.Proofs.Shortcode.Lexing
import BlogMarkdown.Shortcode.Rewrite
import Mathlib.Data.List.TakeDrop
/-!
# Reading a text

A text is read once from left to right: each character stands for itself, unless a tag or an escape begins there, and
the reading goes on right behind it.  Every part of the text belongs to exactly one mark (`marks_source`).  Scanning up
to the first tag, cutting it out and scanning what is left comes to the same pieces (`pieces_cuts`).
-/
namespace BlogMarkdown.Shortcode

/-- What one part of a text is. -/
inductive Mark where
  | char (c : Char)
  /-- An escape, which drops one bracket on each side of `literal`. -/
  | escape (literal : List Char)
  | tag (t : Tag)
  deriving DecidableEq

namespace Mark

def source : Mark → List Char
  | .char c => [c]
  | .escape literal => '[' :: literal ++ [']']
  | .tag t => '[' :: t.source

/-- What is left of it as text. -/
def text : Mark → List Char
  | .char c => [c]
  | .escape literal => literal
  | .tag _ => []

def tag? : Mark → Option Tag
  | .tag t => some t
  | _ => none

end Mark

variable {registry : Registry}

/-- The marks of a text whose first `skip` characters belong to a mark before. -/
def marksFrom (registry : Registry) : Nat → List Char → List Mark
  | _, [] => []
  | skip + 1, _ :: rest => marksFrom registry skip rest
  | 0, c :: rest =>
    if c ≠ '[' then .char c :: marksFrom registry 0 rest
    else match lex registry rest with
      | none => .char c :: marksFrom registry 0 rest
      | some (.escape source literal) => .escape literal :: marksFrom registry source.length rest
      | some (.tag tag) => .tag tag :: marksFrom registry tag.source.length rest

def marks (registry : Registry) (text : List Char) : List Mark := marksFrom registry 0 text

/-! ## A tag is the beginning of the text it is lexed from -/

theorem lex_escape_eq {text source literal : List Char} (h : lex registry text = some (.escape source literal)) :
    literal ≠ [] ∧ source = literal ++ [']'] ∧ ∃ after, text = source ++ after := by
  unfold lex at h
  split at h
  · obtain ⟨slash, name, rest, block, rfl, -, -, -, -, -, hl⟩ := lexEscape_eq_some_iff.1 h
    cases hl
    exact ⟨by simp, by simp, rest, by simp⟩
  · rcases lexClosing_eq_some_iff.1 h with ⟨name, rest, -, -, -, -, hl⟩ | ⟨name, between, rest, -, -, -, -, hl⟩
    · cases hl
    · cases hl
  · obtain ⟨name, between, rest, block, -, -, -, -, hl⟩ := lexOpening_eq_some_iff.1 h
    cases hl

/-- **A tag opens or closes**, and it is what the text begins with. -/
theorem lex_tag_eq {text : List Char} {g : Tag} (h : lex registry text = some (.tag g)) :
    (g.opens = true ∨ g.closes = true) ∧ ∃ after, text = g.source ++ after := by
  unfold lex at h
  split at h
  · obtain ⟨slash, name, rest, block, -, -, -, -, -, -, hl⟩ := lexEscape_eq_some_iff.1 h
    cases hl
  · rcases lexClosing_eq_some_iff.1 h with ⟨name, rest, rfl, -, -, -, hl⟩ | ⟨name, between, rest, rfl, -, -, -, hl⟩
    · cases hl
      exact ⟨.inr rfl, rest, by simp⟩
    · cases hl
      exact ⟨.inr rfl, rest, by simp⟩
  · obtain ⟨name, between, rest, block, rfl, -, -, -, hl⟩ := lexOpening_eq_some_iff.1 h
    cases hl
    exact ⟨.inl rfl, rest, by simp⟩

/-- **A tag has a known name.** -/
theorem isBlock?_of_lex {text : List Char} {g : Tag} (h : lex registry text = some (.tag g)) :
    (registry.isBlock? (String.ofList g.name)).isSome := by
  unfold lex at h
  split at h
  · obtain ⟨slash, name, rest, block, -, -, -, -, -, -, hl⟩ := lexEscape_eq_some_iff.1 h
    cases hl
  · rcases lexClosing_eq_some_iff.1 h with
      ⟨name, rest, -, -, -, hblock, hl⟩ | ⟨name, between, rest, -, -, -, hblock, hl⟩
    · cases hl
      exact Option.isSome_of_eq_some hblock
    · cases hl
      exact Option.isSome_of_eq_some hblock
  · obtain ⟨name, between, rest, block, -, -, -, hblock, hl⟩ := lexOpening_eq_some_iff.1 h
    cases hl
    exact Option.isSome_of_eq_some hblock

theorem isBlock?_of_mem_marksFrom {g : Tag} : ∀ (skip : Nat) (text : List Char),
    .tag g ∈ marksFrom registry skip text → (registry.isBlock? (String.ofList g.name)).isSome
  | _, [], h => by
    rw [marksFrom] at h
    cases h
  | skip + 1, _ :: rest, h => isBlock?_of_mem_marksFrom skip rest h
  | 0, c :: rest, h => by
    rw [marksFrom] at h
    split at h
    · exact isBlock?_of_mem_marksFrom 0 rest ((List.mem_cons.1 h).resolve_left nofun)
    split at h
    · exact isBlock?_of_mem_marksFrom 0 rest ((List.mem_cons.1 h).resolve_left nofun)
    · exact isBlock?_of_mem_marksFrom _ rest ((List.mem_cons.1 h).resolve_left nofun)
    · rename_i hlex
      rcases List.mem_cons.1 h with heq | h
      · cases heq
        exact isBlock?_of_lex hlex
      · exact isBlock?_of_mem_marksFrom _ rest h

/-- **What is no tag leaves some text.** -/
theorem text_ne_nil_of_mem_marksFrom {m : Mark} (hm : m.tag? = none) : ∀ (skip : Nat) (text : List Char),
    m ∈ marksFrom registry skip text → m.text ≠ []
  | _, [], h => by
    rw [marksFrom] at h
    cases h
  | skip + 1, _ :: rest, h => text_ne_nil_of_mem_marksFrom hm skip rest h
  | 0, c :: rest, h => by
    rw [marksFrom] at h
    split at h
    · rcases List.mem_cons.1 h with rfl | h
      · exact List.cons_ne_nil c []
      · exact text_ne_nil_of_mem_marksFrom hm 0 rest h
    split at h
    · rcases List.mem_cons.1 h with rfl | h
      · exact List.cons_ne_nil c []
      · exact text_ne_nil_of_mem_marksFrom hm 0 rest h
    · rename_i hlex
      rcases List.mem_cons.1 h with rfl | h
      · exact (lex_escape_eq hlex).1
      · exact text_ne_nil_of_mem_marksFrom hm _ rest h
    · rcases List.mem_cons.1 h with rfl | h
      · cases hm
      · exact text_ne_nil_of_mem_marksFrom hm _ rest h

/-! ## Every part of a text belongs to one mark -/

theorem marksFrom_eq : ∀ (skip : Nat) (text : List Char), marksFrom registry skip text = marks registry (text.drop skip)
  | 0, _ => rfl
  | _ + 1, [] => by rw [List.drop_nil, marks, marksFrom, marksFrom]
  | skip + 1, _ :: rest => by rw [marksFrom, marksFrom_eq skip rest, List.drop_succ_cons]

/-- A character where nothing begins is a mark by itself. -/
theorem marks_cons_char {c : Char} {rest : List Char} (h : c = '[' → lex registry rest = none) :
    marks registry (c :: rest) = .char c :: marks registry rest := by
  rw [marks, marksFrom]
  by_cases hc : c = '['
  · rw [if_neg (not_not_intro hc), h hc]
    rfl
  · rw [if_pos hc]
    rfl

theorem marks_cons_escape {rest source literal : List Char} (h : lex registry rest = some (.escape source literal)) :
    marks registry ('[' :: rest) = .escape literal :: marks registry (rest.drop source.length) := by
  rw [marks, marksFrom, if_neg (not_not_intro rfl), h]
  exact congrArg (Mark.escape literal :: ·) (marksFrom_eq _ _)

theorem marks_cons_tag {rest : List Char} {tag : Tag} (h : lex registry rest = some (.tag tag)) :
    marks registry ('[' :: rest) = .tag tag :: marks registry (rest.drop tag.source.length) := by
  rw [marks, marksFrom, if_neg (not_not_intro rfl), h]
  exact congrArg (Mark.tag tag :: ·) (marksFrom_eq _ _)

/-- **The first mark of a text**, and those of what is left. -/
theorem cases_marks (registry : Registry) (c : Char) (rest : List Char) :
    ((c = '[' → lex registry rest = none) ∧ marks registry (c :: rest) = .char c :: marks registry rest) ∨
      ∃ m after, m.source ++ after = c :: rest ∧ after.length ≤ rest.length ∧ (∀ d, m ≠ .char d) ∧
        marks registry (c :: rest) = m :: marks registry after := by
  by_cases hc : c = '['
  · subst hc
    cases hlex : lex registry rest with
    | none => exact .inl ⟨fun _ => rfl, marks_cons_char fun _ => hlex⟩
    | some l =>
      cases l with
      | escape source literal =>
        obtain ⟨-, hsource, after, rfl⟩ := lex_escape_eq hlex
        have hmarks := marks_cons_escape hlex
        rw [List.drop_left] at hmarks
        refine .inr ⟨.escape literal, after, ?_, by rw [List.length_append]; omega, nofun, hmarks⟩
        rw [Mark.source, hsource]
        rfl
      | tag tag =>
        obtain ⟨-, after, rfl⟩ := lex_tag_eq hlex
        have hmarks := marks_cons_tag hlex
        rw [List.drop_left] at hmarks
        exact .inr ⟨.tag tag, after, rfl, by rw [List.length_append]; omega, nofun, hmarks⟩
  · exact .inl ⟨fun he => absurd he hc, marks_cons_char fun he => absurd he hc⟩

theorem marks_source (registry : Registry) (text : List Char) :
    (marks registry text).flatMap Mark.source = text := by
  induction hn : text.length using Nat.strongRecOn generalizing text with
  | ind n ih =>
    subst hn
    cases text with
    | nil => rfl
    | cons c rest =>
      rcases cases_marks registry c rest with ⟨-, hmarks⟩ | ⟨m, after, htext, hlen, -, hmarks⟩
      · rw [hmarks, List.flatMap_cons, ih _ (Nat.lt_succ_self _) rest rfl]
        rfl
      · rw [hmarks, List.flatMap_cons, ih _ (Nat.lt_succ_of_le hlen) after rfl, htext]

/-- Of a text without tags something is left, unless it is empty. -/
theorem eq_nil_of_text_eq_nil {text : List Char} (htags : (marks registry text).filterMap Mark.tag? = [])
    (htext : (marks registry text).flatMap Mark.text = []) : text = [] := by
  have hnone : marks registry text = [] := List.eq_nil_iff_forall_not_mem.2 fun m hm =>
    text_ne_nil_of_mem_marksFrom (List.filterMap_eq_nil_iff.1 htags m hm) 0 text hm (List.flatMap_eq_nil_iff.1 htext m hm)
  rw [← marks_source registry text, hnone]
  rfl

/-! ## Pieces -/

/-- The text before the first tag, and each tag with the text behind it. -/
def pieces : List Mark → List Char × List (Tag × List Char)
  | [] => ([], [])
  | .char c :: rest => (c :: (pieces rest).1, (pieces rest).2)
  | .escape literal :: rest => (literal ++ (pieces rest).1, (pieces rest).2)
  | .tag g :: rest => ([], (g, (pieces rest).1) :: (pieces rest).2)

theorem map_fst_pieces : ∀ ms : List Mark, (pieces ms).2.map (·.1) = ms.filterMap Mark.tag?
  | [] => rfl
  | .tag g :: rest => by rw [pieces, List.map_cons, map_fst_pieces rest]; rfl
  | .char c :: rest => map_fst_pieces rest
  | .escape literal :: rest => map_fst_pieces rest

theorem text_pieces : ∀ ms : List Mark, (pieces ms).1 ++ (pieces ms).2.flatMap (·.2) = ms.flatMap Mark.text
  | [] => rfl
  | .tag g :: rest => text_pieces rest
  | .char c :: rest => by rw [pieces, List.cons_append, text_pieces rest]; rfl
  | .escape literal :: rest => by rw [pieces, List.append_assoc, text_pieces rest]; rfl

/-- What a scan says about the marks of a text of which `before` is read already: those before the first tag are the
text before it, and those behind it are the marks of the text behind it. -/
def Scan.Reads (registry : Registry) (before : List Char) (ms : List Mark) : Scan → Prop
  | .plain text => text = before.reverse ++ ms.flatMap Mark.text ∧ ms.filterMap Mark.tag? = []
  | .tagged text tag after => ∃ first, ms = first ++ .tag tag :: marks registry after ∧
      text = before.reverse ++ first.flatMap Mark.text ∧ first.filterMap Mark.tag? = []

theorem Scan.Reads.of_mark {before : List Char} {ms : List Mark} {m : Mark} (hm : m.tag? = none) :
    ∀ {r : Scan}, r.Reads registry (m.text.reverse ++ before) ms → r.Reads registry before (m :: ms)
  | .plain _, ⟨htext, htags⟩ => by
    rw [List.reverse_append, List.reverse_reverse, List.append_assoc] at htext
    exact ⟨htext, (List.filterMap_cons_none hm).trans htags⟩
  | .tagged _ _ _, ⟨first, hms, htext, htags⟩ => by
    rw [List.reverse_append, List.reverse_reverse, List.append_assoc] at htext
    exact ⟨m :: first, congrArg (m :: ·) hms, htext, (List.filterMap_cons_none hm).trans htags⟩

theorem scanFrom_reads : ∀ (text before : List Char) (skip : Nat),
    (scanFrom registry before skip text).Reads registry before (marksFrom registry skip text)
  | [], before, skip => by
    rw [scanFrom, marksFrom]
    exact ⟨(List.append_nil _).symm, rfl⟩
  | _ :: rest, before, skip + 1 => scanFrom_reads rest before skip
  | c :: rest, before, 0 => by
    rw [scanFrom, marksFrom]
    split
    · exact (scanFrom_reads rest (c :: before) 0).of_mark rfl
    · cases lex registry rest with
      | none => exact (scanFrom_reads rest (c :: before) 0).of_mark rfl
      | some l =>
        cases l with
        | escape source literal =>
          exact (scanFrom_reads rest (literal.reverse ++ before) source.length).of_mark rfl
        | tag tag =>
          show Scan.Reads registry before (.tag tag :: marksFrom registry tag.source.length rest)
            (.tagged before.reverse tag (rest.drop tag.source.length))
          rw [marksFrom_eq]
          exact ⟨[], rfl, (List.append_nil _).symm, rfl⟩

/-- **A scan parts the marks of a text at the first tag.** -/
theorem scan_reads (registry : Registry) (text : List Char) :
    (scan registry text).Reads registry [] (marks registry text) := scanFrom_reads text [] 0

theorem scanFrom_tagged : ∀ {text before b after : List Char} {skip : Nat} {g : Tag},
    scanFrom registry before skip text = .tagged b g after →
      after.length < text.length ∧ (g.opens = true ∨ g.closes = true)
  | [], before, b, after, skip, g, h => by
    rw [scanFrom] at h
    cases h
  | c :: rest, before, b, after, skip + 1, g, h => by
    have hrest : scanFrom registry before skip rest = .tagged b g after := h
    obtain ⟨hlen, hg⟩ := scanFrom_tagged hrest
    exact ⟨Nat.lt_succ_of_lt hlen, hg⟩
  | c :: rest, before, b, after, 0, g, h => by
    have hrec : ∀ {before' : List Char} {skip' : Nat}, scanFrom registry before' skip' rest = .tagged b g after →
        after.length < (c :: rest).length ∧ (g.opens = true ∨ g.closes = true) := fun h =>
      (scanFrom_tagged h).imp_left Nat.lt_succ_of_lt
    rw [scanFrom] at h
    split at h
    · exact hrec h
    · split at h
      · exact hrec h
      · exact hrec h
      · rename_i tag hlex
        rw [Scan.tagged.injEq] at h
        obtain ⟨-, rfl, rfl⟩ := h
        refine ⟨?_, (lex_tag_eq hlex).1⟩
        rw [List.length_drop, List.length_cons]
        omega

/-! ## Cutting tag by tag -/

/-- A text without a tag, or its first tag between the text before it and the text behind it, which is `raw` and still
to be cut. -/
inductive Cuts where
  | whole (text : List Char)
  | cut (before : List Char) (tag : Tag) (raw : List Char) (rest : Cuts)

/-- Scans a text, then the text behind its first tag, and so on. -/
def cuts (registry : Registry) (text : List Char) : Cuts :=
  match _h : scan registry text with
  | .plain text => .whole text
  | .tagged before tag after => .cut before tag after (cuts registry after)
  termination_by text.length
  decreasing_by exact (scanFrom_tagged _h).1

theorem cuts_plain {text t : List Char} (h : scan registry text = .plain t) : cuts registry text = .whole t := by
  rw [cuts]
  split <;> simp_all

theorem cuts_tagged {text b after : List Char} {g : Tag} (h : scan registry text = .tagged b g after) :
    cuts registry text = .cut b g after (cuts registry after) := by
  rw [cuts]
  split <;> simp_all

namespace Cuts

def pieces : Cuts → List Char × List (Tag × List Char)
  | .whole text => (text, [])
  | .cut before tag _ rest => (before, (tag, rest.pieces.1) :: rest.pieces.2)

end Cuts

theorem pieces_append_of_tagless : ∀ {first : List Mark}, first.filterMap Mark.tag? = [] → ∀ ms : List Mark,
    pieces (first ++ ms) = (first.flatMap Mark.text ++ (pieces ms).1, (pieces ms).2)
  | [], _, _ => rfl
  | .tag _ :: _, h, _ => by cases h
  | .char _ :: first, h, ms => by
    have hfirst : first.filterMap Mark.tag? = [] := h
    rw [List.cons_append, pieces, pieces_append_of_tagless hfirst]
    rfl
  | .escape _ :: first, h, ms => by
    have hfirst : first.filterMap Mark.tag? = [] := h
    rw [List.cons_append, pieces, pieces_append_of_tagless hfirst, List.flatMap_cons, List.append_assoc]
    rfl

/-- **Cutting tag by tag gives the pieces of the one reading.** -/
theorem pieces_cuts (registry : Registry) (text : List Char) :
    (cuts registry text).pieces = pieces (marks registry text) := by
  induction hn : text.length using Nat.strongRecOn generalizing text with
  | ind n ih =>
    subst hn
    have hreads := scan_reads registry text
    cases hscan : scan registry text with
    | plain t =>
      rw [hscan] at hreads
      obtain ⟨htext, htags⟩ := hreads
      have hpieces := pieces_append_of_tagless htags []
      rw [List.append_nil, pieces, List.append_nil] at hpieces
      rw [cuts_plain hscan, hpieces, Cuts.pieces, htext, List.reverse_nil, List.nil_append]
    | tagged before tag after =>
      rw [hscan] at hreads
      obtain ⟨first, hmarks, hbefore, htags⟩ := hreads
      rw [cuts_tagged hscan, Cuts.pieces, ih _ (scanFrom_tagged hscan).1 _ rfl, hmarks, pieces_append_of_tagless htags,
        pieces, List.append_nil, hbefore, List.reverse_nil, List.nil_append]

/-- An escaped tag between two tags. -/
example : marks ⟨[("b", true)]⟩ "[b]x[[b]][/b]".toList =
    [.tag ⟨['b', ']'], ['b'], true, false, []⟩, .char 'x', .escape ['[', 'b', ']'],
      .tag ⟨['/', 'b', ']'], ['b'], false, true, []⟩] := by decide

end BlogMarkdown.Shortcode
