import BlogMarkdown.Markdown.Convert
import BlogMarkdown.Proofs.Markdown.Rendering
import Mathlib.Algebra.Group.Nat.Even
import Mathlib.Data.List.Induction
/-!
# Where links and images end

A reader of Markdown takes a backslash in front of a punctuation mark for an escape, and finds the end of a link text,
of a target and of a title at the first closing mark that is not escaped.  The closing marks inside these parts get a
backslash, but the backslashes of the parts themselves get none.  So an end is found where it was written exactly if
neither it nor a closing mark before it has an odd number of backslashes right in front.
-/
namespace BlogMarkdown.Markdown

open Dom

variable {σ : Type}

/-! ## Reading up to a mark -/

/-- The punctuation marks of ASCII.  A backslash escapes these and nothing else. -/
def isPunctuation (c : Char) : Bool :=
  ('!' ≤ c && c ≤ '/') || (':' ≤ c && c ≤ '@') || ('[' ≤ c && c ≤ '\x60') || ('\x7b' ≤ c && c ≤ '~')

/-- A text up to the first mark that is not escaped, and what follows that mark.  `escaping` says that a backslash stands
right before the text and is not escaped itself. -/
def cutAt (mark : Char) (escaping : Bool) : List Char → Option (List Char × List Char)
  | [] => none
  | c :: s =>
    if escaping && isPunctuation c then (cutAt mark false s).map (Prod.map (c :: ·) id)
    else if c = mark then some ([], s)
    else (cutAt mark (c = '\\') s).map (Prod.map (c :: ·) id)

/-- Whether a text leaves what follows it escaped, if all marks in it are escaped. -/
def passed (mark : Char) (escaping : Bool) : List Char → Option Bool
  | [] => some escaping
  | c :: s =>
    if escaping && isPunctuation c then passed mark false s
    else if c = mark then none
    else passed mark (c = '\\') s

theorem cutAt_eq_none_iff {mark : Char} : ∀ {s : List Char} {escaping : Bool},
    cutAt mark escaping s = none ↔ passed mark escaping s ≠ none
  | [], _ => by simp [cutAt, passed]
  | c :: s, escaping => by
    rw [cutAt, passed]
    split
    · rw [Option.map_eq_none_iff, cutAt_eq_none_iff]
    · split
      · simp
      · rw [Option.map_eq_none_iff, cutAt_eq_none_iff]

theorem map_eq_some_cons {c : Char} {s rest : List Char} {r : Option (List Char × List Char)} :
    r.map (Prod.map (c :: ·) id) = some (c :: s, rest) ↔ r = some (s, rest) := by
  cases r with
  | none => simp
  | some p => simp [Prod.map, Prod.ext_iff]

/-- A text ends at the mark behind it if all marks in it are escaped and that one is not. -/
theorem cutAt_append_iff {mark : Char} (hmark : isPunctuation mark = true) (rest : List Char) :
    ∀ {s : List Char} {escaping : Bool},
      cutAt mark escaping (s ++ mark :: rest) = some (s, rest) ↔ passed mark escaping s = some false
  | [], escaping => by
    rw [List.nil_append, cutAt, passed, hmark]
    cases escaping with
    | false => simp
    | true => cases cutAt mark false rest <;> simp [Prod.map]
  | c :: s, escaping => by
    rw [List.cons_append, cutAt, passed]
    split
    · rw [map_eq_some_cons, cutAt_append_iff hmark]
    · split
      · simp
      · rw [map_eq_some_cons, cutAt_append_iff hmark]

/-! ## Layout -/

theorem passed_cons_plain {mark c : Char} (hmark : c ≠ mark) (hslash : c ≠ '\\') (escaping : Bool) (s : List Char) :
    passed mark escaping (c :: s) = passed mark false s := by
  rw [passed, if_neg hmark, decide_eq_false hslash, ite_self]

theorem passed_append_plain {mark : Char} {s t : List Char} (h : ∀ c ∈ s, c ≠ mark ∧ c ≠ '\\') :
    passed mark false (s ++ t) = passed mark false t := by
  induction s with
  | nil => rfl
  | cons c s ih =>
    obtain ⟨⟨hmark, hslash⟩, hs⟩ := List.forall_mem_cons.1 h
    rw [List.cons_append, passed_cons_plain hmark hslash, ih hs]

/-- Layout escapes nothing and is no mark. -/
theorem passed_laid {mark : Char} (hmark : isPunctuation mark = true) (hquote : mark ≠ '>') :
    ∀ {s t : List Char} {escaping : Bool}, Laid s t → passed mark escaping t = passed mark escaping s
  | _, _, _, .nil => rfl
  | _, _, _, .char c h => by
    rw [passed, passed, passed_laid hmark hquote h, passed_laid hmark hquote h]
  | _, _, escaping, @Laid.line c d indent s t hc hd hi h => by
    have hplain {x : Char} (hx : IsBreak x ∨ IsIndent x) : x ≠ mark ∧ x ≠ '\\' := by
      rcases hx with (rfl | rfl) | (rfl | rfl)
      · exact ⟨fun he => absurd (he ▸ hmark) (by decide), by decide⟩
      · exact ⟨fun he => absurd (he ▸ hmark) (by decide), by decide⟩
      · exact ⟨fun he => absurd (he ▸ hmark) (by decide), by decide⟩
      · exact ⟨Ne.symm hquote, by decide⟩
    have hd' : d ≠ mark ∧ d ≠ '\\' := by
      rcases hd with rfl | rfl
      · exact hplain (.inl hc)
      · exact hplain (.inr (.inl rfl))
    have hc' := hplain (.inl hc)
    rw [passed_cons_plain hd'.1 hd'.2, passed_cons_plain hc'.1 hc'.2,
      passed_append_plain fun x hx => hplain (.inr (hi x hx)), passed_laid hmark hquote h]

/-! ## Backslashes in the source -/

/-- The number of backslashes that a text ends with. -/
def slashes (s : List Char) : Nat := (s.reverse.takeWhile (· = '\\')).length

theorem slashes_append (s : List Char) (c : Char) : slashes (s ++ [c]) = if c = '\\' then slashes s + 1 else 0 := by
  rw [slashes, List.reverse_append]
  by_cases hc : c = '\\' <;> simp [hc, slashes]

/-- A backslash hides what follows it unless another one hides it, so every second one of a run does. -/
theorem even_slashes_append (s : List Char) (c : Char) :
    Even (slashes (s ++ [c])) ↔ (c = '\\' → ¬ Even (slashes s)) := by
  rw [slashes_append]
  split
  · rename_i hc
    rw [Nat.even_add_one]
    exact ⟨fun h _ => h, fun h => h hc⟩
  · rename_i hc
    exact ⟨fun _ h => absurd h hc, fun _ => Even.zero⟩

/-- Behind an even number of backslashes, what ends a text is escaped as if the text stood alone. -/
theorem even_slashes_append_iff {s : List Char} (hs : Even (slashes s)) (t : List Char) :
    Even (slashes (s ++ t)) ↔ Even (slashes t) := by
  induction t using List.reverseRecOn with
  | nil => rw [List.append_nil]; exact iff_of_true hs Even.zero
  | append_singleton t c ih => rw [← List.append_assoc, even_slashes_append, even_slashes_append, ih]

/-- No such mark in a text has an odd number of backslashes right before it. -/
def Paired (mark : Char) (s : List Char) : Prop := ∀ before after, s = before ++ mark :: after → Even (slashes before)

/-- Characters that get a backslash wherever they stand, and that are neither backslashes nor in line prefixes. -/
def IsNarrow (special : List Char) : Prop := ∀ c ∈ special, isPunctuation c = true ∧ c ∉ ['\\', '.', ':', '!', '>']

instance (special : List Char) : Decidable (IsNarrow special) :=
  List.decidableBAll (fun c => isPunctuation c = true ∧ c ∉ ['\\', '.', ':', '!', '>']) special

section

variable {mark : Char} {special : List Char}

theorem IsNarrow.ne {c d : Char} (h : IsNarrow special) (hc : c ∈ special) (hd : d ∈ ['\\', '.', ':', '!', '>']) :
    c ≠ d := fun he => (h c hc).2 (he ▸ hd)

theorem escapeAfter_special (hspecial : IsNarrow special) {c : Char} (hc : c ∈ special) (before : Option Char)
    (s : List Char) : escapeAfter special before (c :: s) = '\\' :: c :: escapeAfter special (some c) s := by
  have hbegins : beginsSyntax before c s = true := by
    rw [beginsSyntax, if_neg (hspecial.ne hc (by decide)), if_neg (hspecial.ne hc (by decide)),
      if_neg (hspecial.ne hc (by decide))]
  rw [escapeAfter, if_pos ⟨List.contains_iff_mem.2 hc, hbegins⟩]

theorem escapeAfter_plain {c : Char} (hc : c ∉ special) (before : Option Char) (s : List Char) :
    escapeAfter special before (c :: s) = c :: escapeAfter special (some c) s := by
  rw [escapeAfter, if_neg]
  simp [hc]

/-- One character of the source: behind an odd number of backslashes, the backslash in front of a mark is escaped and
the mark is not. -/
theorem passed_escapeAfter_cons (hspecial : IsNarrow special) (hmark : mark ∈ special) (source : List Char)
    (before : Option Char) (c : Char) (s : List Char) {escaping : Bool}
    (h : escaping = true ↔ ¬ Even (slashes source)) :
    ∃ escaping' : Bool, (escaping' = true ↔ ¬ Even (slashes (source ++ [c]))) ∧
      passed mark escaping (escapeAfter special before (c :: s)) =
        if c = mark ∧ escaping = true then none else passed mark escaping' (escapeAfter special (some c) s) := by
  have hslash : isPunctuation '\\' = true := by decide
  have hmark' : '\\' ≠ mark := Ne.symm (hspecial.ne hmark (by decide))
  rw [even_slashes_append, ← h]
  by_cases hc : c ∈ special
  · have hne : c ≠ '\\' := hspecial.ne hc (by decide)
    rw [escapeAfter_special hspecial hc]
    refine ⟨false, by simp [hne], ?_⟩
    cases escaping <;> simp [passed, hslash, hmark', hne, (hspecial c hc).1]
  · have hne : c ≠ mark := fun he => hc (he ▸ hmark)
    rw [escapeAfter_plain hc]
    by_cases hback : c = '\\'
    · subst hback
      refine ⟨!escaping, by cases escaping <;> simp, ?_⟩
      cases escaping <;> simp [passed, hslash, hmark']
    · refine ⟨false, by simp [hback], ?_⟩
      rw [passed_cons_plain hne hback, if_neg fun h => hne h.1]

/-- What an escaped text passes, where `source` stands before it. -/
theorem passed_escapeAfter (hspecial : IsNarrow special) (hmark : mark ∈ special) : ∀ (s source : List Char)
    (before : Option Char) (escaping : Bool), (escaping = true ↔ ¬ Even (slashes source)) →
    (passed mark escaping (escapeAfter special before s) = none ↔
      ∃ front after, s = front ++ mark :: after ∧ ¬ Even (slashes (source ++ front))) ∧
    ∀ escaping', passed mark escaping (escapeAfter special before s) = some escaping' →
      (escaping' = true ↔ ¬ Even (slashes (source ++ s)))
  | [], source, before, escaping, h => by
    rw [escapeAfter, passed, List.append_nil]
    refine ⟨by simp, fun escaping' he => ?_⟩
    rw [← Option.some.inj he, h]
  | c :: s, source, before, escaping, h => by
    obtain ⟨escaping', h', hcons⟩ := passed_escapeAfter_cons hspecial hmark source before c s h
    obtain ⟨hnone, hsome⟩ := passed_escapeAfter hspecial hmark s (source ++ [c]) (some c) escaping' h'
    rw [hcons]
    split
    · rename_i hopen
      exact ⟨⟨fun _ => ⟨[], s, by rw [hopen.1]; rfl, by simpa using h.1 hopen.2⟩, fun _ => rfl⟩, nofun⟩
    · rename_i hclosed
      rw [hnone]
      refine ⟨⟨?_, ?_⟩, fun e he => by simpa using hsome e he⟩
      · rintro ⟨front, after, rfl, hodd⟩
        exact ⟨c :: front, after, rfl, by simpa using hodd⟩
      · rintro ⟨front, after, hs, hodd⟩
        cases front with
        | nil =>
          obtain ⟨rfl, -⟩ := List.cons.inj hs
          exact absurd ⟨rfl, h.2 (by simpa using hodd)⟩ hclosed
        | cons d front =>
          obtain ⟨rfl, rfl⟩ := List.cons.inj hs
          exact ⟨front, after, rfl, by simpa using hodd⟩

theorem passed_of_laid (hspecial : IsNarrow special) (hmark : mark ∈ special) {s t : List Char}
    (h : Laid (escape special s) t) : (passed mark false t ≠ none ↔ Paired mark s) ∧
      ∀ escaping, passed mark false t = some escaping → (escaping = true ↔ ¬ Even (slashes s)) := by
  obtain ⟨hnone, hsome⟩ := passed_escapeAfter hspecial hmark s [] none false (by simp [slashes])
  rw [passed_laid (hspecial mark hmark).1 (hspecial.ne hmark (by decide)) h, escape, Ne, hnone, Paired]
  push Not
  exact ⟨Iff.rfl, hsome⟩

/-- **No end is found** in a text that is escaped and laid out, exactly if backslashes come in pairs before its marks. -/
theorem cutAt_eq_none_iff_paired (hspecial : IsNarrow special) (hmark : mark ∈ special) {s t : List Char}
    (h : Laid (escape special s) t) : cutAt mark false t = none ↔ Paired mark s := by
  rw [cutAt_eq_none_iff, (passed_of_laid hspecial hmark h).1]

/-- **The end of a text that is escaped and laid out is found where it was written**, exactly if backslashes come in
pairs before its marks and at its end. -/
theorem cutAt_append_iff_paired (hspecial : IsNarrow special) (hmark : mark ∈ special) {s t : List Char}
    (h : Laid (escape special s) t) (rest : List Char) :
    cutAt mark false (t ++ mark :: rest) = some (t, rest) ↔ Paired mark s ∧ Even (slashes s) := by
  obtain ⟨hpaired, hsome⟩ := passed_of_laid hspecial hmark h
  rw [cutAt_append_iff (hspecial mark hmark).1, ← hpaired]
  cases hpassed : passed mark false t with
  | none => simp
  | some escaping =>
    have heven := hsome escaping hpassed
    cases escaping <;> simp_all

end

/-! ## Links and images -/

/-- A link as it is written. -/
def linkPassage (text form : List Char) : List Char :=
  '[' :: (escape specialInLinkText text ++ ']' :: '(' :: (escape specialInTarget form ++ [')']))

/-- An image as it is written. -/
def imagePassage (alt title form : List Char) : List Char :=
  if title.isEmpty then '!' :: linkPassage alt form
  else '!' :: '[' :: (escape specialInLinkText alt ++ ']' :: '(' ::
    (escape specialInTitledTarget form ++ ' ' :: '"' :: (escape specialInTitle title ++ ['"', ')'])))

/-- The end of a part is found where it was written, whatever follows, exactly if backslashes come in pairs in the
source of the part. -/
def EndsWhereWritten (mark : Char) (source part : List Char) : Prop :=
  ∀ rest, cutAt mark false (part ++ mark :: rest) = some (part, rest) ↔ Paired mark source ∧ Even (slashes source)

/-- How the parts of a link come out. -/
def LinkParts (text form passage : List Char) : Prop :=
  ∃ inner target, passage = '[' :: (inner ++ ']' :: '(' :: (target ++ [')'])) ∧ EndsWhereWritten ']' text inner ∧
    EndsWhereWritten ')' form target

/-- How the parts of an image come out.  The mark that closes the target is not looked for in a title. -/
def ImageParts (alt title form passage : List Char) : Prop :=
  if title.isEmpty then ∃ link, passage = '!' :: link ∧ LinkParts alt form link
  else ∃ inner target quoted,
    passage = '!' :: '[' :: (inner ++ ']' :: '(' :: (target ++ ' ' :: '"' :: (quoted ++ ['"', ')']))) ∧
    EndsWhereWritten ']' alt inner ∧ (cutAt ')' false target = none ↔ Paired ')' form) ∧
    EndsWhereWritten '"' title quoted

theorem laid_cons {c : Char} {s u : List Char} (hc : isPunctuation c = true) (h : Laid (c :: s) u) :
    ∃ t, u = c :: t ∧ Laid s t := h.of_cons fun hbreak => by
  rcases hbreak with rfl | rfl <;> exact absurd hc (by decide)

/-- What is laid out between two marks stays between them. -/
theorem laid_between {first last : Char} {s rest u : List Char} (hfirst : isPunctuation first = true)
    (hlast : isPunctuation last = true) (h : Laid (first :: (s ++ last :: rest)) u) :
    ∃ part after, u = first :: (part ++ last :: after) ∧ Laid s part ∧ Laid rest after := by
  obtain ⟨v, rfl, hv⟩ := laid_cons hfirst h
  obtain ⟨part, w, rfl, hpart, hw⟩ := hv.of_append
  obtain ⟨after, rfl, hafter⟩ := laid_cons hlast hw
  exact ⟨part, after, rfl, hpart, hafter⟩

theorem linkParts_of_laid {text form passage : List Char} (h : Laid (linkPassage text form) passage) :
    LinkParts text form passage := by
  obtain ⟨inner, _, rfl, hinner, hrest⟩ := laid_between (by decide) (by decide) h
  obtain ⟨target, _, rfl, htarget, hend⟩ := laid_between (by decide) (by decide) hrest
  cases hend
  exact ⟨inner, target, rfl, cutAt_append_iff_paired (by decide) (by decide) hinner,
    cutAt_append_iff_paired (by decide) (by decide) htarget⟩

theorem imageParts_of_laid {alt title form passage : List Char} (h : Laid (imagePassage alt title form) passage) :
    ImageParts alt title form passage := by
  rw [imagePassage] at h
  rw [ImageParts]
  split at h
  · rename_i hempty
    rw [if_pos hempty]
    obtain ⟨link, rfl, hlink⟩ := laid_cons (by decide) h
    exact ⟨link, rfl, linkParts_of_laid hlink⟩
  · rename_i hnonempty
    rw [if_neg hnonempty]
    obtain ⟨_, rfl, hlink⟩ := laid_cons (by decide) h
    obtain ⟨inner, _, rfl, hinner, hrest⟩ := laid_between (by decide) (by decide) hlink
    obtain ⟨_, rfl, hbehind⟩ := laid_cons (by decide) hrest
    obtain ⟨target, _, rfl, htarget, hblank⟩ := hbehind.of_append
    obtain ⟨_, rfl, htitle⟩ := hblank.of_cons (by rintro (h | h) <;> cases h)
    obtain ⟨quoted, _, rfl, hquoted, hmark⟩ := laid_between (by decide) (by decide) htitle
    obtain ⟨_, rfl, hend⟩ := laid_cons (by decide) hmark
    cases hend
    exact ⟨inner, target, quoted, rfl, cutAt_append_iff_paired (by decide) (by decide) hinner,
      cutAt_eq_none_iff_paired (by decide) (by decide) htarget,
      cutAt_append_iff_paired (by decide) (by decide) hquoted⟩

/-- A text that begins with a mark comes out in one piece behind the linefeeds that are due. -/
theorem Writer.Spells.write_marked {w : Writer} {before s : List Char} {c : Char} (h : w.Spells before)
    (hc : isPunctuation c = true) :
    ∃ gap passage, (w.write (c :: s)).Spells (before ++ (gap ++ passage)) ∧ (∀ d ∈ gap, IsGap d) ∧
      Laid (c :: s) passage := by
  obtain ⟨_, hs, harrives⟩ := h.write_arrives (c :: s)
  have hne : c ≠ '\n' := by
    rintro rfl
    exact absurd hc (by decide)
  obtain ⟨gap, passage, rfl, hgap, hlaid⟩ := harrives.of_ne hne
  exact ⟨gap, passage, hs, hgap, hlaid⟩

namespace Render

/-- A rendering writes a passage with these parts, behind the linefeeds that are due, for the form that a target got.
What the passage becomes when it is laid out anew has these parts too. -/
def WritesParts (rewriter : UrlRewriter σ) (url : String) (parts : List Char → List Char → Prop) (m : Render σ Unit) :
    Prop :=
  ∀ (sheet : Sheet σ) (before : List Char), sheet.writer.Spells before → (m.on sheet).1 = .ok () ∧
    ∃ gap passage, (m.on sheet).2.writer.Spells (before ++ (gap ++ passage)) ∧ (∀ c ∈ gap, IsGap c) ∧
      ∀ final, Laid passage final → parts (rewriter.rewrite url sheet.urls).1.toList final

theorem writesParts_target {rewriter : UrlRewriter σ} {url : String} {parts : List Char → List Char → Prop}
    {f : List Char → Render σ Unit} (written : List Char → List Char)
    (hmark : ∀ form, ∃ mark rest, isPunctuation mark = true ∧ written form = mark :: rest)
    (hf : ∀ form, f form = write (written form))
    (hparts : ∀ form passage, Laid (written form) passage → parts form passage) :
    (target rewriter url >>= f).WritesParts rewriter url parts := by
  intro sheet before hs
  obtain ⟨mark, rest, hmark, hwritten⟩ := hmark (rewriter.rewrite url sheet.urls).1.toList
  obtain ⟨gap, passage, hout, hgap, hlaid⟩ := hs.write_marked (s := rest) hmark
  rw [on_bind, on_target]
  dsimp only
  rw [hf, hwritten]
  exact ⟨rfl, gap, passage, hout, hgap, fun final hfinal => hparts _ final (hwritten ▸ hlaid.trans hfinal)⟩

end Render

/-- **Links and images delimit their own parts exactly if backslashes come in pairs** at the end of a part and before
each closing mark in it, wherever they are written. -/
theorem parts_of_targets (rewriter : UrlRewriter σ) (element : NodeData) :
    (∀ text, (renderLink rewriter element text).WritesParts rewriter ((element.attribute? "href").getD "")
      (LinkParts text)) ∧
    (renderImage rewriter element).WritesParts rewriter ((element.attribute? "src").getD "")
      (ImageParts (altText element) ((element.attribute? "title").getD "").toList) := by
  refine ⟨fun text => ?_, ?_⟩
  · refine Render.writesParts_target (linkPassage text) (fun form => ⟨'[', _, by decide, rfl⟩) (fun form => ?_)
      fun form passage => linkParts_of_laid
    rw [Render.writeBetween_eq, Render.writeBetween_eq, Render.write_write, linkPassage]
    simp
  · refine Render.writesParts_target (imagePassage (altText element) ((element.attribute? "title").getD "").toList)
      (fun form => ?_) (fun form => ?_) fun form passage => imageParts_of_laid
    · rw [imagePassage]
      split
      · exact ⟨'!', _, by decide, rfl⟩
      · exact ⟨'!', _, by decide, rfl⟩
    · dsimp only
      rw [imagePassage]
      split
      · rw [Render.writeBetween_eq, Render.writeBetween_eq, Render.write_write, linkPassage]
        simp
      · rw [Render.writeBetween_eq, Render.writeBetween_eq, Render.writeBetween_eq, Render.write_write,
          Render.write_write]
        simp

/-- A backslash at the end of a link text hides the bracket behind it. -/
theorem backslash_before_bracket :
    let root := Dom.Tree.node (.element (.html "body") [])
      [.node (.element (.html "a") [.plain "href" "u"]) [.node (.text ['a', '\\']) []]]
    (rendered .identity root ()).1 = .ok "[a\\](u)\n".toList ∧ cutAt ']' false "a\\](u)\n".toList = none := by
  decide +kernel

end BlogMarkdown.Markdown
