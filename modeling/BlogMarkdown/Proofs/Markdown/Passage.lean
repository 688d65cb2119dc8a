import BlogMarkdown.Markdown.Render
import BlogMarkdown.Proofs.Markdown.Layout
import BlogMarkdown.Proofs.Text.Utf8
/-!
# Passages of a written text

Between what is written and the text that comes out stands the layout: a newline gets the line prefix behind it, and
where everything has to stand on one line a blank takes its place.  A passage that does not begin with a newline comes
out in one piece, laid out that way.
-/
namespace BlogMarkdown.Markdown

open Text Text.Utf8

/-! ## How a passage comes out -/

/-- What ends a line. -/
def IsBreak (c : Char) : Prop := c = '\n' ∨ c = '\r'

/-- What line prefixes are made of. -/
def IsIndent (c : Char) : Prop := c = ' ' ∨ c = '>'

/-- How a passage may come out: a line break may be a blank, and a line prefix may stand behind it. -/
inductive Laid : List Char → List Char → Prop
  | nil : Laid [] []
  | char (c : Char) {s t : List Char} : Laid s t → Laid (c :: s) (c :: t)
  | line {c d : Char} {indent s t : List Char} : IsBreak c → d = c ∨ d = ' ' → (∀ x ∈ indent, IsIndent x) →
    Laid s t → Laid (c :: s) (d :: (indent ++ t))

/-- What the layout puts between passages: linefeeds and line prefixes. -/
def IsGap (c : Char) : Prop := c = '\n' ∨ IsIndent c

theorem not_isBreak_of_isIndent {c : Char} (h : IsIndent c) : ¬ IsBreak c := by
  rcases h with rfl | rfl <;> rintro (h | h) <;> cases h

namespace Laid

variable {s t u : List Char}

theorem refl : ∀ s : List Char, Laid s s
  | [] => .nil
  | c :: s => .char c (refl s)

theorem append : ∀ {s t u v : List Char}, Laid s t → Laid u v → Laid (s ++ u) (t ++ v)
  | _, _, _, _, .nil, h => h
  | _, _, _, _, .char c h, h' => .char c (h.append h')
  | _, _, _, _, .line hc hd hi h, h' => by
    rw [List.cons_append, List.cons_append, List.append_assoc]
    exact .line hc hd hi (h.append h')

theorem of_append : ∀ {s t u : List Char}, Laid (s ++ t) u → ∃ v w, u = v ++ w ∧ Laid s v ∧ Laid t w
  | [], _, u, h => ⟨[], u, rfl, .nil, h⟩
  | c :: s, t, _, h => by
    cases h with
    | char _ h =>
      obtain ⟨v, w, rfl, hv, hw⟩ := of_append h
      exact ⟨c :: v, w, rfl, .char c hv, hw⟩
    | @line _ d indent _ _ hc hd hi h =>
      obtain ⟨v, w, rfl, hv, hw⟩ := of_append h
      exact ⟨d :: (indent ++ v), w, by rw [List.cons_append, List.append_assoc], .line hc hd hi hv, hw⟩

theorem of_cons {c : Char} (hc : ¬ IsBreak c) (h : Laid (c :: s) u) : ∃ t, u = c :: t ∧ Laid s t := by
  cases h with
  | char _ h => exact ⟨_, rfl, h⟩
  | line hb => exact absurd hb hc

/-- What is not broken stays as it is. -/
theorem of_unbroken : ∀ {s t u : List Char}, (∀ c ∈ s, ¬ IsBreak c) → Laid (s ++ t) u → ∃ v, u = s ++ v ∧ Laid t v
  | [], _, u, _, h => ⟨u, rfl, h⟩
  | c :: s, t, u, hs, h => by
    obtain ⟨u, rfl, hu⟩ := of_cons (s := s ++ t) (hs c List.mem_cons_self) h
    obtain ⟨v, rfl, hv⟩ := of_unbroken (fun x hx => hs x (List.mem_cons_of_mem _ hx)) hu
    exact ⟨v, rfl, hv⟩

theorem trans : ∀ {s t u : List Char}, Laid s t → Laid t u → Laid s u
  | _, _, _, .nil, h => h
  | _, _, _, .char c h, h' => by
    cases h' with
    | char _ h' => exact .char c (h.trans h')
    | line hc hd hi h' => exact .line hc hd hi (h.trans h')
  | _, _, _, .line hc hd hi h, h' => by
    cases h' with
    | char _ h' =>
      obtain ⟨v, rfl, hv⟩ := of_unbroken (fun x hx => not_isBreak_of_isIndent (hi x hx)) h'
      exact .line hc hd hi (h.trans hv)
    | @line _ d' indent' _ _ _ hd' hi' h' =>
      obtain ⟨v, rfl, hv⟩ := of_unbroken (fun x hx => not_isBreak_of_isIndent (hi x hx)) h'
      rw [← List.append_assoc]
      refine .line hc ?_ ?_ (h.trans hv)
      · rcases hd' with rfl | rfl
        · exact hd
        · exact .inr rfl
      · intro x hx
        rcases List.mem_append.1 hx with hx | hx
        · exact hi' x hx
        · exact hi x hx

theorem onOneLine : ∀ s : List Char, Laid s (Markdown.onOneLine s)
  | [] => .nil
  | c :: s => by
    by_cases hc : c = '\n' ∨ c = '\r'
    · rw [Markdown.onOneLine, List.map_cons, if_pos hc]
      exact @Laid.line c ' ' [] s _ hc (.inr rfl) nofun (onOneLine s)
    · rw [Markdown.onOneLine, List.map_cons, if_neg hc]
      exact .char c (onOneLine s)

end Laid

/-- How a text that is written comes out: the newlines that it begins with, and the linefeeds that are due, stand before
the rest of it. -/
def Arrives (s t : List Char) : Prop :=
  ∃ newlines rest gap laid, s = newlines ++ rest ∧ t = gap ++ laid ∧ (∀ c ∈ newlines, c = '\n') ∧
    (∀ c ∈ gap, IsGap c) ∧ Laid rest laid

theorem Arrives.newline {s t indent : List Char} (hi : ∀ c ∈ indent, IsIndent c) (h : Arrives s t) :
    Arrives ('\n' :: s) ('\n' :: (indent ++ t)) := by
  obtain ⟨newlines, rest, gap, laid, rfl, rfl, hn, hg, hl⟩ := h
  refine ⟨'\n' :: newlines, rest, '\n' :: (indent ++ gap), laid, rfl, by simp, List.forall_mem_cons.2 ⟨rfl, hn⟩, ?_, hl⟩
  exact List.forall_mem_cons.2 ⟨.inl rfl, List.forall_mem_append.2 ⟨fun c hc => .inr (hi c hc), hg⟩⟩

/-- What does not begin with a newline comes out in one piece behind the linefeeds that are due. -/
theorem Arrives.of_ne {c : Char} {s t : List Char} (hc : c ≠ '\n') (h : Arrives (c :: s) t) :
    ∃ gap laid, t = gap ++ laid ∧ (∀ d ∈ gap, IsGap d) ∧ Laid (c :: s) laid := by
  obtain ⟨newlines, rest, gap, laid, hs, rfl, hn, hg, hl⟩ := h
  cases newlines with
  | nil => exact ⟨gap, laid, rfl, hg, (show c :: s = rest from hs) ▸ hl⟩
  | cons d newlines =>
    obtain ⟨rfl, -⟩ := List.cons.inj hs
    exact absurd (hn c List.mem_cons_self) hc

/-! ## Writing character by character -/

namespace Writer

theorem flushLinefeeds_of_none {w : Writer} (h : w.requested = 0) : w.flushLinefeeds = w := by
  have hmissing : w.run.missing 0 = 0 := by
    cases w.run with
    | unbounded => rfl
    | count n => exact Nat.zero_sub n
  rw [flushLinefeeds, h, hmissing]
  cases w
  cases h
  rfl

theorem writeContent_cons (b c : UInt8) (bytes : List UInt8) (w : Writer) :
    w.writeContent (b :: c :: bytes) = (w.writeContent [b]).writeContent (c :: bytes) := by
  have hflush : (w.writeContent [b]).flushLinefeeds = w.writeContent [b] := flushLinefeeds_of_none rfl
  have hout : w.flushLinefeeds.out ++ b :: c :: bytes = w.flushLinefeeds.out ++ [b] ++ (c :: bytes) :=
    Array.ext' (by simp)
  show _ = { (w.writeContent [b]).flushLinefeeds with
    out := (w.writeContent [b]).flushLinefeeds.out ++ (c :: bytes), run := .count 0 }
  rw [hflush]
  show { w.flushLinefeeds with out := w.flushLinefeeds.out ++ b :: c :: bytes, run := .count 0 } = _
  rw [hout]
  rfl

theorem writeBytes_cons (b : UInt8) (bytes : List UInt8) (w : Writer) :
    w.writeBytes (b :: bytes) = (w.writeByte b).writeBytes bytes := by
  rw [writeBytes_eq, writeBytes_eq, lineEvents, writeByte]
  by_cases hb : b = linefeed
  · rw [if_pos hb, if_pos hb, List.foldl_cons, step]
  · rw [if_neg hb, if_neg hb]
    cases lineEvents bytes with
    | nil => rfl
    | cons e events =>
      cases e with
      | content first rest => exact congrArg (events.foldl step) (writeContent_cons b first rest w)
      | _ => rfl

theorem writeBytes_append : ∀ (bytes more : List UInt8) (w : Writer),
    w.writeBytes (bytes ++ more) = (w.writeBytes bytes).writeBytes more
  | [], _, _ => rfl
  | b :: bytes, more, w => by
    rw [List.cons_append, writeBytes_cons, writeBytes_append bytes, writeBytes_cons]

theorem write_append (s t : List Char) (w : Writer) : w.write (s ++ t) = (w.write s).write t := by
  rw [write, encode_append, writeBytes_append]
  rfl

theorem write_newline (w : Writer) : w.write ['\n'] = w.writeLinefeed (w.verbatim = 0) := by
  rw [write, encode_newline, writeBytes_cons, writeByte, if_pos (show (10 : UInt8) = linefeed from rfl)]
  rfl

theorem write_char {c : Char} (hc : c ≠ '\n') (w : Writer) : w.write [c] = w.writeContent (encode [c]) := by
  rw [write, writeBytes_eq, writeContent_eq]
  exact linefeed_not_mem_encode (by simpa using Ne.symm hc)

/-! ## The text of a writer -/

/-- A writer's output is the bytes of a text, and its line prefixes are made of what prefixes are made of. -/
structure Spells (w : Writer) (text : List Char) : Prop where
  out : w.out.toList = encode text
  indents : ∀ indent ∈ w.indents, ∃ s, indent = encode s ∧ ∀ c ∈ s, IsIndent c

theorem spells_empty : empty.Spells [] := ⟨rfl, nofun⟩

namespace Spells

variable {w : Writer} {text : List Char}

theorem indent (h : w.Spells text) : ∃ s, w.indent = encode s ∧ ∀ c ∈ s, IsIndent c := by
  rw [Writer.indent]
  cases hw : w.indents with
  | nil => exact ⟨[], rfl, fun c hc => absurd hc List.not_mem_nil⟩
  | cons indent outer => exact h.indents indent (hw ▸ List.mem_cons_self)

theorem writeLinefeed (h : w.Spells text) (indented : Bool) :
    ∃ indent, (∀ c ∈ indent, IsIndent c) ∧ (w.writeLinefeed indented).Spells (text ++ '\n' :: indent) := by
  obtain ⟨s, hs, hindent⟩ := h.indent
  refine ⟨if indented then s else [], ?_, ⟨?_, h.indents⟩⟩
  · cases indented with
    | true => exact hindent
    | false => exact fun c hc => absurd hc List.not_mem_nil
  · rw [Writer.writeLinefeed, Array.toList_appendList, h.out, hs, encode_append]
    cases indented <;> rfl

theorem flushLinefeeds (h : w.Spells text) :
    ∃ gap, (∀ c ∈ gap, IsGap c) ∧ w.flushLinefeeds.Spells (text ++ gap) := by
  have hrepeat : ∀ n, ∃ gap, (∀ c ∈ gap, IsGap c) ∧ (Nat.repeat (Writer.writeLinefeed true) n w).Spells (text ++ gap) := by
    intro n
    induction n with
    | zero => exact ⟨[], nofun, by rwa [List.append_nil]⟩
    | succ n ih =>
      obtain ⟨gap, hgap, ih⟩ := ih
      obtain ⟨indent, hindent, ih⟩ := ih.writeLinefeed true
      refine ⟨gap ++ '\n' :: indent, List.forall_mem_append.2 ⟨hgap, ?_⟩, by rwa [← List.append_assoc]⟩
      exact List.forall_mem_cons.2 ⟨.inl rfl, fun c hc => .inr (hindent c hc)⟩
  obtain ⟨gap, hgap, h⟩ := hrepeat (w.run.missing w.requested)
  exact ⟨gap, hgap, h.out, h.indents⟩

theorem ensureLinefeeds (h : w.Spells text) (n : Nat) : (w.ensureLinefeeds n).Spells text := by
  rw [Writer.ensureLinefeeds]
  split
  · exact ⟨h.out, h.indents⟩
  · exact h

theorem enterVerbatim (h : w.Spells text) : w.enterVerbatim.Spells text := ⟨h.out, h.indents⟩

theorem leaveVerbatim (h : w.Spells text) : w.leaveVerbatim.Spells text := ⟨h.out, h.indents⟩

theorem popIndent (h : w.Spells text) : w.popIndent.Spells text :=
  ⟨h.out, fun indent hi => h.indents indent (List.mem_of_mem_tail hi)⟩

theorem pushIndent (h : w.Spells text) {s : List Char} (hs : ∀ c ∈ s, IsIndent c) :
    ∃ gap, (∀ c ∈ gap, IsGap c) ∧ (w.pushIndent s).Spells (text ++ gap) := by
  obtain ⟨gap, hgap, h⟩ := h.flushLinefeeds
  obtain ⟨outer, houter, hindent⟩ := h.indent
  refine ⟨gap, hgap, h.out, fun indent hi => ?_⟩
  rcases List.mem_cons.1 hi with rfl | hi
  · refine ⟨outer ++ s, by rw [encode_append, houter], fun c hc => ?_⟩
    rcases List.mem_append.1 hc with hc | hc
    · exact hindent c hc
    · exact hs c hc
  · exact h.indents indent hi

/-- Anything but a newline comes out as it is, behind the linefeeds that were requested. -/
theorem write_char (h : w.Spells text) {c : Char} (hc : c ≠ '\n') :
    (w.write [c]).requested = 0 ∧ ∃ gap, (∀ d ∈ gap, IsGap d) ∧ (w.write [c]).Spells (text ++ (gap ++ [c])) ∧
      (w.requested = 0 → gap = []) := by
  obtain ⟨gap, hgap, hflush⟩ : ∃ gap, (∀ d ∈ gap, IsGap d) ∧ w.flushLinefeeds.Spells (text ++ gap) ∧
      (w.requested = 0 → gap = []) := by
    by_cases hw : w.requested = 0
    · rw [flushLinefeeds_of_none hw]
      exact ⟨[], nofun, by rwa [List.append_nil], fun _ => rfl⟩
    · obtain ⟨gap, hgap, h⟩ := h.flushLinefeeds
      exact ⟨gap, hgap, h, fun h => absurd h hw⟩
  rw [Writer.write_char hc, writeContent, isEmpty_encode]
  refine ⟨rfl, gap, hgap, ⟨?_, hflush.1.indents⟩, hflush.2⟩
  show (w.flushLinefeeds.out ++ encode [c]).toList = _
  rw [Array.toList_appendList, hflush.1.out, ← List.append_assoc, encode_append (text ++ gap)]

/-- Where no linefeed is requested a text comes out in one piece. -/
theorem write_laid : ∀ {s : List Char} {w : Writer} {text : List Char}, w.Spells text → w.requested = 0 →
    (w.write s).requested = 0 ∧ ∃ t, Laid s t ∧ (w.write s).Spells (text ++ t)
  | [], _, _, h, hw => ⟨hw, [], .nil, by rwa [List.append_nil]⟩
  | c :: s, w, text, h, hw => by
    rw [show c :: s = [c] ++ s from rfl, write_append]
    by_cases hc : c = '\n'
    · subst hc
      rw [write_newline]
      obtain ⟨indent, hi, h⟩ := h.writeLinefeed (w.verbatim = 0)
      obtain ⟨hreq, t, ht, h⟩ := write_laid (s := s) h hw
      refine ⟨hreq, '\n' :: (indent ++ t), .line (.inl rfl) (.inl rfl) hi ht, ?_⟩
      rwa [List.append_assoc, List.cons_append] at h
    · obtain ⟨hreq, gap, -, h, hgap⟩ := h.write_char hc
      rw [hgap hw] at h
      obtain ⟨hreq, t, ht, h⟩ := write_laid (s := s) h hreq
      refine ⟨hreq, c :: t, .char c ht, ?_⟩
      rwa [List.append_assoc] at h

theorem write_arrives : ∀ {w : Writer} {text : List Char} (s : List Char), w.Spells text →
    ∃ more, (w.write s).Spells (text ++ more) ∧ Arrives s more
  | _, _, [], h => ⟨[], by rwa [List.append_nil], [], [], [], [], rfl, rfl, nofun, nofun, .nil⟩
  | w, text, c :: s, h => by
    rw [show c :: s = [c] ++ s from rfl, write_append]
    by_cases hc : c = '\n'
    · subst hc
      rw [write_newline]
      obtain ⟨indent, hindent, h⟩ := h.writeLinefeed (w.verbatim = 0)
      obtain ⟨more, h, hs⟩ := h.write_arrives s
      refine ⟨'\n' :: (indent ++ more), ?_, hs.newline hindent⟩
      rwa [List.append_assoc, List.cons_append] at h
    · -- the first character that is no newline brings out what is due, and then nothing is
      obtain ⟨hreq, gap, hgap, h, -⟩ := h.write_char hc
      obtain ⟨-, laid, hlaid, h⟩ := h.write_laid (s := s) hreq
      refine ⟨gap ++ c :: laid, ?_, [], c :: s, gap, c :: laid, rfl, rfl, nofun, hgap, .char c hlaid⟩
      simpa using h

theorem write {w : Writer} {text : List Char} (s : List Char) (h : w.Spells text) :
    ∃ more, (w.write s).Spells (text ++ more) := (h.write_arrives s).imp fun _ h => h.1

/-- **A passage comes out in one piece**, wherever it stands in what is written. -/
theorem write_passage {s passage : List Char} {c : Char} (h : w.Spells text) (hc : c ≠ '\n')
    (hs : c :: passage <:+: s) :
    ∃ more t, (w.write s).Spells (text ++ more) ∧ Laid (c :: passage) t ∧ t <:+: more := by
  obtain ⟨before, after, rfl⟩ := hs
  -- linefeeds that are due come out before the first character, so none can come between it and the rest
  rw [show before ++ c :: passage ++ after = before ++ ([c] ++ (passage ++ after)) by simp, write_append, write_append,
    write_append]
  obtain ⟨more, h⟩ := h.write before
  obtain ⟨hreq, linefeeds, -, h, -⟩ := h.write_char hc
  obtain ⟨-, t, ht, h⟩ := h.write_laid (s := passage) hreq
  obtain ⟨rest, h⟩ := h.write after
  refine ⟨more ++ linefeeds ++ (c :: t) ++ rest, c :: t, ?_, .char c ht, more ++ linefeeds, rest, rfl⟩
  simpa using h

theorem text_eq (h : w.Spells text) : w.text = .ok text := by
  rw [Writer.text, h.out, decoded, decode_encode]
  rfl

theorem finish_eq (h : w.Spells text) :
    w.finish = .ok (let lines := dropEndWhile (· = '\n') text
      if lines.isEmpty then [] else lines ++ ['\n']) := by
  have hbytes : dropEndWhile (· = linefeed) w.out.toList = encode (dropEndWhile (· = '\n') text) := by
    rw [h.out]
    exact dropEndWhile_encode text
  rw [Writer.finish, hbytes, decoded]
  dsimp only
  cases dropEndWhile (· = '\n') text with
  | nil => rfl
  | cons c s =>
    rw [isEmpty_encode, if_neg Bool.false_ne_true, show [linefeed] = encode ['\n'] from rfl, ← encode_append, decode_encode]
    rfl

end Spells

end Writer

/-! ## Targets in a text -/

/-- How a target stands behind the text of a link or of an image, if no title follows and if one does. -/
def targetEnds (form : String) : List (List Char) :=
  [']' :: '(' :: (escape specialInTarget form.toList ++ [')']),
    ']' :: '(' :: (escape specialInTitledTarget form.toList ++ [' ', '"'])]

/-- A text has a link or an image with this target. -/
def Shows (text : List Char) (form : String) : Prop :=
  ∃ written ∈ targetEnds form, ∃ passage, Laid written passage ∧ passage <:+: text

theorem ends_of_mem_targetEnds {form : String} {written : List Char} (h : written ∈ targetEnds form) :
    ∃ s c, written = ']' :: (s ++ [c]) ∧ (c = ')' ∨ c = '"') := by
  simp only [targetEnds, List.mem_cons, List.not_mem_nil, or_false] at h
  rcases h with rfl | rfl
  · exact ⟨'(' :: escape specialInTarget form.toList, ')', rfl, .inl rfl⟩
  · exact ⟨'(' :: (escape specialInTitledTarget form.toList ++ [' ']), '"', by simp, .inr rfl⟩

/-- Also when it is laid out, a target stands between two characters that are neither blank nor a line break. -/
theorem Laid.ends {form : String} {written passage : List Char} (h : written ∈ targetEnds form)
    (hl : Laid written passage) : ∃ t c, passage = ']' :: (t ++ [c]) ∧ (c = ')' ∨ c = '"') := by
  obtain ⟨s, c, rfl, hc⟩ := ends_of_mem_targetEnds h
  obtain ⟨u, rfl, hu⟩ := hl.of_cons (by rintro (h | h) <;> cases h)
  obtain ⟨t, v, rfl, -, hv⟩ := hu.of_append
  obtain ⟨v, rfl, ⟨⟩⟩ := hv.of_cons (by rcases hc with rfl | rfl <;> rintro (h | h) <;> cases h)
  exact ⟨t, c, rfl, hc⟩

theorem shows_of_end {form : String} {written s : List Char} (h : written ∈ targetEnds form) (hs : written <:+: s) :
    Shows s form := ⟨written, h, written, .refl written, hs⟩

theorem part_dropWhile {α : Type} {p : α → Bool} {a : α} {l s : List α} (ha : p a = false) (h : a :: l <:+: s) :
    a :: l <:+: s.dropWhile p := by
  obtain ⟨before, after, rfl⟩ := h
  induction before with
  | nil =>
    rw [List.nil_append, List.cons_append, List.dropWhile_cons_of_neg (by simpa using ha)]
    exact ⟨[], after, rfl⟩
  | cons b before ih =>
    rw [List.cons_append, List.cons_append, List.dropWhile_cons]
    split
    · exact ih
    · exact ⟨b :: before, after, rfl⟩

theorem part_dropEndWhile {α : Type} {p : α → Bool} {a : α} {l s : List α} (ha : p a = false) (h : l ++ [a] <:+: s) :
    l ++ [a] <:+: dropEndWhile p s := by
  have hrev : a :: l.reverse <:+: s.reverse.dropWhile p :=
    part_dropWhile ha (by simpa using List.reverse_infix.2 h)
  simpa [dropEndWhile] using List.reverse_infix.2 hrev

namespace Shows

variable {s t : List Char} {form : String}

theorem mono (h : Shows s form) (hst : s <:+: t) : Shows t form := by
  obtain ⟨written, hw, passage, hl, hp⟩ := h
  exact ⟨written, hw, passage, hl, hp.trans hst⟩

theorem append_left (s : List Char) (h : Shows t form) : Shows (s ++ t) form := h.mono ⟨s, [], List.append_nil _⟩

theorem append_right (t : List Char) (h : Shows s form) : Shows (s ++ t) form := h.mono ⟨[], t, rfl⟩

theorem onOneLine (h : Shows s form) : Shows (Markdown.onOneLine s) form := by
  obtain ⟨written, hw, passage, hl, hp⟩ := h
  exact ⟨written, hw, _, hl.trans (Laid.onOneLine passage), hp.map _⟩

theorem dropWhile {p : Char → Bool} (hp : p ']' = false) (h : Shows s form) : Shows (s.dropWhile p) form := by
  obtain ⟨written, hw, passage, hl, hs⟩ := h
  obtain ⟨t, c, rfl, -⟩ := hl.ends hw
  exact ⟨written, hw, _, hl, part_dropWhile hp hs⟩

theorem dropEndWhile {p : Char → Bool} (hp : p ')' = false) (hp' : p '"' = false) (h : Shows s form) :
    Shows (dropEndWhile p s) form := by
  obtain ⟨written, hw, passage, hl, hs⟩ := h
  obtain ⟨t, c, rfl, hc⟩ := hl.ends hw
  have hpc : p c = false := by rcases hc with rfl | rfl <;> assumption
  exact ⟨written, hw, _, hl, part_dropEndWhile (l := ']' :: t) hpc hs⟩

theorem trimBlank (h : Shows s form) : Shows (trimBlank s) form :=
  (h.dropWhile (by decide)).dropEndWhile (by decide) (by decide)

end Shows

namespace Writer.Spells

variable {w : Writer} {text : List Char}

theorem unique {other : List Char} (h : w.Spells text) (h' : w.Spells other) : text = other :=
  Except.ok.inj (h.text_eq.symm.trans h'.text_eq)

/-- **What a text shows is shown when it is written.** -/
theorem write_shows (h : w.Spells text) (s : List Char) :
    ∃ more, (w.write s).Spells (text ++ more) ∧ ∀ form, Shows s form → Shows more form := by
  obtain ⟨more, hmore⟩ := h.write s
  refine ⟨more, hmore, fun form ⟨written, hw, passage, hl, hp⟩ => ?_⟩
  obtain ⟨t, c, rfl, -⟩ := hl.ends hw
  obtain ⟨more', laid, h', hl', hpart⟩ := h.write_passage (c := ']') (by decide) hp
  rw [List.append_cancel_left (hmore.unique h')]
  exact ⟨written, hw, laid, hl.trans hl', hpart⟩

/-- **What a writer shows is shown when it is finished.** -/
theorem finish_shows (h : w.Spells text) :
    ∃ finished, w.finish = .ok finished ∧ ∀ form, Shows text form → Shows finished form := by
  refine ⟨_, h.finish_eq, fun form hform => ?_⟩
  have hlines := hform.dropEndWhile (p := fun c => c = '\n') rfl rfl
  dsimp only
  cases hd : Text.dropEndWhile (· = '\n') text with
  | nil =>
    rw [hd] at hlines
    exact hlines
  | cons c s =>
    rw [hd] at hlines
    exact hlines.mono ⟨[], ['\n'], rfl⟩

end Writer.Spells

end BlogMarkdown.Markdown
