import BlogMarkdown.Proofs.Shortcode.Entries
/-!
# Attribute texts are covered

Any text at all is read as attributes, and nothing of it is lost: it is parted into spans with only blanks between them,
one for each pair that is read, and each span is the spelling of its entry.  What is no entry with a key and no value in
double quotes is a word, which goes on up to the next blank.
-/
namespace BlogMarkdown.Shortcode.Attributes

open Text (span_eq_iff)

/-! ## What a span spells -/

namespace Entry

/-- **An entry is spelled in front of `rest`**: a word is any run of characters up to a blank, but only where no other
entry stands. -/
def Spelled : Entry → List Char → Prop
  | word value, rest => value ≠ [] ∧ (∀ c ∈ value, isSpace c = false) ∧ Stops rest ∧
      ∀ (e : Entry) rest', value ++ rest = e.text ++ rest' → ¬ e.Heads rest'
  | e, rest => e.Heads rest

theorem Heads.spelled {e : Entry} {rest : List Char} (h : e.Heads rest) : e.Spelled rest := by
  cases e with
  | word value => exact h.elim
  | _ => exact h

end Entry

/-! ## What is read is spelled -/

theorem quotedValue?_eq_some_iff {quote : Char} {text value rest : List Char} :
    quotedValue? quote text = some (value, rest) ↔ text = quote :: (value ++ quote :: rest) ∧ quote ∉ value := by
  constructor
  · intro h
    cases text with
    | nil => cases h
    | cons c text =>
      rw [quotedValue?] at h
      split at h
      · cases h
      · rename_i hc
        split at h
        · rename_i d rest' hspan
          obtain ⟨rfl, hvalue, hd⟩ := span_eq_iff.1 hspan
          cases h
          have hd : d = quote := by simpa using hd d rfl
          rw [not_not.1 hc, hd]
          exact ⟨rfl, fun hmem => by simpa using hvalue quote hmem⟩
        · cases h
  · rintro ⟨rfl, h⟩
    exact quotedValue?_append h rest

/-- **A value** is in closed quotes, or it has no quotes and goes on up to a blank or a quote. -/
theorem value?_eq_some {text value rest : List Char} (h : value? text = some (value, rest)) :
    (∃ quote, isQuote quote = true ∧ quote ∉ value ∧ text = quote :: (value ++ quote :: rest)) ∨
      (Entry.IsBare value ∧ text = value ++ rest ∧ ∀ c ∈ rest.head?, isSpace c = true ∨ isQuote c = true) := by
  cases text with
  | nil => cases h
  | cons c text =>
    unfold value? at h
    dsimp only at h
    split at h
    · rename_i hquoted
      cases h
      split at hquoted
      · rename_i hquote
        obtain ⟨htext, hvalue⟩ := quotedValue?_eq_some_iff.1 hquoted
        exact .inl ⟨c, hquote, hvalue, htext⟩
      · cases hquoted
    · split at h
      · cases h
      · rename_i hne
        obtain ⟨htext, hvalue, hstop⟩ := span_eq_iff.1 (Option.some.inj h)
        rw [Option.some.inj h] at hne
        refine .inr ⟨⟨by simpa using hne, fun d hd => by simpa using hvalue d hd⟩, htext, fun d hd => ?_⟩
        have hd := hstop d hd
        simp only [Bool.and_eq_false_iff, Bool.not_eq_false'] at hd
        exact hd

theorem pair?_eq_some {text key value rest : List Char} (h : pair? text = some (key, value, rest)) :
    ∃ e : Entry, e.key? = some key ∧ e.value = value ∧ text = e.text ++ rest ∧ e.Heads rest := by
  rw [pair?] at h
  split at h
  · rename_i key' behind hspan
    split at h
    · cases h
    · rename_i hne
      obtain ⟨⟨value', rest'⟩, hvalue, hpair⟩ := Option.map_eq_some_iff.1 h
      cases hpair
      obtain ⟨htext, hword, -⟩ := span_eq_iff.1 hspan
      have hkey : Entry.IsKey key := ⟨by simpa using hne, hword⟩
      rcases value?_eq_some hvalue with ⟨quote, hquote, hfree, rfl⟩ | ⟨hbare, rfl, hstop⟩
      · refine ⟨.enclosed key value quote, rfl, rfl, ?_, hkey, hquote, hfree⟩
        rw [htext, Entry.text, List.append_assoc, List.cons_append, List.cons_append, List.append_assoc,
          List.singleton_append]
      · refine ⟨.plain key value, rfl, rfl, ?_, hkey, hbare, hstop⟩
        rw [htext, Entry.text, List.append_assoc, List.cons_append]
  · cases h

/-! ## What is spelled is read -/

theorem Entry.Heads.fits {e : Entry} {rest : List Char} (h : e.Heads rest) : e.Fits := by
  cases e with
  | enclosed key value quote => exact h
  | plain key value => exact ⟨h.1, h.2.1⟩
  | quoted value => exact h
  | word value => exact h.elim

theorem Entry.Heads.isRead {e : Entry} {rest : List Char} (h : e.Heads rest) : e.IsRead rest where
  begins := exists_text_eq h.fits
  pair := h.pair
  positional hkey := by
    cases e with
    | enclosed key value quote => cases hkey
    | plain key value => cases hkey
    | quoted value =>
      have hfree : '"' ∉ value := h
      rw [Entry.text, List.cons_append, List.append_assoc, List.singleton_append, positional,
        quotedValue?_append hfree rest]
      rfl
    | word value => exact h.elim

/-- No other entry stands in front of a text: there is no pair, and no value in double quotes. -/
theorem forall_not_heads_iff {text : List Char} :
    (∀ (e : Entry) rest, text = e.text ++ rest → ¬ e.Heads rest) ↔
      pair? text = none ∧ quotedValue? '"' text = none := by
  constructor
  · intro h
    constructor
    · cases hpair : pair? text with
      | none => rfl
      | some found =>
        obtain ⟨key, value, rest⟩ := found
        obtain ⟨e, -, -, htext, he⟩ := pair?_eq_some hpair
        exact absurd he (h e rest htext)
    · cases hquoted : quotedValue? '"' text with
      | none => rfl
      | some found =>
        obtain ⟨value, rest⟩ := found
        obtain ⟨htext, hvalue⟩ := quotedValue?_eq_some_iff.1 hquoted
        refine absurd hvalue (h (.quoted value) rest ?_)
        rw [htext, Entry.text, List.cons_append, List.append_assoc, List.singleton_append]
  · rintro ⟨hpair, hquoted⟩ e rest rfl he
    have hread := he.pair
    rw [hpair] at hread
    have hkey : e.key? = none := by simpa using hread.symm
    cases e with
    | enclosed key value quote => cases hkey
    | plain key value => cases hkey
    | quoted value =>
      rw [Entry.text, List.cons_append, List.append_assoc, List.singleton_append, quotedValue?_append he] at hquoted
      cases hquoted
    | word value => exact he

theorem Entry.Spelled.isRead {e : Entry} {rest : List Char} (h : e.Spelled rest) : e.IsRead rest := by
  cases e with
  | word value =>
    obtain ⟨hne, hvalue, hrest, hother⟩ := h
    obtain ⟨hpair, hquoted⟩ := forall_not_heads_iff.1 hother
    have hspan : (value ++ rest).span (fun c => !isSpace c) = (value, rest) :=
      span_eq_iff.2 ⟨rfl, fun c hc => by rw [hvalue c hc]; rfl, fun c hc => by rw [hrest c hc]; rfl⟩
    obtain ⟨c, value, rfl⟩ := List.exists_cons_of_ne_nil hne
    refine ⟨⟨c, value, rfl, hvalue c List.mem_cons_self⟩, hpair, fun _ => ?_⟩
    rw [Entry.text, positional, hquoted, hspan]
    rfl
  | enclosed key value quote => exact Entry.Heads.isRead (e := .enclosed key value quote) h
  | plain key value => exact Entry.Heads.isRead (e := .plain key value) h
  | quoted value => exact Entry.Heads.isRead (e := .quoted value) h

/-! ## Every text is spelled -/

/-- **Some entry is spelled at the front of every text** that does not begin with a blank. -/
theorem exists_spelled {c : Char} (hc : isSpace c = false) (s : List Char) :
    ∃ (e : Entry) (rest : List Char), c :: s = e.text ++ rest ∧ e.Spelled rest := by
  by_cases hother : ∀ (e : Entry) rest, c :: s = e.text ++ rest → ¬ e.Heads rest
  · -- nothing but a word stands here, and it goes on up to the next blank
    obtain ⟨value, rest, hspan⟩ : ∃ value rest, (c :: s).span (fun c => !isSpace c) = (value, rest) := ⟨_, _, rfl⟩
    obtain ⟨htext, hvalue, hrest⟩ := span_eq_iff.1 hspan
    refine ⟨.word value, rest, htext, ?_, fun d hd => by simpa using hvalue d hd, fun d hd => by simpa using hrest d hd,
      htext ▸ hother⟩
    rintro rfl
    rw [List.nil_append] at htext
    subst htext
    simpa [hc] using hrest c rfl
  · simp only [not_forall, not_not] at hother
    obtain ⟨e, rest, htext, he⟩ := hother
    exact ⟨e, rest, htext, he.spelled⟩

/-- **Every text is covered** by the spans of entries that are spelled in it, with blanks between them. -/
theorem exists_covering (text : List Char) : ∃ (lead : List Char) (spans : List (Entry × List Char)),
    text = lead ++ written spans ∧ AllBlank lead ∧ EachBefore Entry.Spelled spans := by
  induction hn : text.length using Nat.strongRecOn generalizing text with
  | ind n ih =>
    subst hn
    obtain ⟨lead, rest, hspan⟩ : ∃ lead rest, text.span isSpace = (lead, rest) := ⟨_, _, rfl⟩
    obtain ⟨rfl, hlead, hrest⟩ := span_eq_iff.1 hspan
    cases rest with
    | nil => exact ⟨lead, [], rfl, hlead, trivial⟩
    | cons c s =>
      obtain ⟨e, rest, htext, he⟩ := exists_spelled (hrest c rfl) s
      obtain ⟨d, s', hbegin, -⟩ := he.isRead.begins
      have hlen : rest.length < (lead ++ c :: s).length := by
        rw [htext, hbegin, List.length_append, List.length_append, List.length_cons]
        omega
      obtain ⟨blanks, spans, rfl, hblanks, hspans⟩ := ih rest.length hlen rest rfl
      exact ⟨lead, (e, blanks) :: spans, by rw [htext, written_cons], hlead, he, hblanks, hspans⟩

/-! ## The place of a character -/

/-- The `i`-th character of a covered text belongs to the `k`-th span. -/
def InSpan (lead : List Char) (spans : List (Entry × List Char)) (i k : Nat) : Prop :=
  ∃ span ∈ spans[k]?, (lead ++ written (spans.take k)).length ≤ i ∧
    i < (lead ++ written (spans.take k)).length + span.1.text.length

theorem inSpan_zero {lead : List Char} {span : Entry × List Char} {spans : List (Entry × List Char)} {i : Nat} :
    InSpan lead (span :: spans) i 0 ↔ lead.length ≤ i ∧ i < lead.length + span.1.text.length := by
  simp [InSpan, written]

theorem inSpan_succ {lead : List Char} {span : Entry × List Char} {spans : List (Entry × List Char)} {i k : Nat} :
    InSpan lead (span :: spans) i (k + 1) ↔ InSpan (lead ++ (span.1.text ++ span.2)) spans i k := by
  unfold InSpan
  rw [List.take_succ_cons, List.getElem?_cons_succ, written_cons]
  simp only [List.append_assoc]

/-- **A character that is no blank belongs to exactly one span**, if it is behind the blanks in front. -/
theorem existsUnique_inSpan {R : Entry → List Char → Prop} {c : Char} (hc : isSpace c = false) :
    ∀ {spans : List (Entry × List Char)} {lead : List Char} {i : Nat}, EachBefore R spans → lead.length ≤ i →
      (lead ++ written spans)[i]? = some c → ∃! k, InSpan lead spans i k
  | [], lead, i, _, hlead, hi => by
    have hlt := (List.getElem?_eq_some_iff.1 hi).1
    rw [written, List.flatMap_nil, List.append_nil] at hlt
    exact absurd hlt (Nat.not_lt.2 hlead)
  | span :: spans, lead, i, ⟨_, hblank, hspans⟩, hlead, hi => by
    by_cases hin : i < lead.length + span.1.text.length
    · refine ⟨0, inSpan_zero.2 ⟨hlead, hin⟩, fun k hk => ?_⟩
      cases k with
      | zero => rfl
      | succ k =>
        -- the later spans begin behind this one
        obtain ⟨_, -, hle, -⟩ := inSpan_succ.1 hk
        simp only [List.length_append] at hle
        omega
    · have hbehind : (lead ++ (span.1.text ++ span.2)).length ≤ i := by
        by_contra hlt
        -- a character right behind the span is one of the blanks there
        have hmem : c ∈ span.2 := by
          rw [written_cons, List.getElem?_append_right hlead, List.getElem?_append_right (by omega)] at hi
          simp only [List.length_append] at hlt
          rw [List.getElem?_append_left (by omega)] at hi
          exact List.mem_of_getElem? hi
        rw [hblank c hmem] at hc
        cases hc
      have hi' : (lead ++ (span.1.text ++ span.2) ++ written spans)[i]? = some c := by
        rw [← hi, written_cons]
        simp only [List.append_assoc]
      obtain ⟨k, hk, hunique⟩ := existsUnique_inSpan hc hspans hbehind hi'
      refine ⟨k + 1, inSpan_succ.2 hk, fun k' hk' => ?_⟩
      cases k' with
      | zero => exact absurd (inSpan_zero.1 hk').2 hin
      | succ k' => rw [hunique k' (inSpan_succ.1 hk')]

theorem Entry.Spelled.head?_key_ne {e : Entry} {rest : List Char} (h : e.Spelled rest) :
    ∀ key ∈ e.key?, key.head? ≠ some '@' := by
  -- a key is made of word characters, and the sign is none
  have hat {key : List Char} (hkey : Entry.IsKey key) : key.head? ≠ some '@' := fun hhead =>
    absurd (hkey.2 '@' (List.mem_of_head? hhead)) (by decide)
  intro key hmem
  cases e with
  | enclosed key' value quote => exact Option.some.inj hmem ▸ hat h.1
  | plain key' value => exact Option.some.inj hmem ▸ hat h.1
  | quoted value => cases hmem
  | word value => cases hmem

theorem EachBefore.forall_mem {R : Entry → List Char → Prop} : ∀ {spans : List (Entry × List Char)},
    EachBefore R spans → ∀ span ∈ spans, ∃ rest, R span.1 rest
  | [], _, _, hmem => by cases hmem
  | span :: spans, ⟨hspan, _, hspans⟩, span', hmem => by
    rcases List.mem_cons.1 hmem with rfl | hmem
    · exact ⟨_, hspan⟩
    · exact hspans.forall_mem span' hmem

/-- **Reading attributes loses nothing**, whatever the text.  The text consists of spans with blanks between them, one
for each pair in order, each the spelling of its pair; a character that is no blank belongs to exactly one of them.
Values without a key are numbered from 0 on, and no key begins as theirs do.  The reading ends: the bound on its steps
is never reached. -/
theorem covering_of_parse (text : List Char) : ∃ (lead : List Char) (spans : List (Entry × List Char)),
    text = lead ++ spans.flatMap (fun span => span.1.text ++ span.2) ∧ AllBlank lead ∧ EachBefore Entry.Spelled spans ∧
      (parse text = (spans.map Prod.fst).mapIdx fun i e =>
        (e.key?.getD (positionalKey (((spans.map Prod.fst).take i).countP (·.key?.isNone))), e.value)) ∧
      (∀ span ∈ spans, ∀ key ∈ span.1.key?, key.head? ≠ some '@') ∧
      (∀ i c, text[i]? = some c → isSpace c = false → ∃! k, InSpan lead spans i k) ∧
      ∀ steps, text.length < steps → entries steps 0 text = parse text := by
  obtain ⟨lead, spans, rfl, hlead, hspans⟩ := exists_covering text
  have hread : EachBefore Entry.IsRead spans := hspans.imp fun _ _ => Entry.Spelled.isRead
  have hentries {steps : Nat} (hsteps : (lead ++ written spans).length < steps) :
      entries steps 0 (lead ++ written spans) = pairsFrom 0 (spans.map Prod.fst) := by
    have hle : spans.length ≤ (written spans).length := by
      refine length_le_of_ne_nil fun span hmem => ?_
      obtain ⟨rest, ⟨c, s, htext, -⟩, -, -⟩ := hread.forall_mem span hmem
      rw [htext]
      exact List.cons_ne_nil c s
    rw [List.length_append] at hsteps
    exact entries_each hread hlead (by omega) 0
  have hparse : parse (lead ++ written spans) = pairsFrom 0 (spans.map Prod.fst) := hentries (Nat.lt_succ_self _)
  refine ⟨lead, spans, rfl, hlead, hspans, ?_, fun span hmem => ?_, fun i c hi hc => ?_, fun steps hsteps => ?_⟩
  · rw [hparse, pairsFrom]
    simp only [Nat.zero_add]
  · obtain ⟨rest, hspan⟩ := hspans.forall_mem span hmem
    exact hspan.head?_key_ne
  · have hbehind : lead.length ≤ i := by
      by_contra hlt
      rw [List.getElem?_append_left (by omega)] at hi
      rw [hlead c (List.mem_of_getElem? hi)] at hc
      cases hc
    exact existsUnique_inSpan hc hspans hbehind hi
  · rw [hentries hsteps, hparse]

/-- Quotes that are not closed, a quote behind a value, and no blank between two entries. -/
example : parse "f=g'hi \"a\"b= c=\"d".toList = [("f".toList, "g".toList), ("@0".toList, "'hi".toList),
    ("@1".toList, ['a']), ("@2".toList, "b=".toList), ("@3".toList, "c=\"d".toList)] := by decide

end BlogMarkdown.Shortcode.Attributes
