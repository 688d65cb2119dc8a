import BlogMarkdown.Proofs.Shortcode.TextOffsets
/-!
# Offsets of spans

The dollar sign that ends a span is searched byte by byte, and the span is cut out of the text node at the offset of its
marker and the one behind the sign.  Whatever the text, each cut is between characters, and the search and the chain of
texts that are cut off end.
-/
namespace BlogMarkdown.Shortcode

open Dom
open Text (Stuck Guarded Rest slice bytesFrom)
open Text.Utf8 (encode encode_cons byteLength byteLength_append byteLength_cons)

/-! ## The end of a span -/

/-- Where a span ends; a dollar sign behind a backslash does not end it. -/
def formulaEndAt (bytes : List UInt8) : Nat → Nat → Guarded (Option Nat)
  | 0, _ => .error .steps
  | steps + 1, i =>
    match bytes[i]? with
    | none => .ok none
    | some b =>
      if b = '\\'.toUInt8 ∧ bytes[i + 1]? = some '$'.toUInt8 then formulaEndAt bytes steps (i + 2)
      else if b = '$'.toUInt8 then .ok (some i)
      else formulaEndAt bytes steps (i + 1)

/-- The search goes over bytes that are neither a backslash nor a dollar sign. -/
theorem formulaEndAt_skip {bytes : List UInt8} : ∀ {skipped rest : List UInt8} {steps i : Nat},
    bytes.drop i = skipped ++ rest → (∀ b ∈ skipped, b ≠ '\\'.toUInt8 ∧ b ≠ '$'.toUInt8) →
    formulaEndAt bytes (skipped.length + steps) i = formulaEndAt bytes steps (i + skipped.length)
  | [], rest, steps, i, _, _ => by rw [List.length_nil, Nat.zero_add, Nat.add_zero]
  | b :: skipped, rest, steps, i, hdrop, h => by
    obtain ⟨hb, hskipped⟩ := List.forall_mem_cons.1 h
    have hget : bytes[i]? = some b := by rw [← List.head?_drop, hdrop]; rfl
    have hdrop' : bytes.drop (i + 1) = skipped ++ rest := by rw [← List.drop_drop, hdrop]; rfl
    have hgo :
        formulaEndAt bytes (skipped.length + steps) (i + 1) = formulaEndAt bytes steps (i + 1 + skipped.length) :=
      formulaEndAt_skip hdrop' hskipped
    rw [List.length_cons, Nat.succ_add_eq_add_succ, Nat.add_succ, formulaEndAt, hget]
    dsimp only
    rw [if_neg fun he => hb.1 he.1, if_neg hb.2, hgo, Nat.add_right_comm]
    rfl

theorem formulaEndAt_cons {text rest : List Char} {c : Char} {steps i : Nat} (h : Rest text i (c :: rest))
    (hc : c.toNat < 0x80) :
    formulaEndAt (encode text) (steps + 1) i =
      if c = '\\' ∧ rest.head? = some '$' then formulaEndAt (encode text) steps (i + 2)
      else if c = '$' then .ok (some i)
      else formulaEndAt (encode text) steps (i + 1) := by
  have hbyte {d : Char} (hd : d.toNat < 0x80) : c.toUInt8 = d.toUInt8 ↔ c = d := by
    have hhead := Text.head?_encode hd [c]
    rw [Text.encode_ascii_cons hc, List.head?_cons, List.head?_cons, Option.some.injEq, Option.some.injEq] at hhead
    exact hhead
  rw [formulaEndAt, h.getElem?, Text.encode_ascii_cons hc, List.head?_cons, (h.cons hc).getElem?]
  simp only [hbyte (show '\\'.toNat < 0x80 by decide), hbyte (show '$'.toNat < 0x80 by decide),
    Text.head?_encode (show '$'.toNat < 0x80 by decide)]

/-- Bytes of other characters are passed. -/
theorem formulaEndAt_other {text rest : List Char} {c : Char} {steps i : Nat} (h : Rest text i (c :: rest))
    (hslash : c ≠ '\\') (hdollar : c ≠ '$') :
    formulaEndAt (encode text) (c.utf8Size + steps) i = formulaEndAt (encode text) steps (i + c.utf8Size) := by
  have hdrop : (encode text).drop i = String.utf8EncodeChar c ++ encode rest := by
    rw [Text.drop_encode h, encode_cons]
  have hbyte {d : Char} (hd : d.toNat < 0x80) (hne : c ≠ d) : ∀ b ∈ String.utf8EncodeChar c, b ≠ d.toUInt8 := by
    rintro b hb rfl
    have hmem : d.toUInt8 ∈ encode [c] := List.mem_append_left _ hb
    exact hne (List.mem_singleton.1 ((Text.mem_encode hd [c]).1 hmem)).symm
  rw [← String.length_utf8EncodeChar]
  exact formulaEndAt_skip hdrop fun b hb => ⟨hbyte (by decide) hslash b hb, hbyte (by decide) hdollar b hb⟩

/-- **The end of a span is found by its bytes as by its characters.** -/
theorem formulaEndAt_eq {text rest : List Char} : ∀ {steps i : Nat}, Rest text i rest → byteLength rest < steps →
    formulaEndAt (encode text) steps i = .ok ((splitFormula? rest).map fun p => i + byteLength p.1) := by
  -- what is left of the formula begins behind what the search has passed
  have hgo (found : Option (List Char × List Char)) (i : Nat) (passed : List Char) :
      (found.map fun p => i + byteLength passed + byteLength p.1) =
        (found.map fun p => (passed ++ p.1, p.2)).map fun p => i + byteLength p.1 := by
    cases found with
    | none => rfl
    | some p => rw [Option.map_some, Option.map_some, Option.map_some, byteLength_append, Nat.add_assoc]
  fun_induction splitFormula? rest with
  | case1 =>
    intro steps i h hsteps
    obtain ⟨steps, rfl⟩ := Nat.exists_eq_add_one_of_ne_zero (Nat.ne_of_gt hsteps)
    rw [formulaEndAt, h.getElem?]
    rfl
  | case2 rest ih =>
    intro steps i h hsteps
    obtain ⟨steps, rfl⟩ := Nat.exists_eq_add_one_of_ne_zero (Nat.ne_of_gt (Nat.zero_lt_of_lt hsteps))
    have hlt : byteLength rest < steps := by
      rw [byteLength_cons, byteLength_cons, Text.byteLength_ascii (by decide)] at hsteps
      omega
    rw [formulaEndAt_cons h (by decide), if_pos ⟨rfl, rfl⟩, ih ((h.cons (by decide)).cons (by decide)) hlt]
    exact congrArg Except.ok (hgo _ i ['\\', '$'])
  | case3 rest =>
    intro steps i h hsteps
    obtain ⟨steps, rfl⟩ := Nat.exists_eq_add_one_of_ne_zero (Nat.ne_of_gt (Nat.zero_lt_of_lt hsteps))
    rw [formulaEndAt_cons h (by decide), if_neg (by simp), if_pos rfl]
    rfl
  | case4 c rest hslash hdollar ih =>
    intro steps i h hsteps
    rw [byteLength_cons] at hsteps
    have hnext : formulaEndAt (encode text) steps i =
        formulaEndAt (encode text) (steps - c.utf8Size) (i + c.utf8Size) := by
      by_cases hc : c = '\\'
      · subst hc
        obtain ⟨steps, rfl⟩ := Nat.exists_eq_add_one_of_ne_zero (Nat.ne_of_gt (Nat.zero_lt_of_lt hsteps))
        rw [formulaEndAt_cons h (by decide), if_neg ?_, if_neg hdollar, Text.byteLength_ascii (by decide)]
        · rfl
        · rintro ⟨-, hhead⟩
          obtain ⟨after, rfl⟩ := List.head?_eq_some_iff.1 hhead
          exact hslash after rfl rfl
      · have hother : formulaEndAt (encode text) (c.utf8Size + (steps - c.utf8Size)) i = _ :=
          formulaEndAt_other h hc hdollar
        rwa [Nat.add_sub_cancel' (by omega)] at hother
    have hrest : Rest text (i + c.utf8Size) rest := by
      have hpassed : Rest text (i + byteLength [c]) rest := Rest.append h
      exact hpassed
    rw [hnext, ih hrest (by omega)]
    exact congrArg Except.ok (hgo _ i [c])

/-! ## Cutting a span out -/

/-- The first span of a text: where it begins, where it ends, and its formula. -/
def spanAt (limit : Nat) (text : List Char) : Guarded (Option (Nat × Nat × List Char)) :=
  match Text.wordAt mathMarker text with
  | none => pure none
  | some start => do
    let formulaStart := start + byteLength mathMarker
    let bytes ← bytesFrom (encode text) formulaStart
    match ← formulaEndAt bytes limit 0 with
    | none => pure none
    | some length =>
      let formula ← slice text formulaStart (formulaStart + length)
      pure (some (start, formulaStart + length + 1, formula))

theorem spanAt_eq {limit : Nat} {text : List Char} (hlimit : byteLength text < limit) :
    spanAt limit text = .ok ((findMath? text).map fun p =>
      (byteLength p.1, byteLength (p.1 ++ spanSource p.2.1), p.2.1)) := by
  unfold spanAt findMath? Text.wordAt
  cases hsplit : Text.splitAtWord? mathMarker text with
  | none => rfl
  | some found =>
    obtain ⟨before, rest⟩ := found
    have htext := (Text.splitAtWord?_eq_some hsplit).eq
    have hrest : Rest text (byteLength before + byteLength mathMarker) rest :=
      ⟨before ++ mathMarker, htext, (byteLength_append ..).symm⟩
    have hlt : byteLength rest < limit := by
      rw [htext, byteLength_append] at hlimit
      omega
    have hend := formulaEndAt_eq (Text.rest_zero rest) hlt
    rw [Option.map_some]
    dsimp only [bind, Except.bind]
    rw [hrest.bytesFrom]
    dsimp only
    rw [hend]
    cases hformula : splitFormula? rest with
    | none => rfl
    | some parts =>
      obtain ⟨formula, after⟩ := parts
      obtain ⟨rfl, -, -⟩ := splitFormula?_eq_some hformula
      have hstop : byteLength (before ++ spanSource formula) =
          byteLength before + byteLength mathMarker + byteLength formula + 1 := by
        rw [spanSource, byteLength_append, byteLength_concat (by decide), byteLength_append]
        omega
      rw [Option.map_some, Option.map_some, Option.map_some, hstop]
      dsimp only
      rw [Nat.zero_add, hrest.slice]
      rfl

/-- Cuts the first span out of a text node.  Returns the text behind it. -/
def cutMathAt (limit : Nat) (s : Store) (node : NodeId) : Guarded (Store × Option NodeId) :=
  match s.text? node with
  | none => pure (s, none)
  | some text => do
    match ← spanAt limit text with
    | none => pure (s, none)
    | some (start, stop, formula) =>
      let (s, tail) ← splitTextAt s node start stop
      let (s, element) := s.create mathData
      let (s, inner) := s.create (.text formula)
      let s := s.append (some element) (some inner)
      pure (s.insertAfter (some node) (some element), some tail)

/-- **A span is cut out by offsets as by characters.** -/
theorem cutMathAt_eq {limit : Nat} {s : Store} {node : NodeId} (hlimit : byteLength ((s.text? node).getD []) < limit) :
    cutMathAt limit s node = .ok (cutMath s node) := by
  unfold cutMathAt
  cases htext : s.text? node with
  | none =>
    have hfind : findMath? ((s.text? node).getD []) = none := by
      rw [htext]
      rfl
    rw [cutMath_none hfind]
    rfl
  | some text =>
    rw [htext, Option.getD_some] at hlimit
    dsimp only [bind, Except.bind]
    rw [spanAt_eq hlimit]
    cases hfind : findMath? text with
    | none =>
      have hnone : findMath? ((s.text? node).getD []) = none := by rw [htext, Option.getD_some, hfind]
      rw [cutMath_none hnone]
      rfl
    | some found =>
      obtain ⟨before, formula, after⟩ := found
      have hsome : findMath? ((s.text? node).getD []) = some (before, formula, after) := by
        rw [htext, Option.getD_some, hfind]
      have hcut := eq_spanSource_of_findMath? hfind
      rw [cutMath_some hsome]
      dsimp only [Option.map_some]
      rw [splitTextAt_eq (hcut ▸ htext)]
      rfl

/-- Cuts the spans out of a text node and of the texts that are cut off behind them.  Returns the node behind the last
of these texts. -/
def rewriteMathTextAt (limit : Nat) : Nat → Store → NodeId → Guarded (Store × Option NodeId)
  | 0, _, _ => .error .steps
  | steps + 1, s, node => do
    match ← cutMathAt limit s node with
    | (s, none) => pure (s, s.nextSibling node)
    | (s, some tail) => rewriteMathTextAt limit steps s tail

end BlogMarkdown.Shortcode
