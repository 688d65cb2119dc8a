import BlogMarkdown.Proofs.Text.Utf8
import BlogMarkdown.Text.Search
import Mathlib.Data.List.Infix
import Mathlib.Data.List.TakeWhile
/-!
# Offsets into a text

A text that is stored as its bytes is searched byte by byte and cut at byte offsets.  Such a computation is guarded: it
gets stuck at an offset that is not between two characters, at an index behind the last byte, and in a loop that has not
ended when its bound is reached.

What is known of an offset is the text that stands there (`Rest`).  A byte of ASCII is a character by itself wherever
it stands, so a search for one, and a run of bytes of some kind, end between characters again.
-/
namespace BlogMarkdown.Text

open Utf8

/-- Why a guarded computation gets stuck. -/
inductive Stuck where
  /-- A cut at two offsets out of order, or at one that is not between characters. -/
  | cut
  /-- A byte that is not there. -/
  | index
  /-- A loop that goes on when its bound is reached. -/
  | steps
  deriving Repr, DecidableEq

abbrev Guarded := Except Stuck

/-! ## Cutting -/

/-- **An offset between two characters**, or at an end of the text. -/
def IsBoundary (text : List Char) (offset : Nat) : Prop := byteLength (takeBytes offset text) = offset

instance (text : List Char) (offset : Nat) : Decidable (IsBoundary text offset) :=
  inferInstanceAs (Decidable (byteLength (takeBytes offset text) = offset))

/-- The part of a text between two offsets. -/
def slice (text : List Char) (start stop : Nat) : Guarded (List Char) :=
  if start ≤ stop ∧ IsBoundary text start ∧ IsBoundary text stop then
    .ok (takeBytes (stop - start) (dropBytes start text))
  else .error .cut

/-- The part of a text behind an offset. -/
def sliceFrom (text : List Char) (start : Nat) : Guarded (List Char) := slice text start (byteLength text)

/-- The part of a text before an offset; a text that is shorter stays as it is. -/
def truncate (text : List Char) (stop : Nat) : Guarded (List Char) :=
  if byteLength text < stop then .ok text else slice text 0 stop

/-- A text with another part between two offsets. -/
def replaceRange (text : List Char) (start stop : Nat) (new : List Char) : Guarded (List Char) := do
  let _ ← slice text start stop
  let before ← slice text 0 start
  let after ← sliceFrom text stop
  pure (before ++ new ++ after)

/-! ## Searching -/

def byteAt (bytes : List UInt8) (i : Nat) : Guarded UInt8 :=
  match bytes[i]? with
  | some b => .ok b
  | none => .error .index

/-- The bytes from an offset on. -/
def bytesFrom (bytes : List UInt8) (start : Nat) : Guarded (List UInt8) :=
  if start ≤ bytes.length then .ok (bytes.drop start) else .error .index

/-- Where a byte occurs first. -/
def findByte (b : UInt8) (bytes : List UInt8) : Option Nat := bytes.findIdx? (· == b)

/-- Where a run of bytes of one kind ends, if it begins at `start`. -/
def runEnd (p : Char → Bool) (bytes : List UInt8) (start : Nat) : Nat :=
  start + ((bytes.drop start).takeWhile fun b => p (.ofUInt8 b)).length

/-- Where a word occurs first. -/
def wordAt (word text : List Char) : Option Nat := (splitAtWord? word text).map fun parts => byteLength parts.1

/-! ## What stands at an offset -/

/-- **The text from an offset on is `rest`**, and the offset is between characters. -/
def Rest (text : List Char) (offset : Nat) (rest : List Char) : Prop :=
  ∃ before, text = before ++ rest ∧ offset = byteLength before

variable {text rest part before : List Char} {offset start stop : Nat}

theorem rest_zero (text : List Char) : Rest text 0 text := ⟨[], rfl, rfl⟩

theorem rest_append (before rest : List Char) : Rest (before ++ rest) (byteLength before) rest := ⟨before, rfl, rfl⟩

theorem Rest.append (h : Rest text offset (part ++ rest)) : Rest text (offset + byteLength part) rest := by
  obtain ⟨before, rfl, rfl⟩ := h
  exact ⟨before ++ part, (List.append_assoc ..).symm, (byteLength_append ..).symm⟩

theorem byteLength_ascii {c : Char} (hc : c.toNat < 0x80) : c.utf8Size = 1 :=
  (String.length_utf8EncodeChar c).symm.trans (congrArg List.length (utf8EncodeChar_ascii hc))

theorem Rest.cons {c : Char} (h : Rest text offset (c :: rest)) (hc : c.toNat < 0x80) :
    Rest text (offset + 1) rest := by
  have hnext : Rest text (offset + byteLength [c]) rest := Rest.append h
  rwa [byteLength_cons, byteLength_ascii hc] at hnext

theorem isBoundary_iff : IsBoundary text offset ↔ ∃ rest, Rest text offset rest := by
  constructor
  · exact fun h => ⟨_, _, (takeBytes_append_dropBytes offset text).symm, h.symm⟩
  · rintro ⟨rest, before, rfl, rfl⟩
    exact congrArg byteLength (takeBytes_byteLength_append before rest)

theorem byteLength_eq_zero_iff : byteLength text = 0 ↔ text = [] := by
  cases text with
  | nil => exact iff_of_true rfl rfl
  | cons c text => exact iff_of_false (by have := c.utf8Size_pos; rw [byteLength_cons]; omega) (List.cons_ne_nil c text)

theorem length_le_byteLength : ∀ text : List Char, text.length ≤ byteLength text
  | [] => Nat.le_refl _
  | c :: text => by
    have hc := c.utf8Size_pos
    have hle := length_le_byteLength text
    rw [byteLength_cons, List.length_cons]
    omega

/-- Of two offsets between characters the smaller one is the end of the shorter beginning. -/
theorem prefix_of_byteLength_le {u v : List Char} (hu : u <+: text) (hv : v <+: text)
    (hle : byteLength u ≤ byteLength v) : u <+: v := by
  rcases List.prefix_or_prefix_of_prefix hu hv with h | ⟨more, rfl⟩
  · exact h
  · rw [byteLength_append] at hle
    rw [byteLength_eq_zero_iff.1 (show byteLength more = 0 by omega), List.append_nil]

/-- **A cut succeeds exactly at the two ends of a slice.** -/
theorem slice_eq_ok_iff :
    slice text start stop = .ok part ↔ IsSlice text start part ∧ stop = start + byteLength part := by
  unfold slice
  constructor
  · intro h
    split at h
    · rename_i hcut
      obtain ⟨hle, hstart, hstop⟩ := hcut
      obtain ⟨behind, before, htext, rfl⟩ := isBoundary_iff.1 hstart
      obtain ⟨after, upto, htext', rfl⟩ := isBoundary_iff.1 hstop
      obtain ⟨between, rfl⟩ := prefix_of_byteLength_le ⟨behind, htext.symm⟩ ⟨after, htext'.symm⟩ hle
      subst htext'
      rw [byteLength_append, Nat.add_sub_cancel_left, List.append_assoc, dropBytes_byteLength_append,
        takeBytes_byteLength_append] at h
      cases h
      exact ⟨⟨before, after, rfl, rfl⟩, byteLength_append ..⟩
    · cases h
  · rintro ⟨⟨before, after, rfl, rfl⟩, rfl⟩
    have hstart : IsBoundary (before ++ part ++ after) (byteLength before) :=
      isBoundary_iff.2 ⟨part ++ after, before, List.append_assoc .., rfl⟩
    have hstop : IsBoundary (before ++ part ++ after) (byteLength before + byteLength part) :=
      isBoundary_iff.2 ⟨after, before ++ part, rfl, (byteLength_append ..).symm⟩
    rw [if_pos ⟨Nat.le_add_right .., hstart, hstop⟩, Nat.add_sub_cancel_left, List.append_assoc,
      dropBytes_byteLength_append, takeBytes_byteLength_append]

theorem Rest.slice (h : Rest text offset (part ++ rest)) :
    slice text offset (offset + byteLength part) = .ok part := by
  obtain ⟨before, rfl, rfl⟩ := h
  exact slice_eq_ok_iff.2 ⟨⟨before, rest, (List.append_assoc ..).symm, rfl⟩, rfl⟩

theorem slice_zero (before rest : List Char) : Text.slice (before ++ rest) 0 (byteLength before) = .ok before :=
  slice_eq_ok_iff.2 ⟨⟨[], rest, rfl, rfl⟩, (Nat.zero_add _).symm⟩

theorem Rest.sliceFrom (h : Rest text offset rest) : sliceFrom text offset = .ok rest := by
  obtain ⟨before, rfl, rfl⟩ := h
  exact slice_eq_ok_iff.2 ⟨⟨before, [], (List.append_nil _).symm, rfl⟩, byteLength_append ..⟩

theorem truncate_append (before rest : List Char) : truncate (before ++ rest) (byteLength before) = .ok before := by
  rw [truncate, if_neg (Nat.not_lt.2 ?_), slice_zero]
  rw [byteLength_append]
  exact Nat.le_add_right ..

theorem replaceRange_append (before old new after : List Char) :
    replaceRange (before ++ (old ++ after)) (byteLength before) (byteLength before + byteLength old) new =
      .ok (before ++ new ++ after) := by
  have h : Rest (before ++ (old ++ after)) (byteLength before) (old ++ after) := rest_append ..
  rw [replaceRange, h.slice, slice_zero, h.append.sliceFrom]
  rfl

/-! ## Bytes and characters -/

theorem toUInt8_lt {c : Char} (hc : c.toNat < 0x80) : c.toUInt8 < 0x80 :=
  (lt_byte (n := c.toNat) (Nat.lt_trans hc (by decide))).2 hc

theorem ofUInt8_eq (b : UInt8) : Char.ofUInt8 b = Char.ofNat b.toNat := by
  refine Char.ext (UInt32.toNat_inj.1 ?_)
  exact (UInt8.toNat_toUInt32 b).trans (toNat_char_byte b).symm

theorem ofUInt8_toUInt8 {c : Char} (hc : c.toNat < 0x80) : Char.ofUInt8 c.toUInt8 = c := by
  rw [ofUInt8_eq]
  exact (char_eq_iff (toUInt8_lt hc) hc).2 rfl

theorem mem_encode {c : Char} (hc : c.toNat < 0x80) (s : List Char) : c.toUInt8 ∈ encode s ↔ c ∈ s := by
  rw [mem_encode_iff (toUInt8_lt hc), ← ofUInt8_eq, ofUInt8_toUInt8 hc]

theorem encode_ascii_cons {c : Char} (hc : c.toNat < 0x80) (s : List Char) :
    encode (c :: s) = c.toUInt8 :: encode s := by
  rw [encode_cons, utf8EncodeChar_ascii hc]
  rfl

theorem drop_encode (h : Rest text offset rest) : (encode text).drop offset = encode rest := by
  obtain ⟨before, rfl, rfl⟩ := h
  rw [encode_append, ← length_encode, List.drop_left]

theorem Rest.bytesFrom (h : Rest text offset rest) : bytesFrom (encode text) offset = .ok (encode rest) := by
  have hle : offset ≤ (encode text).length := by
    obtain ⟨before, rfl, rfl⟩ := h
    rw [length_encode, byteLength_append]
    exact Nat.le_add_right ..
  rw [Text.bytesFrom, if_pos hle, drop_encode h]

/-- The byte at an offset is the first one of what stands there. -/
theorem Rest.getElem? (h : Rest text offset rest) : (encode text)[offset]? = (encode rest).head? := by
  rw [← List.head?_drop, drop_encode h]

/-- **A byte of ASCII comes first exactly where its character does.** -/
theorem head?_encode {c : Char} (hc : c.toNat < 0x80) (s : List Char) :
    (encode s).head? = some c.toUInt8 ↔ s.head? = some c := by
  cases s with
  | nil => exact iff_of_false nofun nofun
  | cons d s =>
    rw [List.head?_cons, Option.some.injEq]
    constructor
    · intro h
      obtain ⟨b, bytes, hd, -⟩ := front_utf8EncodeChar d
      rw [encode_cons, hd, List.cons_append, List.head?_cons, Option.some.injEq] at h
      have hmem : c.toUInt8 ∈ String.utf8EncodeChar d := by
        rw [hd, h]
        exact List.mem_cons_self
      rw [(mem_utf8EncodeChar_iff (toUInt8_lt hc) d).1 hmem, ← ofUInt8_eq, ofUInt8_toUInt8 hc]
    · rintro rfl
      rw [encode_ascii_cons hc, List.head?_cons]

/-- The byte before an offset is that of the character before it, if this is one of ASCII. -/
theorem byteAt_last {c : Char} (hc : c.toNat < 0x80) {u : List Char} (hu : u ≠ []) (v : List Char) :
    ∃ b, byteAt (encode (u ++ v)) (byteLength u - 1) = .ok b ∧ (b = c.toUInt8 ↔ u.getLast? = some c) := by
  obtain ⟨u, d, rfl⟩ := (List.eq_nil_or_concat' u).resolve_left hu
  obtain ⟨bytes, b, hd⟩ := (List.eq_nil_or_concat' (encode [d])).resolve_left encode_ne_nil
  have hlen : byteLength (u ++ [d]) - 1 = (encode u ++ bytes).length := by
    rw [← length_encode, encode_append, hd, List.length_append, List.length_append, List.length_append]
    rfl
  refine ⟨b, ?_, ?_⟩
  · rw [byteAt, hlen, encode_append, encode_append, hd, ← List.append_assoc, List.append_assoc _ [b],
      List.getElem?_append_right (Nat.le_refl _), Nat.sub_self]
    rfl
  · rw [List.getLast?_concat, Option.some.injEq]
    constructor
    · rintro rfl
      have hmem : c.toUInt8 ∈ encode [d] := hd ▸ List.mem_append_right _ List.mem_cons_self
      exact (List.mem_singleton.1 ((mem_encode hc [d]).1 hmem)).symm
    · rintro rfl
      rw [encode_ascii_cons hc] at hd
      have hlast := congrArg List.getLast? hd
      rw [List.getLast?_append] at hlast
      exact (Option.some.inj hlast).symm

/-- **The first byte of ASCII is where its character is.** -/
theorem findByte_append {c : Char} (hc : c.toNat < 0x80) {u v : List Char} (hu : c ∉ u) :
    findByte c.toUInt8 (encode (u ++ c :: v)) = some (byteLength u) := by
  have hnone : (encode u).findIdx? (· == c.toUInt8) = none := by
    rw [List.findIdx?_eq_none_iff]
    exact fun b hb => beq_false_of_ne fun he => hu ((mem_encode hc u).1 (he ▸ hb))
  rw [findByte, encode_append, List.findIdx?_append, hnone, encode_ascii_cons hc, List.findIdx?_cons, BEq.rfl,
    length_encode]
  exact congrArg some (Nat.zero_add _)

theorem findByte_none {c : Char} (hc : c.toNat < 0x80) {s : List Char} (hs : c ∉ s) :
    findByte c.toUInt8 (encode s) = none := by
  rw [findByte, List.findIdx?_eq_none_iff]
  exact fun b hb => beq_false_of_ne fun he => hs ((mem_encode hc s).1 (he ▸ hb))

/-! ## Runs -/

/-- **A class of characters told from their bytes**: it takes all characters beyond ASCII or none. -/
def Coarse (p : Char → Bool) : Prop := ∀ c d : Char, ¬ c.toNat < 0x80 → ¬ d.toNat < 0x80 → p c = p d

theorem coarse_of_ascii {p : Char → Bool} (h : ∀ c, p c = true → c.toNat < 0x80) : Coarse p := fun c d hc hd => by
  rw [Bool.eq_false_iff.2 (mt (h c) hc), Bool.eq_false_iff.2 (mt (h d) hd)]

theorem ascii_of_isAlphanum {c : Char} (hc : c.isAlphanum = true) : c.toNat < 0x80 := by
  have hrange := toNat_of_isAlphanum hc
  omega

theorem Coarse.map {p : Char → Bool} (h : Coarse p) (g : Bool → Bool) : Coarse fun c => g (p c) := fun c d hc hd =>
  congrArg g (h c d hc hd)

theorem Coarse.map₂ {p q : Char → Bool} (h : Coarse p) (h' : Coarse q) (g : Bool → Bool → Bool) :
    Coarse fun c => g (p c) (q c) := fun c d hc hd => by
  show g (p c) (q c) = g (p d) (q d)
  rw [h c d hc hd, h' c d hc hd]

theorem Coarse.apply_byte {p : Char → Bool} (h : Coarse p) {c : Char} {b : UInt8} (hb : b ∈ String.utf8EncodeChar c) :
    p (.ofUInt8 b) = p c := by
  by_cases hc : c.toNat < 0x80
  · rw [utf8EncodeChar_ascii hc, List.mem_singleton] at hb
    rw [hb]
    exact congrArg p (ofUInt8_toUInt8 hc)
  · refine h _ _ (fun hlt => utf8EncodeChar_beyond hc b hb ?_) hc
    rw [ofUInt8_eq, toNat_char_byte] at hlt
    exact UInt8.lt_iff_toNat_lt.2 hlt

theorem Coarse.takeWhile_encode {p : Char → Bool} (h : Coarse p) : ∀ s : List Char,
    (encode s).takeWhile (fun b => p (.ofUInt8 b)) = encode (s.takeWhile p)
  | [] => rfl
  | c :: s => by
    rw [encode_cons]
    cases hp : p c with
    | true =>
      rw [List.takeWhile_append_of_pos fun b hb => (h.apply_byte hb).trans hp, h.takeWhile_encode s,
        List.takeWhile_cons_of_pos hp, encode_cons]
    | false =>
      obtain ⟨b, bytes, hc, -⟩ := front_utf8EncodeChar c
      have hb : p (.ofUInt8 b) = false := (h.apply_byte (hc ▸ List.mem_cons_self)).trans hp
      rw [hc, List.cons_append, List.takeWhile_cons_of_neg (by rw [hb]; exact Bool.false_ne_true),
        List.takeWhile_cons_of_neg (by rw [hp]; exact Bool.false_ne_true)]
      rfl

/-- **A run of bytes ends where the run of characters does.** -/
theorem Rest.runEnd {p : Char → Bool} (h : Rest text offset rest) (hp : Coarse p) :
    runEnd p (encode text) offset = offset + byteLength (rest.takeWhile p) := by
  rw [Text.runEnd, drop_encode h, hp.takeWhile_encode, length_encode]

end BlogMarkdown.Text
