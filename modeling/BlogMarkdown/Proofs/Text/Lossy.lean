import BlogMarkdown.Proofs.Text.Utf8
import Mathlib.Algebra.Group.Nat.Defs
/-!
# ASCII in faulty bytes

Bytes that are not UTF-8 throughout are read piece by piece.  A byte of ASCII is a piece of its own wherever it stands,
so the ASCII characters that are read are the ASCII bytes, and every other piece is read as one character beyond.
-/
namespace BlogMarkdown.Text.Utf8

/-! ## Pieces -/

/-- What a reading of some bytes has found: a piece beyond ASCII, and a character or a fault in it. -/
def Finds (found : Front) (used low high : Nat) (rest : List UInt8) : Prop :=
  ∃ piece tail, rest = piece ++ tail ∧ (∀ b ∈ piece, ¬ b < 0x80) ∧
    ((∃ v, low ≤ v ∧ v < high ∧ found = .char (Char.ofNat v) (used + piece.length)) ∨
      ∃ atEnd, found = .broken (used + piece.length) atEnd)

theorem Finds.cons {found : Front} {used low high : Nat} {rest : List UInt8} {b : UInt8} (hb : ¬ b < 0x80)
    (h : Finds found (used + 1) low high rest) : Finds found used low high (b :: rest) := by
  obtain ⟨piece, tail, rfl, hpiece, hfound⟩ := h
  refine ⟨b :: piece, tail, rfl, List.forall_mem_cons.2 ⟨hb, hpiece⟩, ?_⟩
  rwa [List.length_cons, Nat.add_comm piece.length, ← Nat.add_assoc]

theorem Finds.broken (used low high : Nat) (rest : List UInt8) (atEnd : Bool) :
    Finds (.broken used atEnd) used low high rest := ⟨[], rest, rfl, nofun, .inr ⟨atEnd, rfl⟩⟩

theorem Finds.mono {found : Front} {used low high low' high' : Nat} {rest : List UInt8}
    (h : Finds found used low high rest) (hlow : low' ≤ low) (hhigh : high ≤ high') :
    Finds found used low' high' rest := by
  obtain ⟨piece, tail, hrest, hpiece, hfound⟩ := h
  refine ⟨piece, tail, hrest, hpiece, hfound.imp_left fun ⟨v, hv, hv', heq⟩ => ⟨v, ?_, ?_, heq⟩⟩ <;> omega

/-- A byte that continues a sequence adds six bits. -/
theorem finds_continuation_succ {need : Nat} {low high : UInt8} (hlow : 0x80 ≤ low.toNat)
    (hneed : ∀ bits used rest, Finds (continuation need 0x80 0xbf bits used rest) used (bits * 64 ^ need)
      ((bits + 1) * 64 ^ need) rest) (bits used : Nat) (rest : List UInt8) :
    Finds (continuation (need + 1) low high bits used rest) used ((bits * 64 + (low.toNat - 0x80)) * 64 ^ need)
      ((bits * 64 + (high.toNat - 0x80) + 1) * 64 ^ need) rest := by
  cases rest with
  | nil =>
    rw [continuation]
    exact .broken ..
  | cons b rest =>
    rw [continuation]
    split
    · rename_i hb
      have hmin : low.toNat ≤ b.toNat := UInt8.le_iff_toNat_le.1 hb.1
      have hmax : b.toNat ≤ high.toNat := UInt8.le_iff_toNat_le.1 hb.2
      refine ((hneed (bits * 64 + (b.toNat - 0x80)) (used + 1) rest).mono ?_ ?_).cons ?_
      · exact Nat.mul_le_mul_right _ (by omega)
      · exact Nat.mul_le_mul_right _ (by omega)
      · rw [UInt8.lt_iff_toNat_lt, Nat.not_lt]
        exact hlow.trans hmin
    · exact .broken ..

theorem finds_continuation : ∀ (need bits used : Nat) (rest : List UInt8),
    Finds (continuation need 0x80 0xbf bits used rest) used (bits * 64 ^ need) ((bits + 1) * 64 ^ need) rest
  | 0, bits, used, rest =>
    ⟨[], rest, rfl, nofun, .inl ⟨bits, by omega, by omega, continuation_zero ..⟩⟩
  | need + 1, bits, used, rest => by
    refine (finds_continuation_succ (by decide) (finds_continuation need) bits used rest).mono ?_ ?_
    · rw [Nat.pow_succ', ← Nat.mul_assoc]
      exact Nat.mul_le_mul_right _ (by omega)
    · rw [Nat.pow_succ', ← Nat.mul_assoc]
      exact Nat.mul_le_mul_right _ (by show bits * 64 + 63 + 1 ≤ _; omega)

/-- A first byte and the range of the second let a sequence spell characters beyond ASCII only, and no surrogate. -/
theorem lead_range : ∀ n < 256, ∀ found ∈ lead (UInt8.ofNat n), 0 < found.1 ∧ 0x80 ≤ found.2.1.toNat ∧
    let low := (found.2.2.2 * 64 + (found.2.1.toNat - 0x80)) * 64 ^ (found.1 - 1)
    let high := (found.2.2.2 * 64 + (found.2.2.1.toNat - 0x80) + 1) * 64 ^ (found.1 - 1)
    0x80 ≤ low ∧ (high ≤ 0xd800 ∨ 0xe000 ≤ low ∧ high ≤ 0x110000) := by
  decide +kernel

/-- What stands in front of bytes that begin beyond ASCII. -/
theorem finds_front {b : UInt8} (hb : ¬ b < 0x80) (rest : List UInt8) : ∃ low high,
    Finds (front b rest) 1 low high rest ∧ 0x80 ≤ low ∧ (high ≤ 0xd800 ∨ 0xe000 ≤ low ∧ high ≤ 0x110000) := by
  rw [front, if_neg hb]
  split
  · exact ⟨0x80, 0x80, .broken .., by omega, by omega⟩
  · rename_i need low high bits hlead
    have hrange := lead_range b.toNat b.toNat_lt (need, low, high, bits) (by simpa using hlead)
    obtain ⟨hneed, hlow, hrange⟩ := hrange
    obtain ⟨need, rfl⟩ := Nat.exists_eq_succ_of_ne_zero hneed.ne'
    exact ⟨_, _, finds_continuation_succ hlow (finds_continuation need) bits 1 rest, hrange⟩

/-! ## Reading piece by piece -/

/-- Bytes and what is read of them, piece by piece. -/
inductive Reads : List UInt8 → List Char → Prop where
  | nil : Reads [] []
  /-- A byte of ASCII. -/
  | ascii {b : UInt8} {bytes : List UInt8} {text : List Char} (hb : b < 0x80) (h : Reads bytes text) :
    Reads (b :: bytes) (Char.ofNat b.toNat :: text)
  /-- A character beyond ASCII, or what is written for a fault. -/
  | beyond {b : UInt8} {piece bytes : List UInt8} {c : Char} {text : List Char} (hpiece : ∀ d ∈ b :: piece, ¬ d < 0x80)
    (hc : ¬ c.toNat < 0x80) (h : Reads bytes text) : Reads (b :: piece ++ bytes) (c :: text)

theorem decodeLossyFrom_skip (read : List Char) (rest : List UInt8) : ∀ piece : List UInt8,
    decodeLossyFrom read piece.length (piece ++ rest) = decodeLossyFrom read 0 rest
  | [] => rfl
  | b :: piece => by rw [List.cons_append, List.length_cons, decodeLossyFrom, decodeLossyFrom_skip read rest piece]

theorem decodeLossyFrom_ascii {b : UInt8} (hb : b < 0x80) (read : List Char) (rest : List UInt8) :
    decodeLossyFrom read 0 (b :: rest) = decodeLossyFrom (Char.ofNat b.toNat :: read) 0 rest := by
  rw [decodeLossyFrom, front, if_pos hb]

theorem decodeLossyFrom_beyond {b : UInt8} (hb : ¬ b < 0x80) (read : List Char) (rest : List UInt8) :
    ∃ c piece tail, rest = piece ++ tail ∧ (∀ d ∈ b :: piece, ¬ d < 0x80) ∧ ¬ c.toNat < 0x80 ∧
      decodeLossyFrom read 0 (b :: rest) = decodeLossyFrom (c :: read) 0 tail := by
  obtain ⟨low, high, ⟨piece, tail, rfl, hpiece, hfound⟩, hlow, hhigh⟩ := finds_front hb rest
  have hall : ∀ d ∈ b :: piece, ¬ d < 0x80 := List.forall_mem_cons.2 ⟨hb, hpiece⟩
  rcases hfound with ⟨v, hv, hv', hfound⟩ | ⟨atEnd, hfound⟩
  · refine ⟨Char.ofNat v, piece, tail, rfl, hall, ?_, ?_⟩
    · rw [toNat_char (by omega)]
      omega
    · simp [decodeLossyFrom, hfound, decodeLossyFrom_skip]
  · refine ⟨'\ufffd', piece, tail, rfl, hall, by decide, ?_⟩
    simp [decodeLossyFrom, hfound, decodeLossyFrom_skip]

theorem reads_decodeLossyFrom (read : List Char) (bytes : List UInt8) :
    ∃ text, decodeLossyFrom read 0 bytes = read.reverse ++ text ∧ Reads bytes text := by
  induction hn : bytes.length using Nat.strongRecOn generalizing read bytes with
  | ind n ih =>
    subst hn
    cases bytes with
    | nil => exact ⟨[], (List.append_nil _).symm, .nil⟩
    | cons b rest =>
      by_cases hb : b < 0x80
      · obtain ⟨text, htext, hreads⟩ := ih rest.length (Nat.lt_succ_self _) (Char.ofNat b.toNat :: read) rest rfl
        refine ⟨_, ?_, .ascii hb hreads⟩
        rw [decodeLossyFrom_ascii hb, htext, List.reverse_cons, List.append_assoc, List.singleton_append]
      · obtain ⟨c, piece, tail, rfl, hpiece, hc, hbeyond⟩ := decodeLossyFrom_beyond hb read rest
        have hlt : tail.length < (b :: (piece ++ tail)).length := by
          rw [List.length_cons, List.length_append]
          omega
        obtain ⟨text, htext, hreads⟩ := ih tail.length hlt (c :: read) tail rfl
        refine ⟨_, ?_, .beyond hpiece hc hreads⟩
        rw [hbeyond, htext, List.reverse_cons, List.append_assoc, List.singleton_append]

/-- **A lossy reading goes piece by piece.** -/
theorem reads_decodeLossy (bytes : List UInt8) : Reads bytes (decodeLossy bytes) := by
  obtain ⟨text, htext, hreads⟩ := reads_decodeLossyFrom [] bytes
  rw [decodeLossy, htext]
  exact hreads

/-- In front of bytes that begin with ASCII stands that character. -/
theorem exists_of_encode_eq {text : List Char} {b : UInt8} {rest : List UInt8} (hb : b < 0x80)
    (h : encode text = b :: rest) : ∃ text', text = Char.ofNat b.toNat :: text' ∧ encode text' = rest := by
  cases text with
  | nil => cases h
  | cons c text =>
    rw [encode_cons] at h
    by_cases hc : c.toNat < 0x80
    · rw [utf8EncodeChar_ascii hc] at h
      obtain ⟨heq, hrest⟩ := List.cons.inj h
      exact ⟨text, by rw [(char_eq_iff hb hc).2 heq.symm], hrest⟩
    · obtain ⟨d, bytes, hbytes, -⟩ := front_utf8EncodeChar c
      rw [hbytes] at h
      have hd := utf8EncodeChar_beyond hc d (hbytes ▸ List.mem_cons_self)
      exact absurd ((List.cons.inj h).1 ▸ hb) hd

namespace Reads

variable {bytes : List UInt8} {text : List Char}

/-- A character of ASCII is read where its byte stands. -/
theorem mem_iff (h : Reads bytes text) {c : Char} (hc : c.toNat < 0x80) : c ∈ text ↔ UInt8.ofNat c.toNat ∈ bytes := by
  have hbyte : UInt8.ofNat c.toNat < 0x80 := (lt_byte (by omega)).2 hc
  induction h with
  | nil => simp
  | ascii hb _ ih =>
    rw [List.mem_cons, List.mem_cons, eq_comm, char_eq_iff hb hc, eq_comm]
    exact or_congr_right ih
  | beyond hpiece hd _ ih =>
    rw [List.mem_cons, List.mem_append, or_iff_right fun hmem => hpiece _ hmem hbyte, or_iff_right]
    · exact ih
    · rintro rfl
      exact hd hc

/-- A text of ASCII is read of its bytes only. -/
theorem eq_iff (h : Reads bytes text) {ascii : List Char} (hascii : ∀ c ∈ ascii, c.toNat < 0x80) :
    text = ascii ↔ bytes = encode ascii := by
  induction h generalizing ascii with
  | nil => cases ascii with
    | nil => exact iff_of_true rfl rfl
    | cons c ascii => exact iff_of_false nofun (encode_ne_nil ∘ Eq.symm)
  | ascii hb _ ih => cases ascii with
    | nil => exact iff_of_false nofun nofun
    | cons c ascii =>
      rw [List.forall_mem_cons] at hascii
      rw [encode_cons, utf8EncodeChar_ascii hascii.1, List.singleton_append, List.cons.injEq, List.cons.injEq,
        ih hascii.2, char_eq_iff hb hascii.1]
  | beyond hpiece hd _ ih => cases ascii with
    | nil => exact iff_of_false nofun nofun
    | cons c ascii =>
      rw [List.forall_mem_cons] at hascii
      rw [encode_cons, utf8EncodeChar_ascii hascii.1, List.cons_append, List.singleton_append]
      refine iff_of_false (fun heq => hd ?_) fun heq => hpiece _ List.mem_cons_self ?_
      · rw [(List.cons.inj heq).1]
        exact hascii.1
      · rw [(List.cons.inj heq).1, lt_byte (by omega)]
        exact hascii.1

end Reads

theorem mem_decodeLossy_iff {c : Char} (hc : c.toNat < 0x80) (bytes : List UInt8) :
    c ∈ decodeLossy bytes ↔ UInt8.ofNat c.toNat ∈ bytes := (reads_decodeLossy bytes).mem_iff hc

theorem decodeLossy_eq_iff {ascii : List Char} (hascii : ∀ c ∈ ascii, c.toNat < 0x80) (bytes : List UInt8) :
    decodeLossy bytes = ascii ↔ bytes = encode ascii := (reads_decodeLossy bytes).eq_iff hascii

end BlogMarkdown.Text.Utf8
