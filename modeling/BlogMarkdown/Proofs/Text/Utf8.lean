import BlogMarkdown.Text.Blank
import BlogMarkdown.Text.Utf8
import Mathlib.Data.List.DropRight
/-!
# What is encoded is read back

The bytes of each character are one sequence that the decoder takes whole, so the bytes of a text decode to the text.
A byte of ASCII, and so a linefeed, stands for its character and for nothing else.
-/
namespace BlogMarkdown.Text.Utf8

theorem encode_cons (c : Char) (s : List Char) : encode (c :: s) = String.utf8EncodeChar c ++ encode s :=
  List.flatMap_cons

theorem encode_append (s t : List Char) : encode (s ++ t) = encode s ++ encode t := List.flatMap_append

theorem length_encode (s : List Char) : (encode s).length = byteLength s := by
  induction s with
  | nil => rfl
  | cons c s ih => rw [encode_cons, List.length_append, String.length_utf8EncodeChar, ih, byteLength_cons]

/-- **A part of a text begins at a byte offset**, and both its ends are between characters. -/
def IsSlice (text : List Char) (start : Nat) (part : List Char) : Prop :=
  ∃ before after, text = before ++ part ++ after ∧ start = byteLength before

/-- The bytes that a slice takes out of those of the text are its own. -/
theorem IsSlice.bytes {text part : List Char} {start : Nat} (h : IsSlice text start part) :
    ((encode text).drop start).take (byteLength part) = encode part := by
  obtain ⟨before, after, rfl, rfl⟩ := h
  rw [← length_encode, ← length_encode, List.append_assoc, encode_append, List.drop_left, encode_append,
    List.take_left]

/-! ## The front of an encoded character -/

theorem toNat_byte {n : Nat} (h : n < 256) : (UInt8.ofNat n).toNat = n := UInt8.toNat_ofNat_of_lt h

/-- A byte that continues a sequence adds six bits. -/
theorem continuation_cons {low high : UInt8} {n : Nat} (need bits used : Nat) (rest : List UInt8) (hn : n < 64)
    (hlow : low.toNat ≤ n + 0x80) (hhigh : n + 0x80 ≤ high.toNat) :
    continuation (need + 1) low high bits used (UInt8.ofNat (n + 0x80) :: rest) =
      continuation need 0x80 0xbf (bits * 64 + n) (used + 1) rest := by
  have hbyte : (UInt8.ofNat (n + 0x80)).toNat = n + 0x80 := toNat_byte (by omega)
  have hrange : low ≤ UInt8.ofNat (n + 0x80) ∧ UInt8.ofNat (n + 0x80) ≤ high := by
    rw [UInt8.le_iff_toNat_le, UInt8.le_iff_toNat_le, hbyte]
    exact ⟨hlow, hhigh⟩
  rw [continuation, if_pos hrange, hbyte, Nat.add_sub_cancel]

theorem continuation_zero (low high : UInt8) (bits used : Nat) (rest : List UInt8) :
    continuation 0 low high bits used rest = .char (Char.ofNat bits) used := by rw [continuation]

theorem continuation_middle {n : Nat} (need bits used : Nat) (rest : List UInt8) (hn : n < 64) :
    continuation (need + 1) 0x80 0xbf bits used (UInt8.ofNat (n + 0x80) :: rest) =
      continuation need 0x80 0xbf (bits * 64 + n) (used + 1) rest :=
  continuation_cons need bits used rest hn (by show 0x80 ≤ _; omega) (by show _ ≤ 0xbf; omega)

theorem front_of_lead {n need bits : Nat} {low high : UInt8} (rest : List UInt8) (hn : 0x80 ≤ n) (hn' : n < 256)
    (hlead : lead (UInt8.ofNat n) = some (need, low, high, bits)) :
    front (UInt8.ofNat n) rest = continuation need low high bits 1 rest := by
  have hb : ¬ UInt8.ofNat n < 0x80 := by
    rw [UInt8.lt_iff_toNat_lt, toNat_byte hn']
    exact Nat.not_lt.2 hn
  rw [front, if_neg hb, hlead]

/-- Two bytes spell no character that one could. -/
theorem lead_two : ∀ n < 32, lead (UInt8.ofNat (n + 0xc0)) = if n < 2 then none else some (1, 0x80, 0xbf, n) := by
  decide

/-- Three bytes spell no character that two could, and no surrogate. -/
theorem lead_three : ∀ n < 16, lead (UInt8.ofNat (n + 0xe0)) =
    some (2, if n = 0 then 0xa0 else 0x80, if n = 13 then 0x9f else 0xbf, n) := by decide

/-- Four bytes spell no character that three could, and none above the last. -/
theorem lead_four : ∀ n < 5, lead (UInt8.ofNat (n + 0xf0)) =
    some (3, if n = 0 then 0x90 else 0x80, if n = 4 then 0x8f else 0xbf, n) := by decide

theorem front_one {v : Nat} (h : v ≤ 0x7f) (rest : List UInt8) :
    front (UInt8.ofNat v) rest = .char (Char.ofNat v) 1 := by
  have hb : UInt8.ofNat v < 0x80 := by
    rw [UInt8.lt_iff_toNat_lt, toNat_byte (by omega)]
    exact Nat.lt_succ_of_le h
  rw [front, if_pos hb, toNat_byte (by omega)]

theorem front_two {v : Nat} (h : 0x7f < v) (h' : v ≤ 0x7ff) (rest : List UInt8) :
    front (UInt8.ofNat (v / 64 % 0x20 + 0xc0)) (UInt8.ofNat (v % 0x40 + 0x80) :: rest) = .char (Char.ofNat v) 2 := by
  have hlead : lead (UInt8.ofNat (v / 64 % 0x20 + 0xc0)) = some (1, 0x80, 0xbf, v / 64 % 0x20) :=
    (lead_two _ (by omega)).trans (if_neg (by omega))
  have hbits : v / 64 % 0x20 * 64 + v % 0x40 = v := by omega
  rw [front_of_lead _ (by omega) (by omega) hlead, continuation_middle _ _ _ _ (by omega), continuation_zero, hbits]

theorem front_three {v : Nat} (h : 0x7ff < v) (h' : v ≤ 0xffff) (hv : v < 0xd800 ∨ 0xdfff < v) (rest : List UInt8) :
    front (UInt8.ofNat (v / 4096 % 0x10 + 0xe0))
      (UInt8.ofNat (v / 64 % 0x40 + 0x80) :: UInt8.ofNat (v % 0x40 + 0x80) :: rest) = .char (Char.ofNat v) 3 := by
  have hbits : (v / 4096 % 0x10 * 64 + v / 64 % 0x40) * 64 + v % 0x40 = v := by omega
  rw [front_of_lead _ (by omega) (by omega) (lead_three _ (by omega)), continuation_cons _ _ _ _ (by omega) ?_ ?_,
    continuation_middle _ _ _ _ (by omega), continuation_zero, hbits]
  · split
    · show 0xa0 ≤ _; omega
    · show 0x80 ≤ _; omega
  · split
    · show _ ≤ 0x9f; omega
    · show _ ≤ 0xbf; omega

theorem front_four {v : Nat} (h : 0xffff < v) (h' : v < 0x110000) (rest : List UInt8) :
    front (UInt8.ofNat (v / 262144 % 0x08 + 0xf0)) (UInt8.ofNat (v / 4096 % 0x40 + 0x80) ::
      UInt8.ofNat (v / 64 % 0x40 + 0x80) :: UInt8.ofNat (v % 0x40 + 0x80) :: rest) = .char (Char.ofNat v) 4 := by
  have hbits : ((v / 262144 % 0x08 * 64 + v / 4096 % 0x40) * 64 + v / 64 % 0x40) * 64 + v % 0x40 = v := by omega
  rw [front_of_lead _ (by omega) (by omega) (lead_four _ (by omega)), continuation_cons _ _ _ _ (by omega) ?_ ?_,
    continuation_middle _ _ _ _ (by omega), continuation_middle _ _ _ _ (by omega), continuation_zero, hbits]
  · split
    · show 0x90 ≤ _; omega
    · show 0x80 ≤ _; omega
  · split
    · show _ ≤ 0x8f; omega
    · show _ ≤ 0xbf; omega

theorem front_utf8EncodeChar (c : Char) : ∃ b bytes, String.utf8EncodeChar c = b :: bytes ∧
    ∀ rest, front b (bytes ++ rest) = .char c (bytes.length + 1) := by
  have hval : Char.ofNat c.val.toNat = c := Char.ofNat_toNat c
  have hvalid : c.val.toNat < 0xd800 ∨ 0xdfff < c.val.toNat ∧ c.val.toNat < 0x110000 := c.valid
  rw [String.utf8EncodeChar]
  generalize c.val.toNat = v at hval hvalid
  subst hval
  split
  · exact ⟨_, _, rfl, front_one ‹_›⟩
  · split
    · exact ⟨_, _, rfl, front_two (by omega) ‹_›⟩
    · split
      · exact ⟨_, _, rfl, front_three (by omega) ‹_› (by omega)⟩
      · exact ⟨_, _, rfl, front_four (by omega) (by omega)⟩

theorem decodeFrom_skip (read : List Char) (rest : List UInt8) : ∀ (bytes : List UInt8) (start : Nat),
    decodeFrom read start bytes.length (bytes ++ rest) = decodeFrom read (start + bytes.length) 0 rest
  | [], _ => rfl
  | b :: bytes, start => by
    rw [List.cons_append, List.length_cons, decodeFrom, decodeFrom_skip read rest bytes, Nat.add_assoc,
      Nat.add_comm 1]

theorem decodeFrom_encode : ∀ (s read : List Char) (start : Nat),
    decodeFrom read start 0 (encode s) = .ok (read.reverse ++ s)
  | [], read, _ => by rw [List.append_nil]; rfl
  | c :: s, read, start => by
    obtain ⟨b, bytes, hc, hfront⟩ := front_utf8EncodeChar c
    rw [encode_cons, hc, List.cons_append, decodeFrom, hfront]
    dsimp only
    rw [Nat.add_sub_cancel, decodeFrom_skip, decodeFrom_encode s, List.reverse_cons, List.append_assoc]
    rfl

/-- **What is encoded is read back.** -/
theorem decode_encode (s : List Char) : decode (encode s) = .ok s := decodeFrom_encode s [] 0

/-! ## Characters of ASCII -/

theorem lt_byte {n : Nat} (hn : n < 256) : UInt8.ofNat n < 0x80 ↔ n < 0x80 := by
  rw [UInt8.lt_iff_toNat_lt, toNat_byte hn]
  rfl

theorem toNat_of_isAlphanum {c : Char} (h : c.isAlphanum = true) :
    48 ≤ c.toNat ∧ c.toNat ≤ 57 ∨ 65 ≤ c.toNat ∧ c.toNat ≤ 90 ∨ 97 ≤ c.toNat ∧ c.toNat ≤ 122 := by
  rcases Bool.or_eq_true_iff.1 h with h | h
  · rcases Bool.or_eq_true_iff.1 h with h | h
    · exact .inr (.inl (of_decide_eq_true h))
    · obtain ⟨hlow, hhigh⟩ := Bool.and_eq_true_iff.1 h
      exact .inr (.inr ⟨of_decide_eq_true hlow, of_decide_eq_true hhigh⟩)
  · obtain ⟨hlow, hhigh⟩ := Bool.and_eq_true_iff.1 h
    exact .inl ⟨of_decide_eq_true hlow, of_decide_eq_true hhigh⟩

theorem utf8EncodeChar_ascii {c : Char} (h : c.toNat < 0x80) : String.utf8EncodeChar c = [UInt8.ofNat c.toNat] := by
  rw [String.utf8EncodeChar]
  exact if_pos (Nat.le_of_lt_succ h)

theorem utf8EncodeChar_beyond {c : Char} (h : ¬ c.toNat < 0x80) : ∀ b ∈ String.utf8EncodeChar c, ¬ b < 0x80 := by
  have hval : ¬ c.val.toNat < 0x80 := h
  rw [String.utf8EncodeChar]
  generalize c.val.toNat = v at hval
  split
  · omega
  · split
    · simp only [List.forall_mem_cons, List.not_mem_nil, false_implies, implies_true, and_true]
      refine ⟨?_, ?_⟩ <;> rw [lt_byte] <;> omega
    · split
      · simp only [List.forall_mem_cons, List.not_mem_nil, false_implies, implies_true, and_true]
        refine ⟨?_, ?_, ?_⟩ <;> rw [lt_byte] <;> omega
      · simp only [List.forall_mem_cons, List.not_mem_nil, false_implies, implies_true, and_true]
        refine ⟨?_, ?_, ?_, ?_⟩ <;> rw [lt_byte] <;> omega

theorem toNat_char {v : Nat} (h : v < 0xd800 ∨ 0xe000 ≤ v ∧ v < 0x110000) : (Char.ofNat v).toNat = v := by
  have hvalid : v.isValidChar := h.imp_right fun h => ⟨by omega, h.2⟩
  rw [Char.ofNat, dif_pos hvalid]
  rfl

theorem toNat_char_byte (b : UInt8) : (Char.ofNat b.toNat).toNat = b.toNat :=
  toNat_char (.inl (Nat.lt_trans b.toNat_lt (by decide)))

theorem char_eq_iff {b : UInt8} {c : Char} (hb : b < 0x80) (hc : c.toNat < 0x80) :
    Char.ofNat b.toNat = c ↔ b = UInt8.ofNat c.toNat := by
  constructor
  · rintro rfl
    rw [toNat_char_byte, UInt8.ofNat_toNat]
  · rintro rfl
    rw [toNat_byte (by omega), Char.ofNat_toNat]

theorem mem_utf8EncodeChar_iff {b : UInt8} (hb : b < 0x80) (c : Char) :
    b ∈ String.utf8EncodeChar c ↔ c = Char.ofNat b.toNat := by
  by_cases hc : c.toNat < 0x80
  · rw [utf8EncodeChar_ascii hc, List.mem_singleton, ← char_eq_iff hb hc, eq_comm]
  · refine iff_of_false (fun hmem => utf8EncodeChar_beyond hc b hmem hb) ?_
    rintro rfl
    rw [toNat_char_byte] at hc
    exact hc (UInt8.lt_iff_toNat_lt.1 hb)

/-- A byte of ASCII stands for its character and for nothing else. -/
theorem mem_encode_iff {b : UInt8} (hb : b < 0x80) (s : List Char) : b ∈ encode s ↔ Char.ofNat b.toNat ∈ s := by
  rw [encode, List.mem_flatMap]
  constructor
  · rintro ⟨c, hc, hmem⟩
    rwa [← (mem_utf8EncodeChar_iff hb c).1 hmem]
  · exact fun h => ⟨_, h, (mem_utf8EncodeChar_iff hb _).2 rfl⟩

/-! ## Linefeeds -/

theorem encode_newline : encode ['\n'] = [10] := rfl

theorem encode_ne_nil {c : Char} {s : List Char} : encode (c :: s) ≠ [] := by
  obtain ⟨b, bytes, hc, -⟩ := front_utf8EncodeChar c
  rw [encode_cons, hc]
  exact List.cons_ne_nil _ _

theorem isEmpty_encode (c : Char) (s : List Char) : (encode (c :: s)).isEmpty = false :=
  List.isEmpty_eq_false_iff.2 encode_ne_nil

theorem linefeed_not_mem_encode {s : List Char} (h : '\n' ∉ s) : (10 : UInt8) ∉ encode s :=
  mt (mem_encode_iff (by decide) s).1 h

theorem dropEndWhile_encode (s : List Char) :
    dropEndWhile (· = 10) (encode s) = encode (dropEndWhile (· = '\n') s) := by
  induction s using List.reverseRecOn with
  | nil => rfl
  | append_singleton s c ih =>
    rw [encode_append]
    by_cases hc : c = '\n'
    · subst hc
      have hbytes := List.rdropWhile_concat_pos (· = (10 : UInt8)) (encode s) 10 rfl
      have hchars := List.rdropWhile_concat_pos (· = '\n') s '\n' rfl
      exact hbytes.trans (ih.trans (congrArg encode hchars.symm))
    · have hlast : ∃ bytes b, encode [c] = bytes ++ [b] ∧ b ≠ 10 := by
        obtain ⟨bytes, b, h⟩ := List.eq_nil_or_concat' (encode [c]) |>.resolve_left encode_ne_nil
        have hb := linefeed_not_mem_encode (s := [c]) (by simpa using Ne.symm hc)
        exact ⟨bytes, b, h, fun he => hb (by rw [h, he]; exact List.mem_append_right _ List.mem_cons_self)⟩
      obtain ⟨bytes, b, h, hb⟩ := hlast
      have hbytes := List.rdropWhile_concat_neg (· = (10 : UInt8)) (encode s ++ bytes) b (by simpa using hb)
      have hchars := List.rdropWhile_concat_neg (· = '\n') s c (by simpa using hc)
      rw [h, ← List.append_assoc]
      refine hbytes.trans ?_
      rw [List.append_assoc, ← h, ← encode_append]
      exact congrArg encode hchars.symm

end BlogMarkdown.Text.Utf8
