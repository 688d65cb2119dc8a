import BlogMarkdown.Proofs.Text.Lossy
import BlogMarkdown.Url.Path
/-!
# What a text with escapes stands for

An escape is a percent sign and two digits behind it.  A text stands for the bytes of its characters, but each escape in
it for one byte; a part of a URL stands for the same bytes when it is encoded.  So a slash is among the bytes if it is
in the text, bare or escaped, and what stands for one dot or two is a segment that stands for no step or one back.
-/
namespace BlogMarkdown.Url.Percent

open Text Utf8

/-- The byte that two characters stand for as digits. -/
def value? (high low : Char) : Option UInt8 := (digits? 16 [high, low]).map UInt8.ofNat

/-- No two digits are in front. -/
def NoDigits (text : List Char) : Prop := ∀ high low rest, text = high :: low :: rest → value? high low = none

/-- A text and the bytes that it stands for. -/
inductive StandsFor : List Char → List UInt8 → Prop where
  | nil : StandsFor [] []
  | escape {high low : Char} {value : UInt8} {text : List Char} {bytes : List UInt8} (hvalue : value? high low = some value)
    (h : StandsFor text bytes) : StandsFor ('%' :: high :: low :: text) (value :: bytes)
  | char {c : Char} {text : List Char} {bytes : List UInt8} (hbare : c = '%' → NoDigits text)
    (h : StandsFor text bytes) : StandsFor (c :: text) (String.utf8EncodeChar c ++ bytes)

/-! ## Digits -/

/-- What is known of a digit. -/
structure IsDigit (c : Char) (d : Nat) : Prop where
  ascii : c.toNat < 0x80
  lt : d < 16
  two : d = 2 ↔ c = '2'
  fourteen : d = 14 ↔ c = 'e' ∨ c = 'E'
  fifteen : d = 15 ↔ c = 'f' ∨ c = 'F'
  unbarred : isBarredInPath c = false
  ne_percent : c ≠ '%'
  ne_slash : c ≠ '/'

theorem digitIn?_ascii : ∀ n < 0x80, ∀ d ∈ digitIn? 16 (Char.ofNat n), d < 16 ∧ (d = 2 ↔ Char.ofNat n = '2') ∧
    (d = 14 ↔ Char.ofNat n = 'e' ∨ Char.ofNat n = 'E') ∧ (d = 15 ↔ Char.ofNat n = 'f' ∨ Char.ofNat n = 'F') ∧
    isBarredInPath (Char.ofNat n) = false ∧ Char.ofNat n ≠ '%' ∧ Char.ofNat n ≠ '/' := by
  decide +kernel

theorem digitIn?_beyond {c : Char} (h : ¬ c.toNat < 0x80) : digitIn? 16 c = none := by
  have hout : ∀ d : Char, d.toNat < 0x80 → ¬ c ≤ d := fun d hd hle => by
    have hval : c.toNat ≤ d.toNat := hle
    omega
  rw [digitIn?, digitValue?, if_neg fun hc => hout _ (by decide) hc.2, if_neg fun hc => hout _ (by decide) hc.2,
    if_neg fun hc => hout _ (by decide) hc.2]
  rfl

theorem isDigit_of_digitIn? {c : Char} {d : Nat} (h : digitIn? 16 c = some d) : IsDigit c d := by
  by_cases hc : c.toNat < 0x80
  · obtain ⟨hlt, htwo, hfourteen, hfifteen, hunbarred, hpercent, hslash⟩ :=
      digitIn?_ascii c.toNat hc d (by rwa [Char.ofNat_toNat])
    rw [Char.ofNat_toNat] at *
    exact ⟨hc, hlt, htwo, hfourteen, hfifteen, hunbarred, hpercent, hslash⟩
  · rw [digitIn?_beyond hc] at h
    cases h

theorem value?_of_digits {high low : Char} {a b : Nat} (ha : digitIn? 16 high = some a)
    (hb : digitIn? 16 low = some b) : value? high low = some (UInt8.ofNat (a * 16 + b)) := by
  simp [value?, digits?, ha, hb]

theorem value?_eq_some {high low : Char} {v : UInt8} (h : value? high low = some v) :
    ∃ a b, IsDigit high a ∧ IsDigit low b ∧ v.toNat = a * 16 + b := by
  obtain ⟨a, ha⟩ : ∃ a, digitIn? 16 high = some a := by
    cases ha : digitIn? 16 high with
    | none => simp [value?, digits?, ha] at h
    | some a => exact ⟨a, rfl⟩
  obtain ⟨b, hb⟩ : ∃ b, digitIn? 16 low = some b := by
    cases hb : digitIn? 16 low with
    | none => simp [value?, digits?, ha, hb] at h
    | some b => exact ⟨b, rfl⟩
  have hhigh := isDigit_of_digitIn? ha
  have hlow := isDigit_of_digitIn? hb
  refine ⟨a, b, hhigh, hlow, ?_⟩
  rw [value?_of_digits ha hb] at h
  rw [← Option.some.inj h, toNat_byte]
  have := hhigh.lt
  have := hlow.lt
  omega

/-! ## Decoding -/

theorem decode_cons_of_ne {b : UInt8} (hb : b ≠ 0x25) : ∀ rest : List UInt8, decode (b :: rest) = b :: decode rest
  | [] => rfl
  | [_] => rfl
  | _ :: _ :: _ => by rw [decode, if_neg hb]

theorem decode_append {front : List UInt8} (hfront : ∀ b ∈ front, b ≠ 0x25) (rest : List UInt8) :
    decode (front ++ rest) = front ++ decode rest := by
  induction front with
  | nil => rfl
  | cons b front ih =>
    rw [List.forall_mem_cons] at hfront
    rw [List.cons_append, decode_cons_of_ne hfront.1, ih hfront.2, List.cons_append]

theorem decode_percent : ∀ {rest : List UInt8}, (∀ high low tail, rest = high :: low :: tail → byte? high low = none) →
    decode (0x25 :: rest) = 0x25 :: decode rest
  | [], _ => rfl
  | [_], _ => rfl
  | high :: low :: tail, h => by rw [decode, if_pos rfl, h high low tail rfl]

theorem byte?_of_noDigits {text : List Char} (h : NoDigits text) {high low : UInt8} {tail : List UInt8}
    (htext : Utf8.encode text = high :: low :: tail) : byte? high low = none := by
  -- digits are ASCII, so they would be the first two characters
  refine Option.eq_none_iff_forall_ne_some.2 fun v hvalue => ?_
  have hvalue : value? (Char.ofNat high.toNat) (Char.ofNat low.toNat) = some v := hvalue
  have hascii : ∀ {b : UInt8}, (Char.ofNat b.toNat).toNat < 0x80 → b < 0x80 := fun {b} hb =>
    UInt8.lt_iff_toNat_lt.2 (toNat_char_byte b ▸ hb)
  obtain ⟨a, b, hhigh, hlow, -⟩ := value?_eq_some hvalue
  obtain ⟨rest, rfl, hrest⟩ := exists_of_encode_eq (hascii hhigh.ascii) htext
  obtain ⟨rest, rfl, -⟩ := exists_of_encode_eq (hascii hlow.ascii) hrest
  rw [h _ _ _ rfl] at hvalue
  cases hvalue

theorem percent_not_mem_utf8EncodeChar {c : Char} (hc : c ≠ '%') : ∀ b ∈ String.utf8EncodeChar c, b ≠ 0x25 := by
  rintro b hb rfl
  exact hc ((mem_utf8EncodeChar_iff (by decide) c).1 hb)

namespace StandsFor

variable {text : List Char} {bytes : List UInt8}

/-- **The bytes that a text stands for are those that are decoded.** -/
theorem decode_eq (h : StandsFor text bytes) : decode (Utf8.encode text) = bytes := by
  induction h with
  | nil => rfl
  | @escape high low value text bytes hvalue _ ih =>
    obtain ⟨a, b, hhigh, hlow, -⟩ := value?_eq_some hvalue
    have hbyte : byte? (UInt8.ofNat high.toNat) (UInt8.ofNat low.toNat) = some value := by
      rw [byte?, toNat_byte (by have := hhigh.ascii; omega), toNat_byte (by have := hlow.ascii; omega),
        Char.ofNat_toNat, Char.ofNat_toNat]
      exact hvalue
    rw [encode_cons, encode_cons, encode_cons, utf8EncodeChar_ascii (by decide), utf8EncodeChar_ascii hhigh.ascii,
      utf8EncodeChar_ascii hlow.ascii]
    show decode (0x25 :: UInt8.ofNat high.toNat :: UInt8.ofNat low.toNat :: Utf8.encode text) = _
    rw [decode, if_pos rfl, hbyte, ← ih]
  | @char c text bytes hbare _ ih =>
    rw [encode_cons]
    by_cases hc : c = '%'
    · subst hc
      have hnone : ∀ high low tail, Utf8.encode text = high :: low :: tail → byte? high low = none :=
        fun _ _ _ => byte?_of_noDigits (hbare rfl)
      rw [← ih]
      exact decode_percent hnone
    · rw [decode_append (percent_not_mem_utf8EncodeChar hc), ih]

end StandsFor

theorem exists_standsFor (text : List Char) : ∃ bytes, StandsFor text bytes := by
  induction hn : text.length using Nat.strongRecOn generalizing text with
  | ind n ih =>
    subst hn
    cases text with
    | nil => exact ⟨[], .nil⟩
    | cons c text =>
      by_cases hescape : ∃ high low v rest, c = '%' ∧ text = high :: low :: rest ∧ value? high low = some v
      · obtain ⟨high, low, v, rest, rfl, rfl, hvalue⟩ := hescape
        obtain ⟨bytes, h⟩ := ih rest.length (by simp only [List.length_cons]; omega) rest rfl
        exact ⟨_, .escape hvalue h⟩
      · obtain ⟨bytes, h⟩ := ih text.length (Nat.lt_succ_self _) text rfl
        refine ⟨_, .char (fun hc high low rest htext => ?_) h⟩
        refine Option.eq_none_iff_forall_ne_some.2 fun v hvalue => ?_
        exact hescape ⟨high, low, v, rest, hc, htext, hvalue⟩

/-- **A text stands for the bytes that are decoded of it.** -/
theorem standsFor_decode (text : List Char) : StandsFor text (decode (Utf8.encode text)) := by
  obtain ⟨bytes, h⟩ := exists_standsFor text
  rwa [h.decode_eq]

/-! ## Encoding -/

/-- What does not begin with an escape is not encoded there. -/
theorem exists_of_encode_cons {isBarred : Char → Bool} {c : Char} (hc : c ≠ '%') {text rest : List Char}
    (h : encode isBarred text = c :: rest) : ∃ text', text = c :: text' ∧ encode isBarred text' = rest := by
  cases text with
  | nil => cases h
  | cons d text =>
    rw [encode, List.flatMap_cons] at h
    split at h
    · obtain ⟨b, bytes, hbytes, -⟩ := front_utf8EncodeChar d
      rw [hbytes] at h
      exact absurd (List.cons.inj h).1.symm hc
    · obtain ⟨rfl, hrest⟩ := List.cons.inj h
      exact ⟨text, rfl, hrest⟩

theorem NoDigits.encode {isBarred : Char → Bool} {text : List Char} (h : NoDigits text) :
    NoDigits (encode isBarred text) := by
  intro high low rest htext
  refine Option.eq_none_iff_forall_ne_some.2 fun v hvalue => ?_
  obtain ⟨a, b, hhigh, hlow, -⟩ := value?_eq_some hvalue
  obtain ⟨rest, rfl, hrest⟩ := exists_of_encode_cons hhigh.ne_percent htext
  obtain ⟨rest, rfl, -⟩ := exists_of_encode_cons hlow.ne_percent hrest
  rw [h _ _ _ rfl] at hvalue
  cases hvalue

theorem digitIn?_written : ∀ n < 16,
    digitIn? 16 (Char.ofNat (if n < 10 then '0'.toNat + n else 'A'.toNat + (n - 10))) = some n := by
  decide +kernel

namespace StandsFor

variable {text : List Char} {bytes : List UInt8}

theorem encodeByte (h : StandsFor text bytes) (b : UInt8) : StandsFor (Percent.encodeByte b ++ text) (b :: bytes) := by
  have hb : b.toNat < 256 := b.toNat_lt
  have hsum : b.toNat / 16 * 16 + b.toNat % 16 = b.toNat := Nat.div_add_mod' ..
  have hvalue := value?_of_digits (digitIn?_written (b.toNat / 16) (by omega))
    (digitIn?_written (b.toNat % 16) (by omega))
  rw [hsum, UInt8.ofNat_toNat] at hvalue
  exact .escape hvalue h

theorem encodeBytes (h : StandsFor text bytes) : ∀ front : List UInt8,
    StandsFor (front.flatMap Percent.encodeByte ++ text) (front ++ bytes)
  | [] => h
  | b :: front => by
    rw [List.flatMap_cons, List.append_assoc]
    exact (h.encodeBytes front).encodeByte b

/-- **A segment stands for the same bytes when it is encoded.** -/
theorem encode (h : StandsFor text bytes) : StandsFor (encode isBarredInPath text) bytes := by
  induction h with
  | nil => exact .nil
  | @escape high low v text bytes hvalue _ ih =>
    obtain ⟨a, b, hhigh, hlow, -⟩ := value?_eq_some hvalue
    have hkept : Percent.encode isBarredInPath ('%' :: high :: low :: text) =
        '%' :: high :: low :: Percent.encode isBarredInPath text := by
      simp [Percent.encode, hhigh.unbarred, hlow.unbarred, show isBarredInPath '%' = false from rfl]
    rw [hkept]
    exact .escape hvalue ih
  | @char c text bytes hbare _ ih =>
    rw [Percent.encode, List.flatMap_cons]
    split
    · exact ih.encodeBytes _
    · exact .char (fun hc => (hbare hc).encode) ih

end StandsFor

theorem decode_encode (text : List Char) :
    decode (Utf8.encode (encode isBarredInPath text)) = decode (Utf8.encode text) :=
  (standsFor_decode text).encode.decode_eq

/-! ## Slashes and dots -/

/-- An escape for a slash. -/
def EscapesSlash (text : List Char) : Prop := "%2F".toList <:+: text ∨ "%2f".toList <:+: text

theorem escapesSlash_cons {c : Char} {text : List Char} : EscapesSlash (c :: text) ↔
    (c = '%' ∧ ∃ mark rest, (mark = 'f' ∨ mark = 'F') ∧ text = '2' :: mark :: rest) ∨ EscapesSlash text := by
  have hfront (mark : Char) : ['%', '2', mark] <+: c :: text ↔ c = '%' ∧ ∃ rest, text = '2' :: mark :: rest := by
    rw [List.cons_prefix_cons]
    exact and_congr eq_comm (exists_congr fun _ => eq_comm)
  show ['%', '2', 'F'] <:+: c :: text ∨ ['%', '2', 'f'] <:+: c :: text ↔
    _ ∨ ['%', '2', 'F'] <:+: text ∨ ['%', '2', 'f'] <:+: text
  rw [List.infix_cons_iff, List.infix_cons_iff, hfront, hfront]
  constructor
  · rintro ((⟨hc, rest, h⟩ | h) | ⟨hc, rest, h⟩ | h)
    · exact .inl ⟨hc, _, rest, .inr rfl, h⟩
    · exact .inr (.inl h)
    · exact .inl ⟨hc, _, rest, .inl rfl, h⟩
    · exact .inr (.inr h)
  · rintro (⟨hc, mark, rest, rfl | rfl, h⟩ | h | h)
    · exact .inr (.inl ⟨hc, rest, h⟩)
    · exact .inl (.inl ⟨hc, rest, h⟩)
    · exact .inl (.inr h)
    · exact .inr (.inr h)

theorem escapesSlash_cons_of_ne {c : Char} {text : List Char} (hc : c ≠ '%') :
    EscapesSlash (c :: text) ↔ EscapesSlash text := by
  rw [escapesSlash_cons, or_iff_right fun h => hc h.1]

namespace StandsFor

variable {text : List Char} {bytes : List UInt8}

/-- **A slash is decoded** where one stands bare or escaped. -/
theorem slash_mem_iff (h : StandsFor text bytes) : 0x2f ∈ bytes ↔ '/' ∈ text ∨ EscapesSlash text := by
  induction h with
  | nil => simp [EscapesSlash]
  | @escape high low v text bytes hvalue _ ih =>
    obtain ⟨a, b, hhigh, hlow, hv⟩ := value?_eq_some hvalue
    have hslash : 0x2f = v ↔ high = '2' ∧ (low = 'f' ∨ low = 'F') := by
      rw [← hhigh.two, ← hlow.fifteen, ← UInt8.toNat_inj, hv]
      have := hlow.lt
      show 47 = _ ↔ _
      omega
    have hfront : (∃ mark rest, (mark = 'f' ∨ mark = 'F') ∧ high :: low :: text = '2' :: mark :: rest) ↔
        high = '2' ∧ (low = 'f' ∨ low = 'F') := by
      simp only [List.cons.injEq]
      constructor
      · rintro ⟨_, _, hmark, hhigh, rfl, -⟩
        exact ⟨hhigh, hmark⟩
      · rintro ⟨hhigh, hlow⟩
        exact ⟨low, text, hlow, hhigh, rfl, rfl⟩
    rw [List.mem_cons, ih, hslash, escapesSlash_cons, escapesSlash_cons_of_ne hhigh.ne_percent,
      escapesSlash_cons_of_ne hlow.ne_percent, hfront]
    simp only [List.mem_cons, hhigh.ne_slash.symm, hlow.ne_slash.symm, show '/' ≠ '%' by decide, false_or, true_and]
    exact or_left_comm
  | @char c text bytes hbare _ ih =>
    have hnone : ¬ (c = '%' ∧ ∃ mark rest, (mark = 'f' ∨ mark = 'F') ∧ text = '2' :: mark :: rest) := by
      rintro ⟨hc, mark, rest, hmark, htext⟩
      have hvalue := hbare hc _ _ _ htext
      rcases hmark with rfl | rfl <;> cases hvalue
    rw [List.mem_append, ih, mem_utf8EncodeChar_iff (by decide), escapesSlash_cons, or_iff_right hnone, List.mem_cons,
      or_assoc]
    exact or_congr_left eq_comm

theorem eq_nil (h : StandsFor text []) : text = [] := by
  generalize hbytes : [] = bytes at h
  cases h with
  | nil => rfl
  | escape => cases hbytes
  | @char c =>
    obtain ⟨b, rest, hc, -⟩ := front_utf8EncodeChar c
    rw [hc] at hbytes
    cases hbytes

theorem dot_append {dot : List Char} (hdot : dot ∈ Path.dot) (h : StandsFor text bytes) :
    StandsFor (dot ++ text) (0x2e :: bytes) := by
  simp only [Path.dot, List.mem_cons, List.not_mem_nil, or_false] at hdot
  rcases hdot with rfl | rfl | rfl
  · exact .char (c := '.') nofun h
  · exact .escape rfl h
  · exact .escape rfl h

theorem exists_dot (h : StandsFor text (0x2e :: bytes)) :
    ∃ dot ∈ Path.dot, ∃ rest, text = dot ++ rest ∧ StandsFor rest bytes := by
  generalize hbytes : 0x2e :: bytes = all at h
  cases h with
  | nil => cases hbytes
  | @escape high low v rest _ hvalue h =>
    obtain ⟨rfl, rfl⟩ := List.cons.inj hbytes
    obtain ⟨a, b, hhigh, hlow, hv⟩ := value?_eq_some hvalue
    have hv : 46 = a * 16 + b := hv
    have := hlow.lt
    obtain rfl := hhigh.two.1 (by omega)
    rcases hlow.fourteen.1 (by omega) with rfl | rfl
    · exact ⟨"%2e".toList, by decide, rest, rfl, h⟩
    · exact ⟨"%2E".toList, by decide, rest, rfl, h⟩
  | @char c rest bytes' _ h =>
    have hmem : 0x2e ∈ String.utf8EncodeChar c := by
      obtain ⟨b, front, hc, -⟩ := front_utf8EncodeChar c
      rw [hc] at hbytes ⊢
      exact (List.cons.inj hbytes).1 ▸ List.mem_cons_self
    obtain rfl := (mem_utf8EncodeChar_iff (by decide) c).1 hmem
    obtain ⟨-, rfl⟩ := List.cons.inj hbytes
    exact ⟨".".toList, by decide, rest, rfl, h⟩

end StandsFor

theorem isDot_iff (text : List Char) : Path.isDot text = true ↔ decode (Utf8.encode text) = [0x2e] := by
  rw [Path.isDot, List.contains_iff_mem]
  constructor
  · intro hdot
    have h := StandsFor.nil.dot_append hdot
    rw [List.append_nil] at h
    exact h.decode_eq
  · intro hbytes
    obtain ⟨dot, hdot, rest, rfl, h⟩ := (hbytes ▸ standsFor_decode text).exists_dot
    rwa [h.eq_nil, List.append_nil]

theorem isDoubleDot_iff (text : List Char) :
    Path.isDoubleDot text = true ↔ decode (Utf8.encode text) = [0x2e, 0x2e] := by
  simp only [Path.isDoubleDot, List.any_eq_true, decide_eq_true_eq]
  constructor
  · rintro ⟨first, hfirst, second, hsecond, rfl⟩
    have h := (StandsFor.nil.dot_append hsecond).dot_append hfirst
    rw [List.append_nil] at h
    exact h.decode_eq
  · intro hbytes
    obtain ⟨first, hfirst, rest, rfl, hrest⟩ := (hbytes ▸ standsFor_decode text).exists_dot
    obtain ⟨second, hsecond, rest, rfl, hend⟩ := hrest.exists_dot
    exact ⟨first, hfirst, second, hsecond, by rw [hend.eq_nil, List.append_nil]⟩

end BlogMarkdown.Url.Percent
