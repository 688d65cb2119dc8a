/-!
# UTF-8

Characters as bytes, and bytes as characters with the place of the first fault. A fault is
found where a byte cannot continue the sequence before it, and is told by where that sequence
starts and how many of its bytes are well formed; a text that ends inside a sequence is
incomplete. `decodeLossy` writes one replacement character for each such maximal part instead.
-/
namespace BlogMarkdown.Text.Utf8

/-- The bytes of a text. -/
def encode (s : List Char) : List UInt8 := s.flatMap String.utf8EncodeChar

/-- The number of bytes of a text. -/
def byteLength : List Char → Nat
  | [] => 0
  | c :: s => c.utf8Size + byteLength s

theorem byteLength_cons (c : Char) (s : List Char) :
    byteLength (c :: s) = c.utf8Size + byteLength s := rfl

theorem byteLength_append (s t : List Char) :
    byteLength (s ++ t) = byteLength s + byteLength t := by
  induction s with
  | nil => simp [byteLength]
  | cons c s ih => simp [byteLength, ih, Nat.add_assoc]

/-- The longest beginning of a text that has at most `n` bytes. -/
def takeBytes : Nat → List Char → List Char
  | _, [] => []
  | n, c :: s => if c.utf8Size ≤ n then c :: takeBytes (n - c.utf8Size) s else []

/-- What `takeBytes` leaves. -/
def dropBytes : Nat → List Char → List Char
  | _, [] => []
  | n, c :: s => if c.utf8Size ≤ n then dropBytes (n - c.utf8Size) s else c :: s

theorem takeBytes_append_dropBytes (n : Nat) (s : List Char) :
    takeBytes n s ++ dropBytes n s = s := by
  induction s generalizing n with
  | nil => rfl
  | cons c s ih =>
    by_cases h : c.utf8Size ≤ n
    · simp [takeBytes, dropBytes, h, ih]
    · simp [takeBytes, dropBytes, h]

theorem takeBytes_byteLength_append (s t : List Char) : takeBytes (byteLength s) (s ++ t) = s := by
  induction s with
  | nil =>
    cases t with
    | nil => rfl
    | cons c t =>
      have hc : ¬ c.utf8Size ≤ 0 := by have := c.utf8Size_pos; omega
      simp [takeBytes, byteLength, hc]
  | cons c s ih => simp [takeBytes, byteLength_cons, ih]

theorem dropBytes_byteLength_append (s t : List Char) : dropBytes (byteLength s) (s ++ t) = t := by
  have h := takeBytes_append_dropBytes (byteLength s) (s ++ t)
  rw [takeBytes_byteLength_append] at h
  exact List.append_cancel_left h

/-- Why bytes are not UTF-8: the sequence that starts at `start` breaks off after `valid`
bytes, or the text ends inside it. -/
inductive Fault where
  | invalid (valid start : Nat)
  | incomplete (start : Nat)
  deriving Repr, DecidableEq

/-- The words for a fault. -/
def Fault.message : Fault → String
  | .invalid valid start =>
    "invalid utf-8 sequence of " ++ toString valid ++ " bytes from index " ++ toString start
  | .incomplete start => "incomplete utf-8 byte sequence from index " ++ toString start

/-- The first byte of a sequence: how many bytes follow, the range of the first of them, and the
bits that the first byte gives. -/
def lead (b : UInt8) : Option (Nat × UInt8 × UInt8 × Nat) :=
  if 0xc2 ≤ b ∧ b ≤ 0xdf then some (1, 0x80, 0xbf, b.toNat - 0xc0)
  else if b = 0xe0 then some (2, 0xa0, 0xbf, 0)
  else if b = 0xed then some (2, 0x80, 0x9f, 0xd)
  else if 0xe1 ≤ b ∧ b ≤ 0xef then some (2, 0x80, 0xbf, b.toNat - 0xe0)
  else if b = 0xf0 then some (3, 0x90, 0xbf, 0)
  else if b = 0xf4 then some (3, 0x80, 0x8f, 4)
  else if 0xf1 ≤ b ∧ b ≤ 0xf3 then some (3, 0x80, 0xbf, b.toNat - 0xf0)
  else none

/-- What stands at the front of a byte text: a character of `size` bytes, or a fault whose first
`valid` bytes were well formed; `atEnd` if it is the end that breaks the sequence off. -/
inductive Front where
  | char (c : Char) (size : Nat)
  | broken (valid : Nat) (atEnd : Bool)
  deriving Repr, DecidableEq

/-- Reads the bytes that continue a sequence. -/
def continuation (need : Nat) (low high : UInt8) (bits used : Nat) : List UInt8 → Front
  | rest =>
    match need with
    | 0 => .char (Char.ofNat bits) used
    | need + 1 =>
      match rest with
      | [] => .broken used true
      | b :: rest =>
        if low ≤ b ∧ b ≤ high then
          continuation need 0x80 0xbf (bits * 64 + (b.toNat - 0x80)) (used + 1) rest
        else .broken used false

/-- The first character of `b :: rest`, or the fault that stands there. -/
def front (b : UInt8) (rest : List UInt8) : Front :=
  if b < 0x80 then .char (Char.ofNat b.toNat) 1
  else match lead b with
    | none => .broken 1 false
    | some (need, low, high, bits) => continuation need low high bits 1 rest

/-- Reads from the byte at `start`; `skip` bytes of the character before are still to pass, and
`read` holds the characters so far, last one first. -/
def decodeFrom (read : List Char) (start skip : Nat) : List UInt8 → Except Fault (List Char)
  | [] => .ok read.reverse
  | b :: rest =>
    match skip with
    | skip + 1 => decodeFrom read (start + 1) skip rest
    | 0 =>
      match front b rest with
      | .char c size => decodeFrom (c :: read) (start + 1) (size - 1) rest
      | .broken valid atEnd => .error (if atEnd then .incomplete start else .invalid valid start)

/-- The text of a byte sequence that is UTF-8 throughout. -/
def decode (bytes : List UInt8) : Except Fault (List Char) := decodeFrom [] 0 0 bytes

/-- Reads with one replacement character for each faulty part. -/
def decodeLossyFrom (read : List Char) (skip : Nat) : List UInt8 → List Char
  | [] => read.reverse
  | b :: rest =>
    match skip with
    | skip + 1 => decodeLossyFrom read skip rest
    | 0 =>
      match front b rest with
      | .char c size => decodeLossyFrom (c :: read) (size - 1) rest
      | .broken valid _ => decodeLossyFrom ('\ufffd' :: read) (valid - 1) rest

/-- The text of a byte sequence, with U+FFFD for each part that is not UTF-8. -/
def decodeLossy (bytes : List UInt8) : List Char := decodeLossyFrom [] 0 bytes

end BlogMarkdown.Text.Utf8
