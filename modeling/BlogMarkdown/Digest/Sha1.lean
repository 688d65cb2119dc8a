import BlogMarkdown.Text.Utf8
/-!
# SHA-1

The digest of 160 bits that tells files of one name apart. A message is filled up to blocks of sixteen
words; each block is stretched to eighty words and mixed into five words of state.
-/
namespace BlogMarkdown.Digest.Sha1

/-- The five words that blocks are mixed into. -/
structure State where
  a : UInt32
  b : UInt32
  c : UInt32
  d : UInt32
  e : UInt32
  deriving Repr, DecidableEq

/-- The state before the first block. -/
def State.initial : State := ⟨0x67452301, 0xefcdab89, 0x98badcfe, 0x10325476, 0xc3d2e1f0⟩

/-- The sum of two states, word by word. -/
def State.add (s t : State) : State := ⟨s.a + t.a, s.b + t.b, s.c + t.c, s.d + t.d, s.e + t.e⟩

/-- Turns a word to the left; the bits that fall off come back on the right. -/
def rotate (w n : UInt32) : UInt32 := (w <<< n) ||| (w >>> (32 - n))

/-- A number as eight bytes, the highest first. -/
def lengthBytes (n : Nat) : List UInt8 :=
  [7, 6, 5, 4, 3, 2, 1, 0].map fun i => UInt8.ofNat (n / Nat.pow 256 i)

/-- The message with a one bit, zeros and its length in bits behind it, up to a whole number of
blocks. -/
def padded (message : List UInt8) : List UInt8 :=
  let zeros := (119 - message.length % 64) % 64
  message ++ 0x80 :: List.replicate zeros 0 ++ lengthBytes (message.length * 8)

/-- The words of some bytes, the highest byte of each first. -/
def words : List UInt8 → List UInt32
  | a :: b :: c :: d :: rest =>
    (a.toUInt32 <<< 24 ||| b.toUInt32 <<< 16 ||| c.toUInt32 <<< 8 ||| d.toUInt32) :: words rest
  | _ => []

/-- Adds `n` words to a block, whose last word is first. -/
def stretch : Nat → List UInt32 → List UInt32
  | 0, ws => ws
  | n + 1, ws =>
    let word (i : Nat) := ws[i]?.getD 0
    stretch n (rotate (word 2 ^^^ word 7 ^^^ word 13 ^^^ word 15) 1 :: ws)

/-- The mixing function and the constant of round `i`. -/
def mixing (i : Nat) (s : State) : UInt32 × UInt32 :=
  if i < 20 then ((s.b &&& s.c) ||| (~~~s.b &&& s.d), 0x5a827999)
  else if i < 40 then (s.b ^^^ s.c ^^^ s.d, 0x6ed9eba1)
  else if i < 60 then ((s.b &&& s.c) ||| (s.b &&& s.d) ||| (s.c &&& s.d), 0x8f1bbcdc)
  else (s.b ^^^ s.c ^^^ s.d, 0xca62c1d6)

/-- Round `i` with its word. -/
def round (s : State) (word : UInt32) (i : Nat) : State :=
  let (mixed, constant) := mixing i s
  ⟨rotate s.a 5 + mixed + s.e + constant + word, s.a, rotate s.b 30, s.c, s.d⟩

/-- Mixes a block into a state. -/
def compress (s : State) (block : List UInt32) : State :=
  s.add (((stretch 64 block.reverse).reverse.zipIdx).foldl (fun s (word, i) => round s word i) s)

/-- Mixes `n` blocks into a state. -/
def blocks : Nat → State → List UInt32 → State
  | 0, s, _ => s
  | n + 1, s, ws => blocks n (compress s (ws.take 16)) (ws.drop 16)

/-- The digest of a message. -/
def hash (message : List UInt8) : State :=
  let ws := words (padded message)
  blocks (ws.length / 16) .initial ws

/-- A word as eight hexadecimal digits. -/
def wordText (w : UInt32) : List Char :=
  let digits := Nat.toDigits 16 w.toNat
  List.replicate (8 - digits.length) '0' ++ digits

/-- A digest as forty hexadecimal digits. -/
def State.text (s : State) : List Char := [s.a, s.b, s.c, s.d, s.e].flatMap wordText

/-- The first eight digits of the digest of a text. -/
def short (text : List Char) : List Char := wordText (hash (Text.Utf8.encode text)).a

end BlogMarkdown.Digest.Sha1
