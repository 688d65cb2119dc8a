/-!
# UTF-16

Bytes of either order as characters. A surrogate without its partner, and a byte without its
partner at the end, stand for the replacement character.
-/
namespace BlogMarkdown.Text.Utf16

/-- The first of two units that make a character together. -/
def isHigh (unit : Nat) : Bool := 0xd800 ≤ unit && unit < 0xdc00

/-- The second of two units that make a character together. -/
def isLow (unit : Nat) : Bool := 0xdc00 ≤ unit && unit < 0xe000

/-- The character of two units. -/
def joined (high low : Nat) : Char := Char.ofNat (0x10000 + (high - 0xd800) * 0x400 + (low - 0xdc00))

/-- Takes a unit behind the characters `read`, the last one first, and the first half `high` of a
pair: the characters then read, and the first half that then waits. -/
def take (read : List Char) (high : Option Nat) (unit : Nat) : List Char × Option Nat :=
  match high with
  | some h =>
    if isLow unit then (joined h unit :: read, none)
    else if isHigh unit then ('\ufffd' :: read, some unit)
    else (Char.ofNat unit :: '\ufffd' :: read, none)
  | none =>
    if isHigh unit then (read, some unit)
    else if isLow unit then ('\ufffd' :: read, none)
    else (Char.ofNat unit :: read, none)

/-- Reads two bytes at a time. -/
def decodeFrom (bigEndian : Bool) (read : List Char) (high : Option Nat) : List UInt8 → List Char
  | [] => if high.isSome then ('\ufffd' :: read).reverse else read.reverse
  | [_] => ('\ufffd' :: read).reverse
  | a :: b :: rest =>
    let unit := if bigEndian then a.toNat * 256 + b.toNat else b.toNat * 256 + a.toNat
    let (read, high) := take read high unit
    decodeFrom bigEndian read high rest

/-- The text of some bytes. -/
def decode (bigEndian : Bool) (bytes : List UInt8) : List Char := decodeFrom bigEndian [] none bytes

end BlogMarkdown.Text.Utf16
