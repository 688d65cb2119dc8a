import BlogMarkdown.Text.Numeral
/-!
# Percent encoding

A byte that may not stand in a part of a URL is written as a percent sign and two hexadecimal digits.
Each part has its own set of characters that are written so; all outside of printable ASCII always
are. Reading leaves a percent sign alone that no two digits follow.
-/
namespace BlogMarkdown.Url.Percent

/-- Controls, and all beyond ASCII. -/
def isControl (c : Char) : Bool := c < ' ' || '~' < c

/-- The characters that a fragment cannot hold. -/
def isBarredInFragment (c : Char) : Bool :=
  isControl c || c = ' ' || c = '"' || c = '<' || c = '>' || c.toNat = 0x60

/-- The characters that a segment of a path cannot hold. -/
def isBarredInPath (c : Char) : Bool :=
  isBarredInFragment c || c = '#' || c = '?' || c = '\x7b' || c = '\x7d'

/-- A byte as a percent sign and two digits. -/
def encodeByte (b : UInt8) : List Char :=
  let digit (n : Nat) : Char := Char.ofNat (if n < 10 then '0'.toNat + n else 'A'.toNat + (n - 10))
  ['%', digit (b.toNat / 16), digit (b.toNat % 16)]

/-- The text with the barred characters encoded. -/
def encode (isBarred : Char → Bool) (s : List Char) : List Char :=
  s.flatMap fun c => if isBarred c then (String.utf8EncodeChar c).flatMap encodeByte else [c]

/-- The byte that two digits stand for. -/
def byte? (high low : UInt8) : Option UInt8 :=
  (Text.digits? 16 [Char.ofNat high.toNat, Char.ofNat low.toNat]).map UInt8.ofNat

/-- The bytes with each encoded one decoded. -/
def decode : List UInt8 → List UInt8
  | [] => []
  | [b] => [b]
  | [b, c] => [b, c]
  | b :: high :: low :: rest =>
    match if b = 0x25 then byte? high low else none with
    | some value => value :: decode rest
    | none => b :: decode (high :: low :: rest)

end BlogMarkdown.Url.Percent
