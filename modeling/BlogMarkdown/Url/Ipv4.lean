import BlogMarkdown.Text.Numeral
/-!
# IPv4 addresses

A host whose last label is a number is an IPv4 address: up to four numbers in decimal, octal or
hexadecimal, of which the last one fills all the bytes that are left.
-/
namespace BlogMarkdown.Url.Ipv4

open Text

/-- The number that a label stands for: `0x` begins a hexadecimal one, another `0` an octal one. -/
def number? (label : List Char) : Option Nat :=
  match label with
  | [] => none
  | '0' :: 'x' :: digits | '0' :: 'X' :: digits => digits? 16 digits
  | ['0'] => some 0
  | '0' :: digits => digits? 8 digits
  | digits => digits? 10 digits

/-- The labels of a host without the empty one behind a dot at its end. -/
def labels (host : List Char) : List (List Char) :=
  let labels := host.splitOnP (· = '.')
  if labels.getLast? = some [] then labels.dropLast else labels

/-- Whether the last label of a host is a number. -/
def endsInNumber (host : List Char) : Bool :=
  match (labels host).getLast? with
  | none => false
  | some last => (!last.isEmpty && last.all Char.isDigit) || (number? last).isSome

/-- The address that a host stands for, as a number of 32 bits. -/
def address? (host : List Char) : Option Nat :=
  match (labels host).mapM number? with
  | none => none
  | some numbers =>
    match numbers.reverse with
    | [] => none
    | last :: before =>
      let free := 4 - before.length
      if 3 < before.length ∨ Nat.pow 256 free ≤ last ∨ before.any (255 < ·) then none
      else some (before.reverse.foldl (fun n b => n * 256 + b) 0 * Nat.pow 256 free + last)

/-- An address as four numbers with dots between them. -/
def text (address : Nat) : List Char :=
  let byte (i : Nat) := toString (address / Nat.pow 256 i % 256)
  (".".intercalate [byte 3, byte 2, byte 1, byte 0]).toList

end BlogMarkdown.Url.Ipv4
