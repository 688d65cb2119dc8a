import BlogMarkdown.Text.Numeral
import BlogMarkdown.Text.Quoted
/-!
# IPv6 addresses

Eight numbers of 16 bits in hexadecimal, colons between them. Two colons stand for as many zeros as
are missing, and the last two numbers may have the form of an IPv4 address. Written back, the longest
run of two zeros or more becomes the two colons.
-/
namespace BlogMarkdown.Url.Ipv6

open Text

/-- A byte of an IPv4 address inside an IPv6 address: decimal, with no zero in front of other
digits. -/
def byte? (digits : List Char) : Option Nat :=
  match digits with
  | [] => none
  | '0' :: _ :: _ => none
  | digits => (digits? 10 digits).filter (· < 256)

/-- The two numbers that an IPv4 address at the end stands for. -/
def tail? (text : List Char) : Option (List Nat) :=
  match (text.splitOnP (· = '.')).map byte? with
  | [some a, some b, some c, some d] => some [a * 256 + b, c * 256 + d]
  | _ => none

/-- Some numbers with colons between them; an IPv4 address may stand for the last two. -/
def numbers? (parts : List (List Char)) : Option (List Nat) :=
  match parts with
  | [] => some []
  | part :: rest =>
    if part.contains '.' then if rest.isEmpty then tail? part else none
    else if part.isEmpty ∨ 4 < part.length then none
    else
      match digits? 16 part, numbers? rest with
      | some n, some ns => some (n :: ns)
      | _, _ => none

/-- The parts of a text between colons; the empty text has none. -/
def parts (text : List Char) : List (List Char) :=
  if text.isEmpty then [] else text.splitOnP (· = ':')

/-- Parts a text at the first two colons that follow each other. -/
def splitGap (before : List Char) : List Char → Option (List Char × List Char)
  | ':' :: ':' :: after => some (before.reverse, after)
  | c :: rest => splitGap (c :: before) rest
  | [] => none

/-- The eight numbers of an address. -/
def address? (text : List Char) : Option (List Nat) :=
  match splitGap [] text with
  | none => (numbers? (parts text)).filter (·.length = 8)
  | some (before, after) =>
    if before.contains '.' then none
    else
      match numbers? (parts before), numbers? (parts after) with
      | some front, some back =>
        if 7 < front.length + back.length then none
        else some (front ++ List.replicate (8 - front.length - back.length) 0 ++ back)
      | _, _ => none

/-- The number of zeros at the front of some numbers. -/
def zeros (numbers : List Nat) : Nat := (numbers.takeWhile (· = 0)).length

/-- The place and the length of the first longest run of zeros from place `i` on, if one is longer than
`best`. -/
def longestRun (i : Nat) (best : Nat × Nat) : List Nat → Nat × Nat
  | [] => best
  | n :: rest =>
    let run := zeros (n :: rest)
    longestRun (i + 1) (if best.2 < run then (i, run) else best) rest

/-- Some numbers in hexadecimal with colons between them. -/
def joined (numbers : List Nat) : List Char := [':'].intercalate (numbers.map hex)

/-- An address in its short form. -/
def text (numbers : List Nat) : List Char :=
  let (start, length) := longestRun 0 (0, 0) numbers
  if length < 2 then joined numbers
  else joined (numbers.take start) ++ [':', ':'] ++ joined (numbers.drop (start + length))

end BlogMarkdown.Url.Ipv6
