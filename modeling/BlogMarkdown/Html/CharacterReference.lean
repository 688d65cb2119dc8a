import BlogMarkdown.Html.ReferenceTable
import BlogMarkdown.Text.Ranges
import Std.Data.HashMap
/-!
# Character references

What `&…` stands for in HTML. A reference is a number, decimal or hexadecimal, or a name; numbers may
lack their semicolon, and so may some names. In attribute values a name without a semicolon is no
reference if a letter, a digit or an equals sign follows it.
-/
namespace BlogMarkdown.Html

/-- What a name stands for, and whether it needs no semicolon. -/
structure NamedReference where
  text : List Char
  loose : Bool
  deriving Repr, DecidableEq

/-- One entry of the table. -/
def readReferenceEntry (entry : List Char) : String × NamedReference :=
  let (name, rest) := entry.span (fun c => c ≠ ';' && c ≠ '?')
  let codes := (rest.drop 1).splitOnP (· = '+')
  (String.ofList name, ⟨codes.map (Char.ofNat ∘ Text.Ranges.number), rest.head? = some '?'⟩)

/-- The references by name. -/
def namedReferences : Std.HashMap String NamedReference :=
  .ofList (referenceLines.flatMap fun line =>
    (line.toList.splitOnP (· = ' ')).map readReferenceEntry)

/-- The length of the longest name. -/
def longestName : Nat := 31

/-- The longest name without a semicolon that a run of letters and digits begins with, no longer
than the bound. -/
def looseName? (run : List Char) : Nat → Option (List Char × Nat)
  | 0 => none
  | length + 1 =>
    match namedReferences[String.ofList (run.take (length + 1))]? with
    | some ⟨text, true⟩ => some (text, length + 1)
    | _ => looseName? run length

/-- A name behind `&`: what it stands for, and how many characters it has. -/
def namedReference? (inValue : Bool) (text : List Char) : Option (List Char × Nat) :=
  let run := (text.take (longestName + 1)).takeWhile Char.isAlphanum
  let whole := if (text.drop run.length).head? = some ';' then
      namedReferences[String.ofList run]? else none
  match whole with
  | some reference => some (reference.text, run.length + 1)
  | none =>
    match looseName? run run.length with
    | none => none
    | some (replacement, length) =>
      let next := (text.drop length).head?
      if inValue ∧ next.any (fun c => c = '=' || c.isAlphanum) then none
      else some (replacement, length)

/-- The characters that numbers from 128 to 159 stand for, as in Windows-1252. -/
def c1Replacements : List Nat :=
  [0x20ac, 0x81, 0x201a, 0x192, 0x201e, 0x2026, 0x2020, 0x2021, 0x2c6, 0x2030, 0x160, 0x2039,
    0x152, 0x8d, 0x17d, 0x8f, 0x90, 0x2018, 0x2019, 0x201c, 0x201d, 0x2022, 0x2013, 0x2014, 0x2dc,
    0x2122, 0x161, 0x203a, 0x153, 0x9d, 0x17e, 0x178]

/-- The character that a number stands for; numbers of no character become U+FFFD. -/
def numberedChar (n : Nat) : Char :=
  if n = 0 ∨ n > 0x10ffff ∨ (0xd800 ≤ n ∧ n ≤ 0xdfff) then '\ufffd'
  else if 0x80 ≤ n ∧ n ≤ 0x9f then Char.ofNat ((c1Replacements[n - 0x80]?).getD n)
  else Char.ofNat n

/-- Whether a character is a hexadecimal digit. -/
def isHexDigit (c : Char) : Bool :=
  c.isDigit || ('a' ≤ c && c ≤ 'f') || ('A' ≤ c && c ≤ 'F')

/-- The value of some digits. -/
def digitsValue (base : Nat) (digits : List Char) : Nat :=
  digits.foldl (fun n c => n * base + Text.Ranges.digit c.toLower) 0

/-- A number behind `&#`: the character and how many characters there are behind the `&`. -/
def numericReference? (text : List Char) : Option (List Char × Nat) :=
  let (base, digits, start) := match text with
    | 'x' :: rest | 'X' :: rest => (16, rest.takeWhile isHexDigit, 2)
    | _ => (10, text.takeWhile Char.isDigit, 1)
  if digits.isEmpty then none
  else
    let length := start + digits.length
    let closed := (text.drop (length - 1)).head? = some ';'
    some ([numberedChar (digitsValue base digits)], if closed then length + 1 else length)

/-- The reference behind `&`, if there is one: what it stands for, and how many characters it
takes. -/
def reference? (inValue : Bool) : List Char → Option (List Char × Nat)
  | '#' :: rest => numericReference? rest
  | text => namedReference? inValue text

/-- An attribute value with its references replaced; `skip` characters belong to the reference
before. -/
def expandValueFrom (skip : Nat) : List Char → List Char
  | [] => []
  | c :: rest =>
    match skip with
    | skip + 1 => expandValueFrom skip rest
    | 0 =>
      if c = '\x00' then '\ufffd' :: expandValueFrom 0 rest
      else if c ≠ '&' then c :: expandValueFrom 0 rest
      else match reference? true rest with
        | some (text, length) => text ++ expandValueFrom length rest
        | none => c :: expandValueFrom 0 rest

/-- An attribute value with its references and null characters replaced. -/
def expandValue (value : List Char) : List Char := expandValueFrom 0 value

end BlogMarkdown.Html
