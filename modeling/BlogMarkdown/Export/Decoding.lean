import BlogMarkdown.Text.Encoding
import BlogMarkdown.Text.Search
/-!
# The text of an export file

Which encoding a file is in: a byte order mark decides, then the bytes themselves if they are UTF-8,
then the declaration that the file begins with. Old installations wrote Western European of Windows
without saying so.
-/
namespace BlogMarkdown.Export

open Text

/-- How many bytes of a file are searched for the declaration. -/
def declarationLimit : Nat := 100

/-- The label in the declaration of a file, in lower case. Bytes stand for the characters of the same
number, which is enough to find a label. -/
def declaredLabel? (bytes : List UInt8) : Option (List Char) :=
  let beginning := (bytes.take declarationLimit).map fun b => Char.ofNat b.toNat
  match splitAtWord? "<?xml".toList beginning with
  | none => none
  | some (_, declaration) =>
    match splitAtWord? "encoding=".toList (declaration.map Char.toLower) with
    | some (_, quote :: rest) =>
      if quote = '"' ∨ quote = '\'' then
        match rest.span (· ≠ quote) with
        | (label, _ :: _) => some label
        | (_, []) => none
      else none
    | _ => none

/-- The encoding of bytes that have no mark and are not UTF-8. -/
def declaredEncoding (bytes : List UInt8) : Encoding :=
  ((declaredLabel? bytes).bind Encoding.ofLabel?).getD (.page .windows1252)

/-- The text of a file. -/
def decodeFile (bytes : List UInt8) : List Char :=
  match Encoding.ofMark? bytes with
  | some (encoding, rest) => encoding.decode rest
  | none =>
    match Utf8.decode bytes with
    | .ok text => text
    | .error _ => (declaredEncoding bytes).decode bytes

end BlogMarkdown.Export
