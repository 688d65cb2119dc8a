import BlogMarkdown.Text.MarkTable
import BlogMarkdown.Text.Printable
/-!
# Quoted texts

A text between double quotes, as messages show a title or a value: quotes and backslashes are
escaped, the common controls have their letter, and what a reader could not see (unprintable
characters, and marks that would join the character before them) is written by its number.
-/
namespace BlogMarkdown.Text

/-- A number in lower-case hexadecimal. -/
def hex (n : Nat) : List Char := Nat.toDigits 16 n

/-- Whether a reader could not tell a character from its surroundings. -/
def isHidden (c : Char) : Bool :=
  Ranges.contains Ranges.unprintable c || Ranges.contains Ranges.nonspacingMark c ||
    Ranges.contains Ranges.extendingMark c

/-- How one character is written inside quotes. -/
def quotedChar (c : Char) : List Char :=
  if c = '\x00' then ['\\', '0']
  else if c = '\t' then ['\\', 't']
  else if c = '\r' then ['\\', 'r']
  else if c = '\n' then ['\\', 'n']
  else if c = '\\' ∨ c = '"' then ['\\', c]
  else if ' ' ≤ c ∧ c ≤ '~' then [c]
  else if isHidden c then
    ['\\', 'u', '\x7b'] ++ hex c.toNat ++ ['\x7d']
  else [c]

/-- A text in quotes. -/
def quoted (s : List Char) : List Char := '"' :: s.flatMap quotedChar ++ ['"']

/-- A string in quotes. -/
def quote (s : String) : String := String.ofList (quoted s.toList)

end BlogMarkdown.Text
