import BlogMarkdown.Url.Domain.Order
import BlogMarkdown.Url.Punycode
/-!
# Domain names

A name is a list of labels between full stops. Its written form has ASCII alone: a label with other
characters is written in Punycode behind a prefix of its own, and a label with that prefix must say
what could not be said without it.
-/
namespace BlogMarkdown.Url.Domain

open Text

/-- What stands in front of a label in Punycode. -/
def codedPrefix : List Char := "xn--".toList

/-- Whether a character is one of ASCII. -/
def isAscii (c : Char) : Bool := c.toNat < 0x80

/-- The longest label with characters beyond ASCII. -/
def labelLimit : Nat := 1000

/-- The longest code that is read. -/
def codeLimit : Nat := 2000

/-- Whether a label beyond ASCII is in order: it begins with no mark, and its joiners are in place. -/
def isInOrder (label : List Char) : Bool :=
  !label.head?.any Ranges.isMark && placesJoiners [] label && label.length ≤ labelLimit

/-- The label that a code stands for, if it needs a code. -/
def ofCode? (code : List Char) : Option (List Char) :=
  if codeLimit < code.length then none
  else (Punycode.decode? code).filter fun label => !label.all isAscii && isMapped label && isInOrder label

/-- The label of a name that was mapped. -/
def label? (text : List Char) : Option (List Char) :=
  match codedPrefix.isPrefixOf? text with
  | some code => ofCode? code
  | none => if text.all isAscii || isInOrder text then some text else none

/-- A label in ASCII. -/
def writtenLabel (label : List Char) : List Char :=
  if label.all isAscii then label else codedPrefix ++ Punycode.encode label

/-- The labels of a name, if all of them are in order. -/
def labels? (name : List Char) : Option (List (List Char)) := do
  let name ← mapped? name
  let labels ← (name.splitOnP (· = '.')).mapM label?
  if labels.any hasRight && !labels.all keepsOrder then none else some labels

/-- The written form of a name, if it is one. -/
def written? (name : List Char) : Option (List Char) :=
  (labels? name).map fun labels => ['.'].intercalate (labels.map writtenLabel)

end BlogMarkdown.Url.Domain
