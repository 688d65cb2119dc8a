import BlogMarkdown.Text.Canonical
import BlogMarkdown.Text.Printable
import BlogMarkdown.Url.Domain.MappingTable
/-!
# How domain names are compared

Names that look alike are compared as one: without case, without regard to width and style, and in
canonical form. Some characters are passed over, and a name with one that cannot be shown is no name.
-/
namespace BlogMarkdown.Url.Domain

open Text

/-- The two characters without width that say whether letters join. -/
def isJoiner (c : Char) : Bool := c.toNat = 0x200c || c.toNat = 0x200d

/-- What a character is compared as; `none` if no name holds it. -/
def mappedChar? (c : Char) : Option (List Char) :=
  if c.toNat < 0x80 then some [c.toLower]
  else
    match Replacement.target? mapping c with
    | some target => some target
    | none =>
      if Ranges.contains ignored c then some []
      else if isJoiner c then some [c]
      else if Ranges.contains Ranges.unprintable c || Ranges.contains unmapped c then none
      else some [c]

/-- What a name is compared as; `none` if it holds a character that no name does. -/
def mapped? (name : List Char) : Option (List Char) :=
  (name.mapM mappedChar?).map fun targets => canonical targets.flatten

/-- Whether a text is compared as itself. -/
def isMapped (text : List Char) : Bool :=
  text.all (fun c => mappedChar? c = some [c]) && canonical text = text

end BlogMarkdown.Url.Domain
