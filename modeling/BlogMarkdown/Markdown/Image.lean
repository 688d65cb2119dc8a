import BlogMarkdown.Dom.Node
/-!
# Images

Which images Markdown can express, and how the side on which one floats is read off its style.
-/
namespace BlogMarkdown.Markdown

open Dom

/-- The attributes that an image in Markdown may have. -/
def imageKeys : List String := ["src", "alt", "title", "width", "height", "class", "style"]

/-- Whether an image has no attribute beyond those. -/
def isPlainImage (image : NodeData) : Bool :=
  image.attributes.all fun a => imageKeys.contains a.key

/-- Blanks of a style declaration. -/
def isStyleBlank (c : Char) : Bool :=
  c = ' ' || ('\t' ≤ c && c ≤ '\r')

/-- Characters of words; a property name does not begin behind one. -/
def isStyleWord (c : Char) : Bool := c.isAlphanum || c = '_'

/-- Whether a text begins with `float: side`, up to a semicolon or the end. -/
def floatsHere (side text : List Char) : Bool :=
  let afterWord (word text : List Char) :=
    (word.isPrefixOf? text).map (List.dropWhile isStyleBlank)
  match ((afterWord "float".toList text).bind (afterWord [':'])).bind (afterWord side) with
  | none => false
  | some rest => rest.isEmpty || rest.head? = some ';'

/-- Whether a style that `before` precedes has a declaration `float: side`. -/
def floatsBehind (side : List Char) (before : Option Char) : List Char → Bool
  | [] => false
  | c :: rest =>
    (!before.any isStyleWord && floatsHere side (c :: rest)) || floatsBehind side (some c) rest

/-- Whether a style makes its element float on a side. -/
def floats (side style : String) : Bool := floatsBehind side.toList none style.toList

/-- The sides on which an image floats, as they are noted before its alternative text. -/
def floatNote (style : Option String) : List Char :=
  let sides := ["left", "right"].filter fun side => style.any (floats side)
  if sides.isEmpty then []
  else ("\x7b" ++ " ".intercalate (sides.map ("float" ++ ·)) ++ "\x7d").toList

/-- The alternative text of an image with the note on its sides. -/
def altText (image : NodeData) : List Char :=
  floatNote (image.attribute? "style") ++ ((image.attribute? "alt").getD "").toList

end BlogMarkdown.Markdown
