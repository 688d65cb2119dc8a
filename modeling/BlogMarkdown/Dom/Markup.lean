import BlogMarkdown.Dom.Tree
/-!
# Markup

A tree as HTML text. Elements without content (`br`, `img`, …) have no end tag, and the tags of
elements inside them are left out. The text of a script, a style sheet and the like is written as
it is; in all other text, and in attribute values, the characters with a meaning in HTML are escaped.
-/
namespace BlogMarkdown.Dom

/-- HTML elements that have no content. -/
def voidTags : List String :=
  ["area", "base", "basefont", "bgsound", "br", "col", "embed", "frame", "hr", "img", "input",
    "keygen", "link", "meta", "param", "source", "track", "wbr"]

/-- HTML elements whose text is written as it is. -/
def rawTextTags : List String :=
  ["style", "script", "xmp", "iframe", "noembed", "noframes", "plaintext", "noscript"]

/-- A character of a text or of an attribute value. -/
def escapeChar (inValue : Bool) (c : Char) : List Char :=
  if c = '&' then "&amp;".toList
  else if c = '\xa0' then "&nbsp;".toList
  else if c = '<' then "&lt;".toList
  else if c = '>' then "&gt;".toList
  else if c = '"' ∧ inValue then "&quot;".toList
  else [c]

/-- An attribute with the blank before it. -/
def Attribute.markup (a : Attribute) : List Char :=
  ' ' :: a.qualifiedName.toList ++ ['=', '"'] ++ a.value.toList.flatMap (escapeChar true) ++ ['"']

/-- The start tag of an element. -/
def startTag (name : ElementName) (attributes : List Attribute) : List Char :=
  '<' :: name.tag.toList ++ attributes.flatMap Attribute.markup ++ ['>']

/-- The end tag of an element. -/
def endTag (name : ElementName) : List Char := '<' :: '/' :: name.tag.toList ++ ['>']

/-- Where a text stands: the name of the element around it, and whether the tags of elements are
left out there. -/
structure Surroundings where
  element : Option ElementName
  inVoid : Bool
  deriving Repr, DecidableEq

/-- No element is around. -/
def Surroundings.top : Surroundings := ⟨none, false⟩

/-- Whether text is written as it is. -/
def Surroundings.isRaw (s : Surroundings) : Bool :=
  s.element.any fun name => name.vocabulary = .html && rawTextTags.contains name.tag

/-- Inside an element. -/
def Surroundings.inside (s : Surroundings) (name : ElementName) : Surroundings :=
  ⟨some name, s.inVoid || (name.vocabulary = .html && voidTags.contains name.tag)⟩

mutual
/-- The markup of a tree in its surroundings. -/
def Tree.markupIn (around : Surroundings) : Tree → List Char
  | .node (.text content) _ =>
    if around.isRaw then content else content.flatMap (escapeChar false)
  | .node (.comment content) _ => "<!--".toList ++ content ++ "-->".toList
  | .node (.doctype name _ _) _ => "<!DOCTYPE ".toList ++ name.toList ++ ['>']
  | .node .document children => markupAllIn around children
  | .node (.element name attributes) children =>
    let inner := around.inside name
    let content := markupAllIn inner children
    if around.inVoid then content
    else startTag name attributes ++ content ++ (if inner.inVoid then [] else endTag name)

/-- The markup of some trees, one behind the other. -/
def markupAllIn (around : Surroundings) : List Tree → List Char
  | [] => []
  | t :: rest => t.markupIn around ++ markupAllIn around rest
end

/-- The markup of a tree. -/
def Tree.markup (t : Tree) : List Char := t.markupIn .top

/-- The markup of a tree's children, each by itself. -/
def Tree.innerMarkup (t : Tree) : List Char := t.children.flatMap Tree.markup

end BlogMarkdown.Dom
