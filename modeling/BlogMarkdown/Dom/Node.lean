/-!
# Nodes of a document

What a node is: an element with a name and attributes, a piece of text, a comment, a document type
or the document itself. Texts are lists of characters, because every pass works on characters.
Elements that stand for shortcodes live in a namespace of their own and are called synthetic.
-/
namespace BlogMarkdown.Dom

/-- The vocabulary that an element's name belongs to. -/
inductive Vocabulary where
  | html
  | svg
  | mathml
  /-- Elements that stand for shortcodes. -/
  | shortcode
  | other (uri : String)
  deriving Repr, DecidableEq

/-- The name of an element. -/
structure ElementName where
  vocabulary : Vocabulary
  tag : String
  deriving Repr, DecidableEq

/-- The name of an HTML element. -/
def ElementName.html (tag : String) : ElementName := ⟨.html, tag⟩

/-- The name of the element for a shortcode. -/
def ElementName.shortcode (tag : String) : ElementName := ⟨.shortcode, tag⟩

/-- The scope of an attribute's name; almost all attributes have none. -/
inductive AttributeScope where
  | none
  | xlink
  | xml
  | xmlns
  deriving Repr, DecidableEq

/-- An attribute. A key may occur more than once on an element. -/
structure Attribute where
  scope : AttributeScope
  key : String
  value : String
  deriving Repr, DecidableEq

/-- An attribute without a scope. -/
def Attribute.plain (key value : String) : Attribute := ⟨.none, key, value⟩

/-- Whether two attributes have one name. -/
def Attribute.sameName (a b : Attribute) : Bool := a.scope = b.scope && a.key = b.key

/-- The name of an attribute with its scope in front, as markup spells it. -/
def Attribute.qualifiedName (a : Attribute) : String :=
  match a.scope with
  | .none => a.key
  | .xlink => "xlink:" ++ a.key
  | .xml => "xml:" ++ a.key
  | .xmlns => if a.key = "xmlns" then a.key else "xmlns:" ++ a.key

/-- What a node holds, apart from its place in a tree. -/
inductive NodeData where
  | document
  | element (name : ElementName) (attributes : List Attribute)
  | text (content : List Char)
  | comment (content : List Char)
  | doctype (name publicId systemId : String)
  deriving Repr, DecidableEq

namespace NodeData

/-- The name, if the node is an element. -/
def elementName? : NodeData → Option ElementName
  | .element name _ => some name
  | _ => none

/-- The tag, if the node is an element. -/
def tag? (d : NodeData) : Option String := d.elementName?.map (·.tag)

/-- The attributes in the order of the source; none if the node is no element. -/
def attributes : NodeData → List Attribute
  | .element _ attributes => attributes
  | _ => []

/-- The content, if the node is a text. -/
def text? : NodeData → Option (List Char)
  | .text content => some content
  | _ => none

/-- The value of the first attribute with a key. -/
def attribute? (d : NodeData) (key : String) : Option String :=
  (d.attributes.find? (·.key = key)).map (·.value)

def isElement (d : NodeData) : Bool := d.elementName?.isSome

def isText (d : NodeData) : Bool := d.text?.isSome

/-- Whether the node is an element that stands for a shortcode. -/
def isSynthetic (d : NodeData) : Bool := d.elementName?.any (·.vocabulary = .shortcode)

/-- Whether the node is an element with this tag that was in the markup. -/
def isNative (d : NodeData) (tag : String) : Bool :=
  d.elementName?.any fun name => name.vocabulary ≠ .shortcode ∧ name.tag = tag

/-- Whether the node is a text without characters. -/
def isEmptyText (d : NodeData) : Bool := d.text?.any List.isEmpty

end NodeData

end BlogMarkdown.Dom
