import BlogMarkdown.Dom.Store
import BlogMarkdown.Html.Categories
/-!
# The state of a tree construction

HTML is read into a tree token by token, and any token sequence makes a tree: elements are closed,
opened and moved where the markup forgot to. The state holds the tree so far, the elements that are
open, and the formatting elements whose effect is to go on after the elements around them end.
-/
namespace BlogMarkdown.Html

open Dom

/-- What the construction stands in, which decides what a token means. -/
inductive Mode where
  | inBody
  /-- The text of an element that only its end tag ends. -/
  | inText
  | inTable
  | inTableText
  | inCaption
  | inColumnGroup
  | inTableBody
  | inRow
  | inCell
  | inTemplate
  | afterBody
  | afterDocument
  deriving Repr, DecidableEq

/-- A formatting element and the tag it was made for, or a marker that bounds their effect. -/
inductive Formatting where
  | marker
  | element (id : NodeId) (tag : Tag)
  deriving Repr, DecidableEq

/-- The state of a construction. -/
structure Builder where
  store : Store
  /-- The open elements, innermost first. -/
  openElements : List NodeId
  /-- The formatting elements in effect, latest first. -/
  formatting : List Formatting
  mode : Mode
  /-- The mode to go back to from the text of an element or of a table. -/
  returnMode : Mode
  /-- The modes of the open templates, innermost first. -/
  templateModes : List Mode
  /-- Characters in a table that are not yet placed. -/
  tableText : List Char
  /-- Whether what cannot stand in a table goes next to the table. -/
  fostering : Bool
  /-- Whether a newline that follows at once is dropped. -/
  skipNewline : Bool
  /-- The open form. -/
  form : Option NodeId
  /-- How the text that follows is read. -/
  textMode : TextMode

namespace Builder

/-! ## The open elements -/

/-- The name of an element. -/
def name (b : Builder) (id : NodeId) : ElementName :=
  ((b.store.data? id).bind (·.elementName?)).getD ⟨.other "", ""⟩

/-- Whether an element is one of some HTML elements. -/
def isOneOf (b : Builder) (tags : List String) (id : NodeId) : Bool := Html.isOneOf tags (b.name id)

/-- The innermost open element. -/
def current (b : Builder) : NodeId := b.openElements.headD Store.document

def currentIsOneOf (b : Builder) (tags : List String) : Bool := b.isOneOf tags b.current

/-- Closes the innermost open element. -/
def pop (b : Builder) : Builder := { b with openElements := b.openElements.tail }

/-- Closes open elements up to one that satisfies a predicate, which stays open. -/
def popUntilCurrent (b : Builder) (p : ElementName → Bool) : Builder :=
  { b with openElements := b.openElements.dropWhile fun id => !p (b.name id) }

/-- Closes open elements up to one that satisfies a predicate, which is closed too. -/
def popThrough (b : Builder) (p : ElementName → Bool) : Builder := (b.popUntilCurrent p).pop

/-- Closes open elements up to an HTML element with this tag, which is closed too. -/
def popThroughTag (b : Builder) (tag : String) : Builder := b.popThrough (Html.isOneOf [tag])

/-- Takes an element from the open ones. -/
def forget (b : Builder) (id : NodeId) : Builder :=
  { b with openElements := b.openElements.erase id }

/-- Whether an element that satisfies `p` is open, with none that satisfies `stop` inside it. -/
def hasInScope (b : Builder) (stop : ElementName → Bool) (p : NodeId → Bool) : Bool :=
  go b.openElements
where
  go : List NodeId → Bool
    | [] => false
    | id :: outer => if p id then true else if stop (b.name id) then false else go outer

/-- Whether an HTML element with this tag is in scope. -/
def hasTagInScope (b : Builder) (stop : ElementName → Bool) (tag : String) : Bool :=
  b.hasInScope stop (b.isOneOf [tag])

def inTemplate (b : Builder) : Bool := b.openElements.any (b.isOneOf ["template"])

/-- Closes open elements whose end tags are implied. -/
def generateImpliedEndTags (b : Builder) (tags : List String) : Builder :=
  b.popUntilCurrent fun name => !Html.isOneOf tags name

/-- Closes open elements whose end tags are implied, but none with this tag. -/
def generateImpliedEndTagsExcept (b : Builder) (tag : String) : Builder :=
  b.generateImpliedEndTags (impliedEndTags.filter (· ≠ tag))

/-- Closes the open paragraph. -/
def closeParagraph (b : Builder) : Builder :=
  (b.generateImpliedEndTagsExcept "p").popThroughTag "p"

/-- Closes the open paragraph if one is in scope. -/
def closeParagraphInScope (b : Builder) : Builder :=
  if b.hasTagInScope endsButtonScope "p" then b.closeParagraph else b

/-! ## Inserting nodes -/

/-- Where a node goes. -/
inductive Place where
  | inside (parent : NodeId)
  /-- Next to a table, or else into the open element around it. -/
  | nextTo (table around : NodeId)
  deriving Repr, DecidableEq

/-- Where a node goes that cannot stand in the innermost open table. -/
def fosterPlace (b : Builder) : List NodeId → Place
  | [] => .inside (b.openElements.getLastD Store.document)
  | id :: outer =>
    if b.isOneOf ["template"] id then .inside id
    else if b.isOneOf ["table"] id then .nextTo id (outer.headD Store.document)
    else b.fosterPlace outer

/-- Where a node for an element goes. -/
def place (b : Builder) (target : NodeId) : Place :=
  if b.fostering && b.isOneOf ["table", "tbody", "tfoot", "thead", "tr"] target then
    b.fosterPlace b.openElements
  else .inside target

/-- The node that a place is inside of. A node next to a table goes to the end of what the table
stands in. -/
def placeParent (b : Builder) : Place → NodeId
  | .inside parent => parent
  | .nextTo table around => (b.store.parent table).getD around

/-- Puts a node where nodes for an element go. -/
def insertNode (b : Builder) (target id : NodeId) : Builder :=
  { b with store := b.store.append (some (b.placeParent (b.place target))) (some id) }

/-- Puts text into the innermost open element. -/
def insertText (b : Builder) (text : List Char) : Builder :=
  { b with store := b.store.appendText (some (b.placeParent (b.place b.current))) text }

/-- Makes a node that stands nowhere. -/
def create (b : Builder) (data : NodeData) : Builder × NodeId :=
  let (store, id) := b.store.create data
  ({ b with store := store }, id)

/-- Puts a comment into a node. -/
def insertCommentInto (b : Builder) (parent : NodeId) (text : List Char) : Builder :=
  let (b, id) := b.create (.comment text)
  { b with store := b.store.append (some parent) (some id) }

/-- Puts a comment into the innermost open element. -/
def insertComment (b : Builder) (text : List Char) : Builder :=
  let (b, id) := b.create (.comment text)
  b.insertNode b.current id

/-- Makes an element in the innermost open one. -/
def insertClosed (b : Builder) (name : ElementName) (attributes : List Attribute) :
    Builder × NodeId :=
  let (b, id) := b.create (.element name attributes)
  (b.insertNode b.current id, id)

/-- Makes an element in the innermost open one, and opens it. -/
def insertOpen (b : Builder) (name : ElementName) (attributes : List Attribute) :
    Builder × NodeId :=
  let (b, id) := b.insertClosed name attributes
  ({ b with openElements := id :: b.openElements }, id)

/-- Opens an HTML element for a tag. -/
def insert (b : Builder) (tag : Tag) : Builder := (b.insertOpen (.html tag.name) tag.attributes).1

/-- Makes an HTML element without contents for a tag. -/
def insertVoid (b : Builder) (tag : Tag) : Builder :=
  (b.insertClosed (.html tag.name) tag.attributes).1

/-- Opens an HTML element that the markup left out. -/
def insertImplied (b : Builder) (tag : String) : Builder := (b.insertOpen (.html tag) []).1

/-- Opens an HTML element for a tag, and reads its text in a mode of its own. -/
def insertWithText (b : Builder) (tag : Tag) (textMode : TextMode) : Builder :=
  { b.insert tag with mode := .inText, returnMode := b.mode, textMode := textMode }

/-- Gives a node the attributes of a tag that it does not have. -/
def addMissingAttributes (b : Builder) (id : NodeId) (attributes : List Attribute) : Builder :=
  { b with store := b.store.modify (some id) fun n =>
      match n.data with
      | .element name present =>
        let data := NodeData.element name (attributes.foldl (fun present a =>
          if present.any a.sameName then present else present ++ [a]) present)
        { n with data := data }
      | _ => n }

/-- The mode that the open elements call for. -/
def modeOfOpenElements (b : Builder) : Mode := go b.openElements
where
  go : List NodeId → Mode
    | [] => .inBody
    | id :: outer =>
      if b.isOneOf ["td", "th"] id then .inCell
      else if b.isOneOf ["tr"] id then .inRow
      else if b.isOneOf ["tbody", "thead", "tfoot"] id then .inTableBody
      else if b.isOneOf ["caption"] id then .inCaption
      else if b.isOneOf ["colgroup"] id then .inColumnGroup
      else if b.isOneOf ["table"] id then .inTable
      else if b.isOneOf ["template"] id then b.templateModes.headD .inTemplate
      else if b.isOneOf ["body"] id then .inBody
      else go outer

/-- Goes to the mode that the open elements call for. -/
def resetMode (b : Builder) : Builder := { b with mode := b.modeOfOpenElements }

end Builder

end BlogMarkdown.Html
