import BlogMarkdown.Html.Builder
/-!
# Formatting elements

An element such as `b` takes effect from its start tag to its end tag, also where the markup closes
the elements between them in another order. So a formatting element that was closed with the element
around it is opened again before the next content, and an end tag that comes too late splits the
element: what stood in it is wrapped anew, level by level.
-/
namespace BlogMarkdown.Html

open Dom

namespace Formatting

def isMarker : Formatting → Bool
  | .marker => true
  | .element _ _ => false

/-- Whether this is the formatting element with a number. -/
def isNode (id : NodeId) : Formatting → Bool
  | .marker => false
  | .element other _ => other = id

/-- Whether this is a formatting element whose tag satisfies a predicate. -/
def hasTag (p : Tag → Bool) : Formatting → Bool
  | .marker => false
  | .element _ tag => p tag

end Formatting

/-- Whether two tags are the same but for the order of their attributes. -/
def Tag.equivalent (a b : Tag) : Bool :=
  a.name = b.name && a.attributes.length = b.attributes.length &&
    a.attributes.all b.attributes.contains

namespace Builder

/-- The formatting elements in effect up to the last marker, latest first. -/
def activeFormatting (b : Builder) : List Formatting :=
  b.formatting.takeWhile fun f => !f.isMarker

/-- Adds a marker. -/
def pushMarker (b : Builder) : Builder := { b with formatting := .marker :: b.formatting }

/-- Ends the effect of the formatting elements up to the last marker. -/
def clearToMarker (b : Builder) : Builder :=
  { b with formatting := (b.formatting.dropWhile fun f => !f.isMarker).drop 1 }

/-- Ends the effect of a formatting element. -/
def unformat (b : Builder) (id : NodeId) : Builder :=
  { b with formatting := b.formatting.eraseP (·.isNode id) }

/-- Whether a formatting element needs not to be opened again. -/
def isSettled (b : Builder) : Formatting → Bool
  | .marker => true
  | .element id _ => b.openElements.contains id

/-- Opens the elements for some tags again, and gives the entries for them, latest first. -/
def reopen (b : Builder) (entries : List Formatting) : List Formatting → Builder × List Formatting
  | [] => (b, entries)
  | .marker :: rest => b.reopen entries rest
  | .element _ tag :: rest =>
    let (b, id) := b.insertOpen (.html tag.name) tag.attributes
    b.reopen (.element id tag :: entries) rest

/-- Opens the formatting elements again that were closed with the elements around them. -/
def reconstructFormatting (b : Builder) : Builder :=
  let (lost, kept) := b.formatting.span fun f => !b.isSettled f
  let (b, entries) := b.reopen [] lost.reverse
  { b with formatting := entries ++ kept }

/-- Opens a formatting element. Of elements with equal tags at most three are in effect. -/
def insertFormatting (b : Builder) (tag : Tag) : Builder :=
  let equal := b.activeFormatting.filter (·.hasTag tag.equivalent)
  let b := match (equal.drop 2).getLast? with
    | some (.element id _) => b.unformat id
    | _ => b
  let (b, id) := b.insertOpen (.html tag.name) tag.attributes
  { b with formatting := .element id tag :: b.formatting }

/-! ## End tags -/

/-- Closes the innermost open element with a tag, unless a special element is inside it. -/
def closeOrdinary (b : Builder) (tag : String) : Builder :=
  match b.openElements.find? fun id => b.isOneOf [tag] id || b.isOneOf specialTags id with
  | none => b
  | some id =>
    if b.isOneOf [tag] id then
      let outer := (b.openElements.dropWhile (· ≠ id)).drop 1
      { b with openElements := outer }
    else b

/-- The formatting entry behind which, latest last, the entry for the split element goes. -/
inductive Bookmark where
  | replace
  | after (id : NodeId)
  deriving Repr, DecidableEq

/-- The state of wrapping a block anew in the elements around it. -/
structure Rewrap where
  builder : Builder
  /-- The elements that stay open, innermost first, last one first. -/
  keptOpen : List NodeId
  bookmark : Bookmark
  /-- What goes into the next element. -/
  last : NodeId

/-- Wraps the block in one more element. Of the elements around it only the first three can stay
formatting elements; `count` numbers them. -/
def Rewrap.step (block : NodeId) (w : Rewrap) (count : Nat) (node : NodeId) : Rewrap :=
  let b := w.builder
  if count > 3 then { w with builder := b.unformat node }
  else match b.formatting.find? (·.isNode node) with
    | some (.element _ tag) =>
      let (b, copy) := b.create (.element (.html tag.name) tag.attributes)
      let entry := Formatting.element copy tag
      let b := { b with
        formatting := b.formatting.map fun f => if f.isNode node then entry else f
        store := (b.store.detach w.last).append (some copy) (some w.last) }
      { builder := b
        keptOpen := copy :: w.keptOpen
        bookmark := if w.last = block then .after copy else w.bookmark
        last := copy }
    | _ => w

/-- Wraps the block in the elements between it and the formatting element. -/
def Rewrap.run (block : NodeId) (w : Rewrap) (count : Nat) : List NodeId → Rewrap
  | [] => w
  | node :: rest => (w.step block count node).run block (count + 1) rest

/-- Puts the entry for a split element at the bookmark, in place of the entry of the element. -/
def placeAtBookmark (formatting : List Formatting) (entry : Formatting) (id : NodeId) :
    Bookmark → List Formatting
  | .replace => formatting.map fun f => if f.isNode id then entry else f
  | .after other =>
    let (later, rest) := formatting.span fun f => !f.isNode other
    (later ++ entry :: rest).eraseP (·.isNode id)

/-- Splits the formatting element `id`, which is open around the block `block`. `inner` are the
open elements inside the block, `between` those between it and the element, `outer` those around
the element. -/
def splitAround (b : Builder) (id : NodeId) (tag : Tag) (inner : List NodeId) (block : NodeId)
    (between outer : List NodeId) : Builder :=
  let w : Rewrap := { builder := b, keptOpen := [], bookmark := .replace, last := block }
  let w := w.run block 1 between
  let b := { w.builder with store := w.builder.store.detach w.last }
  let b := b.insertNode (outer.headD Store.document) w.last
  let (b, copy) := b.create (.element (.html tag.name) tag.attributes)
  let store := (b.store.moveChildren block copy).append (some block) (some copy)
  { b with
    store := store
    formatting := placeAtBookmark b.formatting (.element copy tag) id w.bookmark
    openElements := inner ++ copy :: block :: w.keptOpen.reverse ++ outer }

/-- What is left to do for the end tag of a formatting element. -/
inductive Adoption where
  | again (b : Builder)
  | done (b : Builder)

/-- One round of looking for the formatting element that an end tag is for. -/
def adoptionRound (b : Builder) (name : String) : Adoption :=
  match b.activeFormatting.find? (·.hasTag (·.name = name)) with
  | none | some .marker => .done (b.closeOrdinary name)
  | some (.element id tag) =>
    if !b.openElements.contains id then .done (b.unformat id)
    else if !b.hasInScope endsScope (· = id) then .done b
    else
      let (inside, rest) := b.openElements.span (· ≠ id)
      let outer := rest.drop 1
      let (between, innermost) := inside.reverse.span fun n => !b.isOneOf specialTags n
      match innermost with
      | [] => .done { b.unformat id with openElements := outer }
      | block :: inner =>
        .again (b.splitAround id tag inner.reverse block between.reverse outer)

/-- At most as many rounds as the bound says. -/
def adopt (b : Builder) (name : String) : Nat → Builder
  | 0 => b
  | rounds + 1 =>
    match b.adoptionRound name with
    | .done b => b
    | .again b => b.adopt name rounds

/-- The end tag of a formatting element. -/
def closeFormatting (b : Builder) (name : String) : Builder :=
  let isFormatting := b.formatting.any (·.isNode b.current)
  if b.currentIsOneOf [name] && !isFormatting then b.pop else b.adopt name 8

end Builder

end BlogMarkdown.Html
