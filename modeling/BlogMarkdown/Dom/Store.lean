import BlogMarkdown.Dom.Node
import BlogMarkdown.Text.Utf8
/-!
# The node store

All nodes of a document in one table, numbered in the order of their creation. A node's place in
the tree is five links: to its parent, its first and last child, and the siblings on its two sides.
Taking a node out of the tree only unlinks it, so a number never comes to mean another node.

Every operation is total: a link that is empty or leads nowhere is left alone. The walks along links
take a bound on their number of steps; in a table whose links form a forest none of them reaches it.
-/
namespace BlogMarkdown.Dom

/-- The number of a node. -/
abbrev NodeId := Nat

/-- A node and its links. -/
structure Node where
  data : NodeData
  parent : Option NodeId
  firstChild : Option NodeId
  lastChild : Option NodeId
  prevSibling : Option NodeId
  nextSibling : Option NodeId
  deriving Repr, DecidableEq

/-- A node that stands nowhere. -/
def Node.detached (data : NodeData) : Node := ⟨data, none, none, none, none, none⟩

/-- The table of nodes. Number 0 is the document. -/
structure Store where
  nodes : Array Node
  deriving Repr, DecidableEq

namespace Store

/-- A document and nothing else. -/
def empty : Store := ⟨#[.detached .document]⟩

/-- The number of the document node. -/
def document : NodeId := 0

def size (s : Store) : Nat := s.nodes.size

/-! ## Looking up -/

def get? (s : Store) (id : NodeId) : Option Node := s.nodes[id]?

def data? (s : Store) (id : NodeId) : Option NodeData := (s.get? id).map (·.data)

def parent (s : Store) (id : NodeId) : Option NodeId := (s.get? id).bind (·.parent)

def firstChild (s : Store) (id : NodeId) : Option NodeId := (s.get? id).bind (·.firstChild)

def lastChild (s : Store) (id : NodeId) : Option NodeId := (s.get? id).bind (·.lastChild)

def prevSibling (s : Store) (id : NodeId) : Option NodeId := (s.get? id).bind (·.prevSibling)

def nextSibling (s : Store) (id : NodeId) : Option NodeId := (s.get? id).bind (·.nextSibling)

/-- The content of a text node. -/
def text? (s : Store) (id : NodeId) : Option (List Char) := (s.data? id).bind (·.text?)

def isElement (s : Store) (id : NodeId) : Bool := (s.data? id).any (·.isElement)

/-- The node at `link` and its siblings behind it. -/
def chain (s : Store) : Nat → Option NodeId → List NodeId
  | 0, _ => []
  | _, none => []
  | steps + 1, some id => id :: s.chain steps (s.nextSibling id)

/-- The children of a node, in order. -/
def children (s : Store) (id : NodeId) : List NodeId := s.chain (s.size + 1) (s.firstChild id)

/-! ## Creating and changing single nodes -/

/-- Adds a node that stands nowhere. -/
def create (s : Store) (data : NodeData) : Store × NodeId :=
  (⟨s.nodes.push (.detached data)⟩, s.nodes.size)

/-- Changes the node at a link. -/
def modify (s : Store) (link : Option NodeId) (f : Node → Node) : Store :=
  match link with
  | none => s
  | some id => ⟨s.nodes.modify id f⟩

/-- Replaces the content of a text node. -/
def setText (s : Store) (id : NodeId) (content : List Char) : Store :=
  s.modify (some id) fun n =>
    if n.data.isText then { n with data := .text content } else n

/-! ## Moving nodes -/

/-- Unlinks a node from its parent and its siblings. What is below it stays with it. -/
def detach (s : Store) (target : NodeId) : Store :=
  match s.get? target with
  | none => s
  | some t =>
    let s := match t.prevSibling with
      | some prev => s.modify (some prev) fun n => { n with nextSibling := t.nextSibling }
      | none => s.modify t.parent fun n => { n with firstChild := t.nextSibling }
    let s := match t.nextSibling with
      | some next => s.modify (some next) fun n => { n with prevSibling := t.prevSibling }
      | none => s.modify t.parent fun n => { n with lastChild := t.prevSibling }
    s.modify (some target) fun n =>
      { n with parent := none, prevSibling := none, nextSibling := none }

/-- Detaches the node at a link if it has a parent. -/
def detachAttached (s : Store) (link : Option NodeId) : Store :=
  match link with
  | none => s
  | some id => if (s.parent id).isSome then s.detach id else s

/-- Makes a node the last child of another, wherever it was. -/
def append (s : Store) (parent child : Option NodeId) : Store :=
  let s := s.detachAttached child
  let last := parent.bind s.lastChild
  let s := s.modify child fun n =>
    { n with parent := parent, prevSibling := last, nextSibling := none }
  let s := s.modify last fun n => { n with nextSibling := child }
  s.modify parent fun n =>
    { n with firstChild := if n.firstChild.isNone then child else n.firstChild, lastChild := child }

/-- Puts a node right before another, wherever it was. -/
def insertBefore (s : Store) (sibling new : Option NodeId) : Store :=
  let s := s.detachAttached new
  let parent := sibling.bind s.parent
  let prev := sibling.bind s.prevSibling
  let s := s.modify new fun n =>
    { n with parent := parent, prevSibling := prev, nextSibling := sibling }
  let s := s.modify sibling fun n => { n with prevSibling := new }
  if prev.isSome then s.modify prev fun n => { n with nextSibling := new }
  else s.modify parent fun n => { n with firstChild := new }

/-- Puts a node right behind another, wherever it was. -/
def insertAfter (s : Store) (sibling new : Option NodeId) : Store :=
  match sibling.bind s.nextSibling with
  | some next => s.insertBefore (some next) new
  | none => s.append (sibling.bind s.parent) new

/-- Moves all children of a node behind those of another. -/
def moveChildren (s : Store) (source target : NodeId) : Store :=
  (s.children source).foldl (fun s child => s.append (some target) (some child)) s

/-! ## Texts -/

/-- Adds text at the end of a node: to its last child if that is a text, else as a new child. -/
def appendText (s : Store) (parent : Option NodeId) (content : List Char) : Store :=
  let last := parent.bind s.lastChild
  match last.bind s.text? with
  | some before => s.modify last fun n => { n with data := .text (before ++ content) }
  | none =>
    let (s, child) := s.create (.text content)
    s.append parent (some child)

/-- Cuts a text node: it keeps the bytes up to `stop`, and the bytes from `start` on become a new
text right behind it. -/
def splitText (s : Store) (id : NodeId) (stop start : Nat) : Store × NodeId :=
  let content := (s.text? id).getD []
  let s := s.setText id (Text.Utf8.takeBytes stop content)
  let (s, tail) := s.create (.text (Text.Utf8.dropBytes start content))
  (s.insertAfter (some id) (some tail), tail)

/-- Detaches the empty texts among the given nodes. -/
def detachEmptyTexts (s : Store) (ids : List NodeId) : Store :=
  ids.foldl (fun s id => if (s.data? id).any (·.isEmptyText) then s.detach id else s) s

/-- Works off a list of elements: the empty texts among the children of each are detached, and
its child elements join the list. -/
def removeEmptyTextsBelow : Nat → Store → List NodeId → Store
  | 0, s, _ => s
  | _, s, [] => s
  | steps + 1, s, id :: pending =>
    let children := s.children id
    let inner := (children.filter s.isElement).reverse
    removeEmptyTextsBelow steps (s.detachEmptyTexts children) (inner ++ pending)

/-- Removes every empty text below a node, down through elements. -/
def removeEmptyTexts (s : Store) (root : NodeId) : Store :=
  removeEmptyTextsBelow (s.size + 1) s [root]

/-! ## Searching -/

/-- Works off a list of nodes, each followed by its children. -/
def findIn (s : Store) (p : Node → Bool) : Nat → List NodeId → Option NodeId
  | 0, _ => none
  | _, [] => none
  | steps + 1, id :: pending =>
    match s.get? id with
    | none => s.findIn p steps pending
    | some node => if p node then some id else s.findIn p steps (s.children id ++ pending)

/-- The first node of a subtree, in document order, that satisfies a predicate. -/
def find? (s : Store) (root : NodeId) (p : Node → Bool) : Option NodeId :=
  s.findIn p ((s.size + 1) * (s.size + 1)) [root]

/-- The first element of the document with a tag. -/
def findTag? (s : Store) (tag : String) : Option NodeId :=
  s.find? document fun n => n.data.tag? = some tag

end Store

end BlogMarkdown.Dom
