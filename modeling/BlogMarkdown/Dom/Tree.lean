import BlogMarkdown.Dom.Store
/-!
# Trees and paths

The ordered tree that a node store holds, as an inductive type. Passes that only read a document
recurse on it. A path says where a tree stands: for each ancestor, innermost first, what it is and
which siblings stand on the two sides of the way down.
-/
namespace BlogMarkdown.Dom

/-- A node and its children. -/
inductive Tree where
  | node (data : NodeData) (children : List Tree)
  deriving Repr

namespace Tree

def data : Tree → NodeData
  | .node data _ => data

def children : Tree → List Tree
  | .node _ children => children

end Tree

/-- One step of a path: the parent, and the siblings before (nearest first) and after. -/
structure Frame where
  parent : NodeData
  before : List Tree
  after : List Tree
  deriving Repr

/-- The place of a tree, innermost step first. The root of a document has the empty path. -/
abbrev Path := List Frame

namespace Store

/-- The tree below a node. -/
def treeWithin (s : Store) : Nat → NodeId → Tree
  | 0, id => .node ((s.data? id).getD .document) []
  | depth + 1, id =>
    .node ((s.data? id).getD .document) ((s.children id).map (s.treeWithin depth))

/-- The tree below a node. -/
def tree (s : Store) (id : NodeId) : Tree := s.treeWithin (s.size + 1) id

/-- The way up from a node. -/
def pathWithin (s : Store) : Nat → NodeId → Path
  | 0, _ => []
  | depth + 1, id =>
    match s.parent id with
    | none => []
    | some parent =>
      let siblings := s.children parent
      ⟨(s.data? parent).getD .document, ((siblings.takeWhile (· ≠ id)).reverse).map s.tree,
        ((siblings.dropWhile (· ≠ id)).drop 1).map s.tree⟩ :: s.pathWithin depth parent

/-- The place of a node. -/
def path (s : Store) (id : NodeId) : Path := s.pathWithin (s.size + 1) id

end Store

end BlogMarkdown.Dom
