import BlogMarkdown.Dom.Tree
/-!
# Block boundaries

Whether a block-level edge stands right before or right behind a place. Looking back, the way goes
up until there is a node before it, and then down along last children; any block-level element met
on it, or the edge of the document, is a boundary. Looking ahead is the mirror image.
-/
namespace BlogMarkdown.Dom

/-- The elements that stand by themselves. -/
def blockTags : List String :=
  ["h1", "h2", "h3", "h4", "h5", "h6", "div", "p", "hr", "blockquote", "pre", "ol", "ul", "dl",
    "dd", "form"]

/-- Whether a node is a block-level element. -/
def NodeData.isBlock (d : NodeData) : Bool :=
  d.elementName?.any fun name => name.vocabulary ≠ .shortcode ∧ blockTags.contains name.tag

mutual
/-- Whether a block-level element is on the way down along last children. -/
def Tree.endsWithBlock : Tree → Bool
  | .node data children => data.isBlock || anyEndsWithBlock children
/-- The same for the last of some trees. -/
def anyEndsWithBlock : List Tree → Bool
  | [] => false
  | t :: rest => if rest.isEmpty then t.endsWithBlock else anyEndsWithBlock rest
end

mutual
/-- Whether a block-level element is on the way down along first children. -/
def Tree.startsWithBlock : Tree → Bool
  | .node data children => data.isBlock || anyStartsWithBlock children
/-- The same for the first of some trees. -/
def anyStartsWithBlock : List Tree → Bool
  | [] => false
  | t :: _ => t.startsWithBlock
end

/-- Whether a block boundary is right before a place. -/
def Path.blockBefore : Path → Bool
  | [] => true
  | frame :: path =>
    match frame.before with
    | t :: _ => t.endsWithBlock
    | [] => frame.parent.isBlock || blockBefore path

/-- Whether a block boundary is right behind a place. -/
def Path.blockAfter : Path → Bool
  | [] => true
  | frame :: path =>
    match frame.after with
    | t :: _ => t.startsWithBlock
    | [] => frame.parent.isBlock || blockAfter path

end BlogMarkdown.Dom
