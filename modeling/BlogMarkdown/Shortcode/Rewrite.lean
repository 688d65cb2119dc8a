import BlogMarkdown.Dom.Store
import BlogMarkdown.Error
import BlogMarkdown.Shortcode.Attributes
import BlogMarkdown.Shortcode.Tag
/-!
# Rewriting shortcodes

The texts below a root are searched for shortcode tags, and each tag, or each pair of an opening and
a closing one, becomes a synthetic element. What stands between the two moves under the element,
though the markup has it as a flat run of siblings.

Tags nest within each element: one opened inside a paragraph has to be closed in that paragraph.
The first tag that does not nest ends the rewriting with an error, and the tree stays as it is at
that moment. A rewriting is therefore a computation that has a store even when it fails.
-/
namespace BlogMarkdown.Shortcode

open Dom

/-! ## Scanning a text -/

/-- What a text holds: no tag, or a first tag between two texts. The escapes before it are
resolved. -/
inductive Scan where
  | plain (text : List Char)
  | tagged (before : List Char) (tag : Tag) (after : List Char)
  deriving Repr, DecidableEq

/-- Scans a text of which `before` is already scanned, last character first; `skip` characters are
still part of an escape. -/
def scanFrom (registry : Registry) (before : List Char) (skip : Nat) : List Char → Scan
  | [] => .plain before.reverse
  | c :: rest =>
    match skip with
    | skip + 1 => scanFrom registry before skip rest
    | 0 =>
      if c ≠ '[' then scanFrom registry (c :: before) 0 rest
      else match lex registry rest with
        | none => scanFrom registry (c :: before) 0 rest
        | some (.escape source literal) =>
          scanFrom registry (literal.reverse ++ before) source.length rest
        | some (.tag tag) => .tagged before.reverse tag (rest.drop tag.source.length)

/-- The first tag of a text, leftmost first; the search goes on right behind an escape. -/
def scan (registry : Registry) (text : List Char) : Scan := scanFrom registry [] 0 text

/-! ## Rewriting a tree -/

/-- A tag that is open, and the element that stands for it. -/
structure OpenTag where
  tag : String
  node : NodeId
  deriving Repr, DecidableEq

/-- A change of the store that may fail in the middle. -/
abbrev Rewrite := ExceptT Error (StateM Store)

/-- The attributes of the element for a tag. -/
def elementAttributes (text : List Char) : List Attribute :=
  (Attributes.parse text).map fun (key, value) =>
    .plain (String.ofList key) (String.ofList value)

/-- What the scan of one text node leaves to do. -/
structure Step where
  /-- The tags open behind the node, innermost first. -/
  openTags : List OpenTag
  /-- The element made for an opening tag. -/
  created : Option NodeId
  /-- The text that was cut off behind the tag. -/
  tail : Option NodeId

/-- Scans one text node up to its first tag and cuts the tag out. -/
def rewriteText (registry : Registry) (openTags : List OpenTag) (node : NodeId) : Rewrite Step := do
  let content := ((← get).text? node).getD []
  match scan registry content with
  | .plain text =>
    modify (·.setText node text)
    pure ⟨openTags, none, none⟩
  | .tagged before found after =>
    modify (·.setText node (before ++ '[' :: found.source ++ after))
    let start := Text.Utf8.byteLength before
    let stop := start + 1 + Text.Utf8.byteLength found.source
    let tail ← modifyGet fun s => let (s, tail) := s.splitText node start stop; (tail, s)
    let tag := String.ofList found.name
    let created ← if found.opens then do
        let element ← modifyGet fun s =>
          let (s, element) := s.create (.element (.shortcode tag) (elementAttributes found.attributes))
          (element, s.insertAfter (some node) (some element))
        pure (some element)
      else pure none
    let nowOpen := match created with
      | some element => ⟨tag, element⟩ :: openTags
      | none => openTags
    if found.closes then
      match nowOpen with
      | top :: rest =>
        if top.tag = tag then pure ⟨rest, created, some tail⟩
        else throw (.unexpectedClosingShortcode tag)
      | [] => throw (.unexpectedClosingShortcode tag)
    else pure ⟨nowOpen, created, some tail⟩

/-- Moves a node that is done, and the element made behind it, under the tag it stands in. -/
def adopt (openTags : List OpenTag) (child : NodeId) (created : Option NodeId) : Rewrite Unit :=
  match openTags with
  | [] => pure ()
  | top :: _ => do
    modify (·.append (some top.node) (some child))
    match created with
    | some element => modify (·.append (some top.node) (some element))
    | none => pure ()

/-- Rewrites a text node and then the texts that are cut off behind its tags. `pieces` bounds
their number. -/
def rewritePieces (registry : Registry) : Nat → List OpenTag → NodeId → Rewrite (List OpenTag)
  | 0, openTags, _ => pure openTags
  | pieces + 1, openTags, node => do
    let step ← rewriteText registry openTags node
    adopt openTags node step.created
    match step.tail with
    | none => pure step.openTags
    | some tail => rewritePieces registry pieces step.openTags tail

/-- Rewrites the children of an element one after the other; `inner` rewrites an element below. -/
def rewriteChildren (registry : Registry) (inner : NodeId → Rewrite Unit) :
    List OpenTag → List NodeId → Rewrite (List OpenTag)
  | openTags, [] => pure openTags
  | openTags, child :: rest => do
    let data := (← get).data? child
    match data with
    | some (.text content) => do
      let nowOpen ← rewritePieces registry (content.length + 1) openTags child
      rewriteChildren registry inner nowOpen rest
    | some (.element _ _) => do
      inner child
      adopt openTags child none
      rewriteChildren registry inner openTags rest
    | _ => do
      adopt openTags child none
      rewriteChildren registry inner openTags rest

/-- Rewrites the tree below a node, at most `depth` levels of elements. -/
def rewriteBelow (registry : Registry) : Nat → NodeId → Rewrite Unit
  | 0, _ => pure ()
  | depth + 1, node => do
    let children := (← get).children node
    let openTags ← rewriteChildren registry (rewriteBelow registry depth) [] children
    if openTags.isEmpty then pure ()
    else throw (.unclosedShortcodes (openTags.reverse.map (·.tag)))

/-- Rewrites every shortcode below a root and then removes the empty texts that cutting left. -/
def rewrite (registry : Registry) (root : NodeId) : Rewrite Unit := do
  let size := (← get).size
  rewriteBelow registry (size + 1) root
  modify (·.removeEmptyTexts root)

end BlogMarkdown.Shortcode
