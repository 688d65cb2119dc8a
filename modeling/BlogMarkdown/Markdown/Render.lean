import BlogMarkdown.Dom.Boundary
import BlogMarkdown.Dom.Markup
import BlogMarkdown.Markdown.Escape
import BlogMarkdown.Markdown.Image
import BlogMarkdown.Markdown.UrlRewriter
import BlogMarkdown.Markdown.Writer
import BlogMarkdown.Text.Search
/-!
# Rendering

A document tree as Markdown. A rule applies to an element only if the element has the simple shape
that Markdown can express: a link with nothing but its target, code of plain text, a list of items
only. Everything else is written as the markup it is, in verbatim mode, and Markdown passes it on.

A rendering changes a writer and the state of a URL rewriter, and has both also when it fails.
-/
namespace BlogMarkdown.Markdown

open Dom

/-- What a rendering changes. -/
structure Sheet (σ : Type) where
  writer : Writer
  urls : σ

/-- A rendering. -/
abbrev Render (σ : Type) := ExceptT Error (StateM (Sheet σ))

namespace Render

variable {σ : Type}

/-- Changes the writer. -/
def layout (f : Writer → Writer) : Render σ Unit :=
  modify fun sheet => { sheet with writer := f sheet.writer }

/-- Writes a text. -/
def write (text : List Char) : Render σ Unit := layout (·.write text)

/-- Requests linefeeds. -/
def ensureLinefeeds (n : Nat) : Render σ Unit := layout (·.ensureLinefeeds n)

/-- Writes a text as it is. -/
def writeVerbatim (text : List Char) : Render σ Unit :=
  layout fun w => ((w.enterVerbatim).write text).leaveVerbatim

/-- Writes an escaped text between two others. -/
def writeBetween (start text stop special : List Char) : Render σ Unit :=
  layout fun w => ((w.write start).write (escape special text)).write stop

/-- The written form of a target. -/
def target (rewriter : UrlRewriter σ) (url : String) : Render σ (List Char) :=
  modifyGet fun sheet =>
    let (url, urls) := rewriter.rewrite url sheet.urls
    (url.toList, { sheet with urls := urls })

/-- Renders on an empty sheet of its own, and gives the writer of that sheet, or why the rendering
failed. What the URL rewriter remembers of it stays. -/
def aside (body : Render σ Unit) : Render σ (Except Error Writer) :=
  modifyGet fun sheet =>
    let (result, inner) := (body.run ⟨.empty, sheet.urls⟩).run
    (result.map fun _ => inner.writer, { sheet with urls := inner.urls })

/-- Renders under one more line prefix, which is gone behind it, and then requests a new line. -/
def indented (text : List Char) (body : Render σ Unit) : Render σ Unit := fun sheet =>
  let (result, sheet) := (body.run { sheet with writer := sheet.writer.pushIndent text }).run
  match result with
  | .ok _ => (.ok (), { sheet with writer := sheet.writer.popIndent.ensureLinefeeds 1 })
  | .error e => (.error e, { sheet with writer := sheet.writer.popIndent.ensureLinefeeds 1 })

end Render

/-! ## Texts -/

/-- Body text: one newline breaks the line, more of them end the paragraph. `newlines` counts those
that are read and not yet written, and `line` is what is read behind them, last character first. -/
def bodyLines (newlines : Nat) (line : List Char) : List Char → List (Nat × List Char)
  | [] => [(newlines, line.reverse)]
  | c :: rest =>
    if c ≠ '\n' then bodyLines newlines (c :: line) rest
    else if line.isEmpty ∧ newlines ≠ 0 then bodyLines (newlines + 1) [] rest
    else (newlines, line.reverse) :: bodyLines 1 [] rest

/-- What stands for a number of newlines. -/
def lineBreak (newlines : Nat) : List Char :=
  if newlines = 0 then []
  else if newlines = 1 then "\n<br>".toList
  else "\n\n".toList

/-- Body text as Markdown. -/
def bodyText (text : List Char) : List Char :=
  (bodyLines 0 [] text).flatMap fun (newlines, line) =>
    lineBreak newlines ++ escape specialInText line

/-- The text between block boundaries: a single newline next to one is dropped. -/
def trimAtBlocks (path : Path) (text : List Char) : List Char :=
  let text := if path.blockBefore then dropFirstNewline text else text
  if path.blockAfter then dropLastNewline text else text

/-- A text on one line. -/
def onOneLine (text : List Char) : List Char :=
  text.map fun c => if c = '\n' ∨ c = '\r' then ' ' else c

/-! ## Shapes of elements -/

/-- The text of an element that has at most one child, and that a text. -/
def plainText? : List Tree → Option (List Char)
  | [] => some []
  | [.node (.text content) _] => some content
  | _ => none

/-- The text of an element without attributes and markup. -/
def bareText? (element : NodeData) (children : List Tree) : Option (List Char) :=
  if element.attributes.isEmpty then plainText? children else none

/-- Whether a link has nothing but a target. -/
def hasOnlyTarget (link : NodeData) : Bool :=
  link.attributes.length = 1 && link.attributes.all (·.key = "href")

/-- The image of a link that shows nothing but the image it leads to. -/
def linkedImage? (link : NodeData) : List Tree → Option NodeData
  | [.node image _] =>
    if hasOnlyTarget link && image.isNative "img" &&
      link.attribute? "href" = some ((image.attribute? "src").getD "") then some image else none
  | _ => none

/-- Whether a list has only items and blank text between them. -/
def hasOnlyItems (children : List Tree) : Bool :=
  children.all fun t =>
    match t.data with
    | .text content => Text.isBlankText content
    | .element _ _ => t.data.isNative "li"
    | _ => false

/-- Whether a tree is more than blank text. -/
def isMeaningful (t : Tree) : Bool := !t.data.text?.any Text.isBlankText

/-- The image that a caption is for: its first meaningful child, possibly inside a link. -/
def captionImage? (children : List Tree) : Option Tree :=
  (children.find? isMeaningful).bind fun first =>
    let image? := if first.data.isNative "a" then first.children.find? isMeaningful else some first
    image?.filter (·.data.isNative "img")

mutual
/-- All text in a tree, in order. -/
def Tree.allText : Tree → List Char
  | .node (.text content) _ => content
  | .node _ children => allTextOf children
/-- All text in some trees. -/
def allTextOf : List Tree → List Char
  | [] => []
  | t :: rest => Tree.allText t ++ allTextOf rest
end

/-- What stands before a list item; nothing makes an item of an element outside a list. -/
def itemMarker? (path : Path) (index : Option Nat) : Option (List Char) :=
  match index, path with
  | some index, frame :: _ =>
    if frame.parent.isNative "ol" then some (toString (index + 1) ++ ". ").toList
    else if frame.parent.isNative "ul" then some ['*', ' ']
    else none
  | _, _ => none

/-! ## Single elements -/

section Elements

variable {σ : Type} (rewriter : UrlRewriter σ)

/-- An element as the markup it is. -/
def renderAsMarkup (t : Tree) : Render σ Unit := Render.writeVerbatim t.markup

/-- An image, if it has no attribute that Markdown cannot express. -/
def renderImage (image : NodeData) : Render σ Unit := do
  let url ← Render.target rewriter ((image.attribute? "src").getD "")
  let title := ((image.attribute? "title").getD "").toList
  Render.writeBetween ['!', '['] (altText image) [']'] specialInLinkText
  if title.isEmpty then Render.writeBetween ['('] url [')'] specialInTarget
  else
    Render.writeBetween ['('] url [' '] specialInTitledTarget
    Render.writeBetween ['"'] title ['"', ')'] specialInTitle

/-- A link with nothing but a target and plain text. -/
def renderLink (link : NodeData) (text : List Char) : Render σ Unit := do
  let url ← Render.target rewriter ((link.attribute? "href").getD "")
  Render.writeBetween ['['] text [']'] specialInLinkText
  Render.writeBetween ['('] url [')'] specialInTarget

/-- The delimiter of fenced code. -/
def codeFence : List Char := ['\x60', '\x60', '\x60']

/-- Code on lines of its own. -/
def renderFenced (text : List Char) : Render σ Unit := do
  Render.ensureLinefeeds 2
  Render.write codeFence
  Render.write ['\n']
  Render.writeVerbatim (expandTabs 8 text)
  Render.ensureLinefeeds 1
  Render.write codeFence
  Render.ensureLinefeeds 2

/-- A formula. One that begins with a bracket is set apart from the delimiter, or that would read
as a caption. -/
def renderFormula (children : List Tree) : Render σ Unit :=
  let text := (plainText? children).getD (allTextOf children)
  let start := if text.head? = some '[' then ['$', '$', ' '] else ['$', '$']
  Render.writeBetween start text ['$', '$'] []

/-- The level of a heading. -/
def headingLevel? (tag : String) : Option Nat :=
  (["h1", "h2", "h3", "h4", "h5", "h6"].idxOf? tag).map (· + 1)

/-- A heading whose contents are rendered already. -/
def renderHeading (level : Nat) (text : List Char) : Render σ Unit := do
  Render.ensureLinefeeds 2
  Render.write (List.replicate level '#' ++ [' '])
  Render.write (onOneLine text)
  Render.ensureLinefeeds 2

/-- The markup around a caption. -/
def figureStart : List Char := "\x7b% figure %\x7d".toList

@[inherit_doc figureStart]
def captionStart : List Char := "\x7b% figcaption %\x7d".toList

@[inherit_doc figureStart]
def figureEnd : List Char := "\x7b% endfigcaption %\x7d\x7b% endfigure %\x7d".toList

end Elements

/-! ## Trees -/

section Trees

variable {σ : Type} (rewriter : UrlRewriter σ)

mutual
/-- Renders a tree at a place; `index` is its position if it is rendered as an item of a list. -/
def renderTree (path : Path) (index : Option Nat) : Tree → Render σ Unit
  | .node (.text content) _ => Render.write (bodyText (trimAtBlocks path content))
  | .node (.comment _) _ => pure ()
  | .node (.doctype _ _ _) _ => throw .unexpectedDoctype
  | .node .document children => renderKept .document path (fun _ => true) 0 [] children
  | .node (.element ⟨.shortcode, tag⟩ attributes) children =>
    let self := NodeData.element ⟨.shortcode, tag⟩ attributes
    if tag = "latex" then renderFormula children
    else if tag = "caption" ∨ tag = "wp_caption" then
      match captionImage? children, children.findIdx? isMeaningful with
      | some _, some first => do
        let caption ← match self.attribute? "caption" with
          | some caption => do
            Render.write figureStart
            renderKept self path (fun _ => true) 0 [] children
            pure (escape specialInText caption.toList)
          | none => do
            let rest ← Render.aside (renderKept self path (first < ·) 0 [] children)
            let caption ← liftExcept (rest.bind Writer.text)
            Render.write figureStart
            renderKept self path (· = first) 0 [] children
            pure (Text.trimBlank caption)
        Render.write captionStart
        Render.write caption
        Render.write figureEnd
      | _, _ => throw .captionShape
    else throw (.unsupportedShortcode tag)
  | .node (.element name attributes) children =>
    let self := NodeData.element name attributes
    let tag := name.tag
    let all := renderKept self path (fun _ => true) 0 [] children
    let asMarkup := renderAsMarkup (.node self children)
    match headingLevel? tag with
    | some level => do
      match ← Render.aside all with
      | .ok inner => do
        let text ← liftExcept inner.text
        renderHeading level text
      | .error _ => asMarkup
    | none =>
      if tag = "em" ∨ tag = "i" then do
        Render.write ['*']
        all
        Render.write ['*']
      else if tag = "strong" ∨ tag = "b" then do
        Render.write ['*', '*']
        all
        Render.write ['*', '*']
      else if tag = "code" then
        match bareText? self children with
        | some text =>
          if text.contains '\x60' then asMarkup
          else Render.writeVerbatim ('\x60' :: text ++ ['\x60'])
        | none => asMarkup
      else if tag = "pre" then
        match bareText? self children with
        | some text => if Text.containsWord codeFence text then asMarkup else renderFenced text
        | none => asMarkup
      else if tag = "a" then
        match if hasOnlyTarget self then plainText? children else none with
        | some text => renderLink rewriter self text
        | none =>
          match linkedImage? self children with
          | some image =>
            if isPlainImage image then renderImage rewriter image else asMarkup
          | none => asMarkup
      else if tag = "img" then
        if isPlainImage self then renderImage rewriter self else asMarkup
      else if tag = "ol" ∨ tag = "ul" then
        if hasOnlyItems children then do
          Render.ensureLinefeeds 2
          renderItems self path 0 [] children
          Render.ensureLinefeeds 2
        else asMarkup
      else if tag = "li" then
        match itemMarker? path index with
        | some marker =>
          Render.indented "    ".toList do
            Render.write marker
            all
        | none => asMarkup
      else if tag = "blockquote" then do
        Render.ensureLinefeeds 2
        Render.indented ['>', ' '] do
          Render.write ['>', ' ']
          all
      else asMarkup
/-- Renders those children of a node whose position is kept; the first tree of the list has the
position `position`, behind `before`. -/
def renderKept (parent : NodeData) (path : Path) (keep : Nat → Bool) (position : Nat)
    (before : List Tree) : List Tree → Render σ Unit
  | [] => pure ()
  | t :: after => do
    if keep position then renderTree (⟨parent, before, after⟩ :: path) none t
    renderKept parent path keep (position + 1) (t :: before) after
/-- Renders the elements among the children of a list as its items, numbered from `index`. -/
def renderItems (parent : NodeData) (path : Path) (index : Nat) (before : List Tree) :
    List Tree → Render σ Unit
  | [] => pure ()
  | t :: after =>
    if t.data.isElement then do
      renderTree (⟨parent, before, after⟩ :: path) (some index) t
      renderItems parent path (index + 1) (t :: before) after
    else renderItems parent path index (t :: before) after
end

/-- Renders what is below the root of a document. -/
def renderBody (root : Tree) : Render σ Unit :=
  renderKept rewriter root.data [] (fun _ => true) 0 [] root.children

end Trees

end BlogMarkdown.Markdown
