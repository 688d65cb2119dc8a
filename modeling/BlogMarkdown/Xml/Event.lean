import BlogMarkdown.Text.Blank
import BlogMarkdown.Xml.Namespace
/-!
# XML events

What a reader of a document meets, in order, with the names of elements resolved. A closing tag must
name the element that was opened last; an element that is still open where the document ends is no
fault.
-/
namespace BlogMarkdown.Xml

/-- One step through a document. -/
inductive Event where
  | start (name : String)
  /-- An element written as one tag. -/
  | empty (name : String)
  /-- The end of the element opened last. -/
  | stop
  | text (content : List Char)
  | reference (name : List Char)
  | other
  /-- The document is malformed from here on. -/
  | fault
  deriving Repr, DecidableEq

/-- An open element: its name as written, and the scope outside it. -/
structure OpenElement where
  name : List Char
  outer : Scope

/-- The name in the text of a tag, and the attributes behind it. -/
def splitName (content : List Char) : List Char × List Char := content.span (fun c => !isSpace c)

/-- The name in a closing tag, which blanks may follow. -/
def closingName (content : List Char) : List Char :=
  match Text.dropEndWhile isSpace content with
  | [] => content
  | name => name

/-- The events of some pieces inside the open elements `path`, the innermost first. -/
def eventsFrom (path : List OpenElement) (scope : Scope) : List Piece → List Event
  | [] => []
  | .text content :: rest => .text content :: eventsFrom path scope rest
  | .reference name :: rest => .reference name :: eventsFrom path scope rest
  | .other :: rest => .other :: eventsFrom path scope rest
  | .fault :: _ => [.fault]
  | .start content :: rest =>
    let (name, attributeText) := splitName content
    match scope.enter attributeText with
    | none => [.fault]
    | some inner =>
      .start (String.ofList (inner.resolve name)) :: eventsFrom (⟨name, scope⟩ :: path) inner rest
  | .empty content :: rest =>
    let (name, attributeText) := splitName content
    match scope.enter attributeText with
    | none => [.fault]
    | some inner => .empty (String.ofList (inner.resolve name)) :: eventsFrom path scope rest
  | .stop content :: rest =>
    match path with
    | [] => [.fault]
    | element :: path =>
      if closingName content = element.name then .stop :: eventsFrom path element.outer rest
      else [.fault]

/-- The events of a document. -/
def events (document : List Char) : List Event := eventsFrom [] .initial (pieces document)

end BlogMarkdown.Xml
