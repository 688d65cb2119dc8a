import BlogMarkdown.Html.Construction
/-!
# Fragments

The markup of a post is what stands in the body of a document. It is read as the whole document would
be: what the markup leaves open takes up the end tags of the body and the document too.
-/
namespace BlogMarkdown.Html

open Dom

/-- A document with an empty body. -/
def emptyDocument : Store × NodeId × NodeId :=
  let (s, doctype) := Store.empty.create (.doctype "html" "" "")
  let (s, html) := s.create (.element (.html "html") [])
  let (s, head) := s.create (.element (.html "head") [])
  let (s, body) := s.create (.element (.html "body") [])
  let s := s.append (some Store.document) (some doctype)
  let s := s.append (some Store.document) (some html)
  let s := s.append (some html) (some head)
  (s.append (some html) (some body), html, body)

/-- The state in which the body of a document begins. -/
def Builder.initial : Builder :=
  let (store, html, body) := emptyDocument
  { store := store
    openElements := [body, html]
    formatting := []
    mode := .inBody
    returnMode := .inBody
    templateModes := []
    tableText := []
    fostering := false
    skipNewline := false
    form := none
    textMode := .ordinary }

/-- Reads a text to its end; `fuel` bounds the number of pieces. -/
def Builder.read : Nat → Builder → List Char → Builder
  | 0, b, _ => b
  | _, b, [] => b
  | fuel + 1, b, text =>
    let (tokens, rest) := next b.textMode b.currentIsForeign text
    Builder.read fuel (tokens.foldl Builder.process b) rest

/-- Carriage returns, and those before a newline, become newlines. -/
def unifyNewlines : List Char → List Char
  | [] => []
  | '\x0d' :: '\n' :: rest => '\n' :: unifyNewlines rest
  | c :: rest => (if c = '\x0d' then '\n' else c) :: unifyNewlines rest

/-- The tree of some markup: a store, and the body, which stands for itself. -/
def parseFragment (markup : List Char) : Store × NodeId :=
  let text := unifyNewlines (markup ++ "</body></html>".toList)
  let store := (Builder.initial.read (text.length + 1) text).finish.store
  match store.findTag? "body" with
  | some body => (store.detach body, body)
  | none =>
    let (store, body) := store.create (.element (.html "body") [])
    (store, body)

end BlogMarkdown.Html
