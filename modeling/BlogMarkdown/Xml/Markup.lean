import BlogMarkdown.Text.Search
/-!
# The pieces of an XML document

A document is cut into tags, references, character data and all else. A tag ends at the first `>`
outside quotes; a comment, a processing instruction and a CDATA section end at their closing mark;
a document type declaration may hold literals, and declarations of its own between brackets. Each step takes
at least one character, and the list ends with `fault` where none of the forms fits.
-/
namespace BlogMarkdown.Xml

open Text

/-- The blanks of markup. -/
def isSpace (c : Char) : Bool := c = ' ' || c = '\t' || c = '\r' || c = '\n'

/-- One piece of a document, by what stands between its delimiters. -/
inductive Piece where
  /-- Character data, plain or in a CDATA section. -/
  | text (content : List Char)
  /-- `&name;` -/
  | reference (name : List Char)
  /-- `<content>` -/
  | start (content : List Char)
  /-- `<content/>` -/
  | empty (content : List Char)
  /-- `</content>` -/
  | stop (content : List Char)
  /-- A comment, a processing instruction or a declaration. -/
  | other
  /-- The rest of the document has none of these forms. -/
  | fault
  deriving Repr, DecidableEq

/-- The text of a tag up to the `>` that ends it, and what follows; `read` is what was passed, last
character first, and `quote` the quote that is open. -/
def splitTagFrom (read : List Char) (quote : Option Char) :
    List Char → Option (List Char × List Char)
  | [] => none
  | c :: rest =>
    match quote with
    | some q => splitTagFrom (c :: read) (if c = q then none else some q) rest
    | none =>
      if c = '>' then some (read.reverse, rest)
      else splitTagFrom (c :: read) (if c = '"' ∨ c = '\'' then some c else none) rest

/-- The text of a tag up to the first `>` outside quotes, and what follows. -/
def splitTag (text : List Char) : Option (List Char × List Char) := splitTagFrom [] none text

/-- Passes a literal, given the text behind the quote that opens it. -/
def skipLiteral (quote : Char) (text : List Char) : Option (List Char) :=
  (splitAtWord? [quote] text).map (·.2)

/-- Passes what begins behind a `<` between the brackets of a document type declaration. Only a comment,
an instruction and the declarations that may hold literals hide a `]`; all else is passed like the
characters around it. -/
def skipDeclaration (text : List Char) : Option (List Char) :=
  match text with
  | '!' :: '-' :: '-' :: rest => (splitAtWord? ['-', '-', '>'] rest).map (·.2)
  | '?' :: rest => (splitAtWord? ['?', '>'] rest).map (·.2)
  | text =>
    match ["!ENTITY", "!ATTLIST", "!NOTATION"].findSome? fun word => word.toList.isPrefixOf? text with
    | some rest => (splitTag rest).map (·.2)
    | none => some text

/-- Passes what stands between the brackets of a document type declaration, and the `]`. Each
declaration takes a step of `fuel`, and so does each character between declarations. -/
def skipSubset : Nat → List Char → Option (List Char)
  | 0, _ => none
  | _ + 1, [] => none
  | fuel + 1, c :: rest =>
    if c = ']' then some rest
    else if c = '<' then
      match skipDeclaration rest with
      | some rest => skipSubset fuel rest
      | none => none
    else skipSubset fuel rest

/-- Passes the head of a document type declaration, up to the `>` or the `[` that ends it outside
literals; `fuel` bounds the number of literals. -/
def skipDoctypeHead : Nat → List Char → Option (List Char)
  | 0, _ => none
  | fuel + 1, text =>
    match text.dropWhile (fun c => c ≠ '[' && c ≠ '>' && c ≠ '"' && c ≠ '\'') with
    | [] => none
    | '>' :: rest => some rest
    | '[' :: rest =>
      match skipSubset (rest.length + 1) rest with
      | some rest => (splitAtWord? ['>'] rest).map (·.2)
      | none => none
    | quote :: rest =>
      match skipLiteral quote rest with
      | some rest => skipDoctypeHead fuel rest
      | none => none

/-- Passes a document type declaration, given the text behind `<!DOCTYPE`. It must not be blank. -/
def skipDoctype (text : List Char) : Option (List Char) :=
  match text.dropWhile isSpace with
  | '>' :: _ => none
  | text => skipDoctypeHead (text.length + 1) text

/-- The piece behind `<!`, and what follows it. -/
def declaration (text : List Char) : Option (Piece × List Char) :=
  match "--".toList.isPrefixOf? text with
  | some rest => (splitAtWord? ['-', '-', '>'] rest).map fun (_, rest) => (.other, rest)
  | none =>
    match "[CDATA[".toList.isPrefixOf? text with
    | some rest => (splitAtWord? [']', ']', '>'] rest).map fun (content, rest) => (.text content, rest)
    | none =>
      if (text.take 7).map Char.toUpper = "DOCTYPE".toList then
        (skipDoctype (text.drop 7)).map fun rest => (.other, rest)
      else none

/-- The piece behind `<?`, and what follows it. -/
def instruction (text : List Char) : Option (Piece × List Char) :=
  match text with
  | '>' :: _ => none
  | text => (splitAtWord? ['?', '>'] text).map fun (_, rest) => (.other, rest)

/-- The piece behind `<`, and what follows it. -/
def markup (text : List Char) : Option (Piece × List Char) :=
  match text with
  | '!' :: rest => declaration rest
  | '?' :: rest => instruction rest
  | '/' :: rest => (splitTag rest).map fun (content, rest) => (.stop content, rest)
  | text =>
    (splitTag text).map fun (content, rest) =>
      (if content.getLast? = some '/' then .empty content.dropLast else .start content, rest)

/-- The piece behind `&`, and what follows it: a reference ends at a semicolon before any other
markup. -/
def reference (text : List Char) : Option (Piece × List Char) :=
  match text.span (fun c => c ≠ ';' && c ≠ '&' && c ≠ '<') with
  | (name, ';' :: rest) => some (.reference name, rest)
  | _ => none

/-- The piece at the front of a text that begins with `c`, and what follows it. -/
def front (c : Char) (rest : List Char) : Option (Piece × List Char) :=
  if c = '<' then markup rest
  else if c = '&' then reference rest
  else
    let (content, rest) := rest.span (fun c => c ≠ '<' && c ≠ '&')
    some (.text (c :: content), rest)

/-- The pieces of a text; `fuel` bounds their number. -/
def piecesFrom : Nat → List Char → List Piece
  | 0, _ => []
  | _ + 1, [] => []
  | fuel + 1, c :: rest =>
    match front c rest with
    | some (piece, rest) => piece :: piecesFrom fuel rest
    | none => [.fault]

/-- The pieces of a document. A byte order mark in front of it is none of its text. -/
def pieces (document : List Char) : List Piece :=
  let text := match document with
    | '\ufeff' :: rest => rest
    | text => text
  piecesFrom (text.length + 1) text

end BlogMarkdown.Xml
