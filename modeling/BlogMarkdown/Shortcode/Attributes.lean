/-!
# Shortcode attributes

The text between a shortcode's name and its closing bracket is a list of entries: `key="value"`,
`key='value'`, `key=value`, and values without a key, which get the keys `@0`, `@1`, … in order.
Reading never fails: what is no entry with a key is a value.

Each step takes at least one character, so `parse` ends; every helper returns what it leaves over.
-/
namespace BlogMarkdown.Shortcode.Attributes

/-- The characters between entries. -/
def isSpace (c : Char) : Bool :=
  c = ' ' || c = '\t' || c = '\n' || c = '\r' || c = '\x0c'

/-- The characters of a key. -/
def isWord (c : Char) : Bool := c.isAlphanum || c = '_'

/-- The two quotes. -/
def isQuote (c : Char) : Bool := c = '"' || c = '\''

/-- A value between two `quote`s at the front of a text, and the rest behind the second one. -/
def quotedValue? (quote : Char) : List Char → Option (List Char × List Char)
  | [] => none
  | c :: rest =>
    if c ≠ quote then none
    else match rest.span (· ≠ quote) with
      | (value, _ :: rest) => some (value, rest)
      | (_, []) => none

/-- The value behind `key=`: in quotes if they are closed, else up to the next blank or quote. -/
def value? (text : List Char) : Option (List Char × List Char) :=
  let bare := text.span (fun c => !isSpace c && !isQuote c)
  match text with
  | [] => none
  | c :: _ =>
    match if isQuote c then quotedValue? c text else none with
    | some quoted => some quoted
    | none => if bare.1.isEmpty then none else some bare

/-- An entry `key=value` at the front of a text: key, value and rest. -/
def pair? (text : List Char) : Option (List Char × List Char × List Char) :=
  match text.span isWord with
  | (key, '=' :: rest) =>
    if key.isEmpty then none else (value? rest).map fun (value, rest) => (key, value, rest)
  | _ => none

/-- A value without a key: in double quotes, or up to the next blank. -/
def positional (text : List Char) : List Char × List Char :=
  (quotedValue? '"' text).getD (text.span (fun c => !isSpace c))

/-- The key of the `n`-th value without a key. -/
def positionalKey (n : Nat) : List Char := '@' :: (toString n).toList

/-- The entries of a text; `n` counts the values without a key so far. `fuel` bounds the number
of steps. -/
def entries : Nat → Nat → List Char → List (List Char × List Char)
  | 0, _, _ => []
  | fuel + 1, n, text =>
    match text.dropWhile isSpace with
    | [] => []
    | text =>
      match pair? text with
      | some (key, value, rest) => (key, value) :: entries fuel n rest
      | none =>
        let (value, rest) := positional text
        (positionalKey n, value) :: entries fuel (n + 1) rest

/-- The entries of a text in order, repeated keys included. -/
def parse (text : List Char) : List (List Char × List Char) := entries (text.length + 1) 0 text

end BlogMarkdown.Shortcode.Attributes
