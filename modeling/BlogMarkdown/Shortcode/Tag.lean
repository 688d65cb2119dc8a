import BlogMarkdown.Shortcode.Registry
/-!
# Shortcode tags

What a bracket in a text begins: a tag, an escaped tag, or nothing. `lex` looks at the text behind
a `[` and either leaves that bracket alone or says which part of the text belongs to it.
-/
namespace BlogMarkdown.Shortcode

/-- A shortcode tag. -/
structure Tag where
  /-- Its text behind the `[`, up to and including the `]`. -/
  source : List Char
  name : List Char
  opens : Bool
  /-- A tag that both opens and closes is complete by itself. -/
  closes : Bool
  /-- The text between the name and the end of the tag. -/
  attributes : List Char
  deriving Repr, DecidableEq

/-- What a bracket can begin. -/
inductive Lexeme where
  /-- `[[tag]]`, which stands for the text `literal`; `source` is its text behind the first `[`. -/
  | escape (source literal : List Char)
  | tag (t : Tag)
  deriving Repr, DecidableEq

/-- The characters of a name behind its first one, which may be any. -/
def isNameChar (c : Char) : Bool := c.isAlphanum || c = '_' || c = '-'

/-- The name at the front of a text, and what follows it. -/
def splitName : List Char → Option (List Char × List Char)
  | [] => none
  | c :: rest => some (c :: rest.takeWhile isNameChar, rest.dropWhile isNameChar)

/-- The text up to the first `]`, and what follows that bracket. -/
def splitBracket (text : List Char) : Option (List Char × List Char) :=
  match text.span (· ≠ ']') with
  | (before, _ :: after) => some (before, after)
  | (_, []) => none

/-- A slash at the front of a text is a closing form's. -/
def splitSlash : List Char → Bool × List Char
  | '/' :: rest => (true, rest)
  | text => (false, text)

/-- Behind `[[`: the doubled bracket escapes a tag that has nothing but its name. -/
def lexEscape (registry : Registry) (text : List Char) : Option Lexeme :=
  let (slash, body) := splitSlash text
  match splitName body with
  | none => none
  | some (name, after) =>
    match registry.isBlock? (String.ofList name), after with
    | none, _ => none
    | some block, ']' :: ']' :: _ =>
      let inner := if slash then '/' :: name else name
      if (slash && !block) || name.contains ']' then none
      else some (.escape ('[' :: inner ++ [']', ']']) ('[' :: inner ++ [']']))
    | _, _ => none

/-- Behind `[/`: a closing tag carries nothing but the name of a block tag. -/
def lexClosing (registry : Registry) (body : List Char) : Option Lexeme :=
  match splitName body with
  | none => none
  | some (name, after) =>
    match registry.isBlock? (String.ofList name), splitBracket after with
    | some true, some (between, _) =>
      if name.contains ']' then none
      else if between = [] then some (.tag ⟨'/' :: name ++ [']'], name, false, true, []⟩)
      else if between.getLast? = some '/' then
        some (.tag ⟨'/' :: name ++ between ++ [']'], name, false, true, between.dropLast⟩)
      else none
    | _, _ => none

/-- Behind `[`: an opening tag, which is complete by itself if the tag is standalone or a slash
stands before the bracket. -/
def lexOpening (registry : Registry) (text : List Char) : Option Lexeme :=
  match splitName text with
  | none => none
  | some (name, after) =>
    match registry.isBlock? (String.ofList name), splitBracket after with
    | some block, some (between, _) =>
      if name.contains ']' then none
      else if between.getLast? = some '/' then
        some (.tag ⟨name ++ between ++ [']'], name, true, true, between.dropLast⟩)
      else some (.tag ⟨name ++ between ++ [']'], name, true, !block, between⟩)
    | _, _ => none

/-- What begins at a `[`, given the text behind it; `none` if the bracket is plain text. -/
def lex (registry : Registry) : List Char → Option Lexeme
  | '[' :: rest => lexEscape registry rest
  | '/' :: rest => lexClosing registry rest
  | text => lexOpening registry text

end BlogMarkdown.Shortcode
