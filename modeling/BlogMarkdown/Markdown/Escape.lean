/-!
# Escaping

Characters that would begin Markdown syntax get a backslash in front. Which characters these are
depends on where the text stands. Three of them are left alone where they begin nothing: a full
stop unless it follows a digit (`1.` begins a list item), a colon unless `//` follows it, and an
exclamation mark unless another one follows it.
-/
namespace BlogMarkdown.Markdown

/-- Escaped in body text. -/
def specialInText : List Char :=
  ['\\', '\x60', '*', '_', '\x7b', '\x7d', '[', ']', '(', ')', '#', '+', '-', '.', '!', ':', '|',
    '&', '<', '>', '$']

/-- Escaped in link texts and in alternative texts of images. -/
def specialInLinkText : List Char := ['[', ']']

/-- Escaped in link targets. -/
def specialInTarget : List Char := ['(', ')']

/-- Escaped in link targets that a title follows. -/
def specialInTitledTarget : List Char := ['"', '(', ')']

/-- Escaped in titles. -/
def specialInTitle : List Char := ['"']

/-- Whether a special character begins syntax between its neighbours. -/
def beginsSyntax (before : Option Char) (c : Char) (after : List Char) : Bool :=
  if c = '.' then before.any Char.isDigit
  else if c = ':' then ['/', '/'].isPrefixOf after
  else if c = '!' then ['!'].isPrefixOf after
  else true

/-- Escapes a text that `before` precedes. -/
def escapeAfter (special : List Char) (before : Option Char) : List Char → List Char
  | [] => []
  | c :: after =>
    let rest := escapeAfter special (some c) after
    if special.contains c ∧ beginsSyntax before c after then '\\' :: c :: rest else c :: rest

/-- Escapes the special characters of a text. -/
def escape (special text : List Char) : List Char := escapeAfter special none text

/-! ## Tabs and single newlines -/

/-- Expands the tabs of a text that starts at column `column`. -/
def expandTabsFrom (size column : Nat) : List Char → List Char
  | [] => []
  | c :: rest =>
    if c = '\t' then
      let n := size - column % size
      List.replicate n ' ' ++ expandTabsFrom size (column + n) rest
    else if c = '\n' ∨ c = '\r' ∨ c = '\x0c' then c :: expandTabsFrom size 0 rest
    else c :: expandTabsFrom size (column + 1) rest

/-- Replaces each tab by the blanks up to the next tab stop. Columns count characters and begin
anew behind a newline, a carriage return and a form feed. -/
def expandTabs (size : Nat) (text : List Char) : List Char := expandTabsFrom size 0 text

/-- The text without the newline at its front, unless two or more stand there. -/
def dropFirstNewline : List Char → List Char
  | '\n' :: '\n' :: rest => '\n' :: '\n' :: rest
  | '\n' :: rest => rest
  | text => text

/-- The text without the newline at its end, unless two or more stand there. -/
def dropLastNewline (text : List Char) : List Char := (dropFirstNewline text.reverse).reverse

end BlogMarkdown.Markdown
