import BlogMarkdown.Dom.Node
import BlogMarkdown.Html.CharacterReference
/-!
# Tokens of HTML

The pieces that HTML text is read as. What comes next depends on where the reading stands: inside a
script or a title only their own end tag is a tag. `next` reads one piece and says what is left; each
piece takes at least one character.
-/
namespace BlogMarkdown.Html

/-- A tag. -/
structure Tag where
  name : String
  attributes : List Dom.Attribute
  selfClosing : Bool
  deriving Repr, DecidableEq

/-- A piece of HTML text. -/
inductive Token where
  /-- One or more characters, none of them null. -/
  | characters (text : List Char)
  | nullCharacter
  | startTag (tag : Tag)
  | endTag (tag : Tag)
  | comment (text : List Char)
  /-- Markup that adds nothing where it stands: a document type inside the body, an end tag without
  a name, a reference that lacks its semicolon before the character it stands for. -/
  | fault
  deriving Repr, DecidableEq

/-- How text is read. -/
inductive TextMode where
  /-- Tags and references. -/
  | ordinary
  /-- References and the end tag of the element, as in a title. -/
  | escapable (element : String)
  /-- The end tag of the element only, as in a style sheet. -/
  | raw (element : String)
  /-- As in a script: the end tag of a script inside a comment may be text. -/
  | script
  /-- Nothing but characters, to the end. -/
  | plain
  deriving Repr, DecidableEq

/-- The blanks of HTML markup. -/
def isMarkupBlank (c : Char) : Bool := c = ' ' || c = '\t' || c = '\n' || c = '\x0c'

/-- A null character becomes U+FFFD. -/
def replaceNull (c : Char) : Char := if c = '\x00' then '\ufffd' else c

/-! ## Tags -/

/-- Whether a character ends the name of a tag. -/
def endsTagName (c : Char) : Bool := isMarkupBlank c || c = '/' || c = '>'

/-- The value of an attribute behind its `=`, and the rest; `none` if the text ends before the
value does. -/
def readValue? (text : List Char) : Option (List Char × List Char) :=
  match text.dropWhile isMarkupBlank with
  | [] => none
  | c :: rest =>
    if c = '"' ∨ c = '\'' then
      match rest.span (· ≠ c) with
      | (value, _ :: rest) => some (expandValue value, rest)
      | (_, []) => none
    else if c = '>' then some ([], c :: rest)
    else
      let (value, rest) := (c :: rest).span (fun c => !isMarkupBlank c && c ≠ '>')
      some (expandValue value, rest)

/-- Adds an attribute unless there is one of that name. -/
def addAttribute (attributes : List Dom.Attribute) (key value : List Char) : List Dom.Attribute :=
  let key := String.ofList (key.map (fun c => (replaceNull c).toLower))
  if attributes.any (·.key = key) then attributes
  else attributes ++ [.plain key (String.ofList value)]

/-- Reads the attributes of a tag up to its end. Says whether the tag closes itself; `none` if the
text ends inside the tag. `fuel` bounds the number of attributes. -/
def readAttributes? (attributes : List Dom.Attribute) :
    Nat → List Char → Option (List Dom.Attribute × Bool × List Char)
  | 0, _ => none
  | fuel + 1, text =>
    match text.dropWhile isMarkupBlank with
    | [] => none
    | '>' :: rest => some (attributes, false, rest)
    | '/' :: '>' :: rest => some (attributes, true, rest)
    | '/' :: rest => readAttributes? attributes fuel rest
    | c :: rest =>
      let (more, rest) := rest.span (fun c => !endsTagName c && c ≠ '=')
      match rest.dropWhile isMarkupBlank with
      | '=' :: rest =>
        match readValue? rest with
        | none => none
        | some (value, rest) =>
          readAttributes? (addAttribute attributes (c :: more) value) fuel rest
      | rest => readAttributes? (addAttribute attributes (c :: more) []) fuel rest

/-- Reads a tag from its name on. -/
def readTag? (text : List Char) : Option (Tag × List Char) :=
  let (name, rest) := text.span (fun c => !endsTagName c)
  let name := String.ofList (name.map fun c => (replaceNull c).toLower)
  (readAttributes? [] (rest.length + 1) rest).map fun (attributes, selfClosing, rest) =>
    (⟨name, attributes, selfClosing⟩, rest)

/-- Whether a text begins with the name of an element and what ends the name of a tag. -/
def beginsTagName (element : List Char) (text : List Char) : Bool :=
  (text.take element.length).map Char.toLower = element &&
    (text.drop element.length).head?.any endsTagName

/-! ## Comments -/

/-- The text of a comment and what follows it. `text` is what is read, last character first, and
`dashes` are hyphens that may begin the end of the comment. -/
def readComment (text : List Char) (dashes : Nat) : List Char → List Char × List Char
  | [] => (text.reverse, [])
  | '>' :: rest =>
    if dashes ≥ 2 then (text.reverse ++ List.replicate (dashes - 2) '-', rest)
    else readComment ('>' :: List.replicate dashes '-' ++ text) 0 rest
  | '!' :: [] => ((if dashes ≥ 2 then text else '!' :: List.replicate dashes '-' ++ text).reverse, [])
  | '!' :: '>' :: rest =>
    if dashes ≥ 2 then (text.reverse ++ List.replicate (dashes - 2) '-', rest)
    else readComment ('>' :: '!' :: List.replicate dashes '-' ++ text) 0 rest
  | '-' :: rest => readComment text (dashes + 1) rest
  | c :: rest => readComment (replaceNull c :: List.replicate dashes '-' ++ text) 0 rest

/-- A comment behind `<!--`. It is empty if a `>` or `->` follows at once. -/
def readCommentStart : List Char → List Char × List Char
  | '>' :: rest => ([], rest)
  | '-' :: '>' :: rest => ([], rest)
  | text => readComment [] 0 text

/-- What stands up to the next `>`, as a comment. -/
def readBogusComment (text : List Char) : List Token × List Char :=
  let (content, rest) := text.span (· ≠ '>')
  ([.comment (content.map replaceNull)], rest.drop 1)

/-! ## Scripts -/

/-- Where the text of a script stands: inside a comment or not, and there inside another script
or not. `dashes` counts the hyphens just read, up to two. -/
inductive ScriptState where
  | outside
  | escaped (dashes : Nat)
  | doubleEscaped (dashes : Nat)
  /-- The next characters change nothing. -/
  | passing (count : Nat) (next : ScriptState)
  deriving Repr, DecidableEq

/-- The name of scripts. -/
def scriptName : List Char := ['s', 'c', 'r', 'i', 'p', 't']

/-- The state behind a character that is text; `rest` follows the character. -/
def ScriptState.step : ScriptState → Char → List Char → ScriptState
  | .passing (count + 1) next, _, _ => if count = 0 then next else .passing count next
  | .passing 0 next, _, _ => next
  | .outside, c, rest =>
    if c = '<' ∧ ['!', '-', '-'].isPrefixOf rest then .passing 3 (.escaped 2) else .outside
  | .escaped dashes, c, rest =>
    if c = '-' then .escaped (min 2 (dashes + 1))
    else if c = '>' ∧ dashes = 2 then .outside
    else if c = '<' ∧ beginsTagName scriptName rest then .passing 7 (.doubleEscaped 0)
    else .escaped 0
  | .doubleEscaped dashes, c, rest =>
    if c = '-' then .doubleEscaped (min 2 (dashes + 1))
    else if c = '>' ∧ dashes = 2 then .outside
    else if c = '<' ∧ rest.head? = some '/' ∧ beginsTagName scriptName (rest.drop 1) then
      .passing 8 (.escaped 0)
    else .doubleEscaped 0

/-- Whether the end tag of a script counts. -/
def ScriptState.canEnd : ScriptState → Bool
  | .outside | .escaped _ => true
  | _ => false

/-- The text of a script up to its end tag, and the rest from that tag on. -/
def readScript (state : ScriptState) : List Char → List Char × List Char
  | [] => ([], [])
  | c :: rest =>
    if c = '<' ∧ rest.head? = some '/' ∧ beginsTagName scriptName (rest.drop 1) ∧ state.canEnd then
      ([], c :: rest)
    else
      let (text, rest) := readScript (state.step c rest) rest
      (replaceNull c :: text, rest)

/-! ## The next piece -/

/-- Some characters as a token. -/
def charactersToken (text : List Char) : List Token :=
  if text.isEmpty then [] else [.characters text]

/-- The tokens of a section of plain characters, and what follows it. `run` is what is read behind
the last token, last character first. -/
def readSection (run : List Char) : List Char → List Token × List Char
  | [] => (charactersToken run.reverse, [])
  | ']' :: ']' :: '>' :: rest => (charactersToken run.reverse, rest)
  | c :: rest =>
    if c = '\x00' then
      let (tokens, rest) := readSection [] rest
      (charactersToken run.reverse ++ .nullCharacter :: tokens, rest)
    else readSection (c :: run) rest

/-- A tag as a token; nothing if the text ends inside the tag. -/
def tagToken (kind : Tag → Token) (text : List Char) : List Token × List Char :=
  match readTag? text with
  | some (tag, rest) => ([kind tag], rest)
  | none => ([], [])

/-- Behind `<!`. Sections of plain characters are known only in elements of another vocabulary,
which `foreign` tells. -/
def readDeclaration (foreign : Bool) (text : List Char) : List Token × List Char :=
  match text with
  | '-' :: '-' :: rest =>
    let (content, rest) := readCommentStart rest
    ([.comment content], rest)
  | _ =>
    if (text.take 7).map Char.toLower = "doctype".toList then
      ([.fault], (text.dropWhile (· ≠ '>')).drop 1)
    else if foreign ∧ text.take 7 = "[CDATA[".toList then readSection [] (text.drop 7)
    else readBogusComment text

/-- Behind `<` in ordinary text. -/
def readMarkup (foreign : Bool) : List Char → List Token × List Char
  | '!' :: rest => readDeclaration foreign rest
  | '?' :: rest => readBogusComment ('?' :: rest)
  | '/' :: '>' :: rest => ([.fault], rest)
  | '/' :: c :: rest =>
    if c.isAlpha then tagToken .endTag (c :: rest) else readBogusComment (c :: rest)
  | '/' :: [] => ([.characters ['<', '/']], [])
  | c :: rest =>
    if c.isAlpha then tagToken .startTag (c :: rest) else ([.characters ['<']], c :: rest)
  | [] => ([.characters ['<']], [])

/-- A reference behind `&`, or the `&` itself. -/
def readReference (rest : List Char) : List Token × List Char :=
  match reference? false rest with
  | some (text, length) =>
    let closed := (rest.take length).getLast? = some ';'
    (if closed then charactersToken text else .fault :: charactersToken text, rest.drop length)
  | none => ([.characters ['&']], rest)

/-- Text of an element that only its own end tag ends. -/
def readElementText (element : List Char) (references : Bool) : List Char → List Token × List Char
  | [] => ([], [])
  | c :: rest =>
    if c = '&' ∧ references then readReference rest
    else if c = '<' then
      match rest with
      | '/' :: name =>
        if beginsTagName element name then tagToken .endTag name
        else ([.characters ['<']], rest)
      | _ => ([.characters ['<']], rest)
    else
      let (text, rest) := (c :: rest).span (fun c => c ≠ '<' && !(references && c = '&'))
      ([.characters (text.map replaceNull)], rest)

/-- Reads the tokens of the next piece of a text, and says what is left. -/
def next (mode : TextMode) (foreign : Bool) (text : List Char) : List Token × List Char :=
  match mode, text with
  | _, [] => ([], [])
  | .plain, text => ([.characters (text.map replaceNull)], [])
  | .escapable element, text => readElementText element.toList true text
  | .raw element, text => readElementText element.toList false text
  | .script, text =>
    match readScript .outside text with
    | ([], _ :: _ :: name) => tagToken .endTag name
    | (content, rest) => (charactersToken content, rest)
  | .ordinary, c :: rest =>
    if c = '<' then readMarkup foreign rest
    else if c = '&' then readReference rest
    else if c = '\x00' then ([.nullCharacter], rest)
    else
      let (run, rest) := (c :: rest).span (fun c => c ≠ '<' && c ≠ '&' && c ≠ '\x00')
      ([.characters run], rest)

end BlogMarkdown.Html
