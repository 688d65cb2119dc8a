import BlogMarkdown.Error
import BlogMarkdown.Export.Channel
import BlogMarkdown.Text.Numeral
import BlogMarkdown.Xml.Event
/-!
# Reading an export

The events of an export make a channel. The text that an element ends with, all that came since the
last tag, is the value of the field that the element stands for; which field that is, the names of
the element and of its parent say. Elements written as one tag hold no value and set no field.
-/
namespace BlogMarkdown.Export

open Text Xml

/-- The number of a character is read as a word of 32 bits. -/
def wordLimit : Nat := 0x100000000

/-- The numbers of items have 64 bits. -/
def idLimit : Nat := 0x10000000000000000

/-- The character that a reference stands for. -/
def referencedChar? (name : List Char) : Option Char :=
  if name = "apos".toList then some '\''
  else if name = "quot".toList then some '"'
  else if name = "lt".toList then some '<'
  else if name = "gt".toList then some '>'
  else if name = "amp".toList then some '&'
  else
    let number? := match name with
      | '#' :: 'x' :: digits => numeral? 16 wordLimit digits
      | '#' :: digits => numeral? 10 wordLimit digits
      | _ => none
    number?.bind fun n => if n.isValidChar then some (Char.ofNat n) else none

/-- The text of a reference; one that stands for nothing known is kept as it is. -/
def referenceText (name : List Char) : List Char :=
  match referencedChar? name with
  | some c => [c]
  | none => '&' :: name ++ [';']

/-- The number in a field. An empty field holds 0. -/
def number (field : String) (value : List Char) : Except Error Nat :=
  let digits := trimBlank value
  if digits.isEmpty then .ok 0
  else match numeral? 10 idLimit digits with
    | some n => .ok n
    | none => .error (.invalidExport (.notANumber field (String.ofList digits)))

/-- The item with a field set. The elements that are no field change nothing, and each category is
added to those before. -/
def Item.setField (item : Item) (field : String) (value : List Char) : Except Error Item :=
  let text := String.ofList value
  match field with
  | "title" => .ok { item with title := text }
  | "link" => .ok { item with link := text }
  | "content:encoded" => .ok { item with content := text }
  | "wp:post_id" => (number field value).map fun n => { item with postId := n }
  | "wp:post_date_gmt" => .ok { item with postDateGmt := text }
  | "wp:post_name" => .ok { item with postName := text }
  | "wp:post_type" => .ok { item with postType := text }
  | "wp:post_parent" => (number field value).map fun n => { item with postParent := n }
  | "wp:comment_status" => .ok { item with commentStatus := text }
  | "wp:status" => .ok { item with status := text }
  | "wp:attachment_url" => .ok { item with attachmentUrl := text }
  | "category" => .ok { item with categories := item.categories ++ [text] }
  | _ => .ok item

/-- The author with a field set. -/
def Author.setField (author : Author) (field : String) (value : List Char) : Author :=
  let text := String.ofList value
  match field with
  | "wp:author_login" => { author with login := text }
  | "wp:author_email" => { author with email := text }
  | "wp:author_display_name" => { author with displayName := text }
  | "wp:author_first_name" => { author with firstName := text }
  | "wp:author_last_name" => { author with lastName := text }
  | _ => author

/-- The channel with a field set. -/
def Channel.setField (channel : Channel) (field : String) (value : List Char) : Channel :=
  let text := String.ofList value
  match field with
  | "title" => { channel with title := text }
  | "link" => { channel with link := text }
  | "wp:base_blog_url" => { channel with baseBlogUrl := text }
  | _ => channel

/-- How far an export has been read. -/
structure Reading where
  /-- All that is complete. -/
  channel : Channel := {}
  /-- The item and the author that are being read. -/
  item : Option Item := none
  author : Option Author := none
  /-- The names of the open elements, the innermost first. -/
  path : List String := []
  /-- The text since the last tag, last character first. -/
  text : List Char := []
  deriving Repr, DecidableEq

namespace Reading

/-- Opens an element. -/
def enter (r : Reading) (name : String) : Reading :=
  { r with
    item := if name = "item" then some {} else r.item
    author := if name = "wp:author" then some {} else r.author
    path := name :: r.path
    text := [] }

/-- Adds to the text of the innermost element. -/
def push (r : Reading) (content : List Char) : Reading :=
  { r with text := content.reverseAux r.text }

/-- Uses the value of an element that is complete. -/
def close (r : Reading) (parent name : String) (value : List Char) : Except Error Reading :=
  if name = "item" then
    match r.item with
    | some item =>
      .ok { r with
        channel := { r.channel with items := r.channel.items ++ [item] }, item := none }
    | none => .ok r
  else if name = "wp:author" then
    match r.author with
    | some author =>
      .ok { r with
        channel := { r.channel with authors := r.channel.authors ++ [author] }, author := none }
    | none => .ok r
  else if parent = "item" then
    match r.item with
    | some item => (item.setField name value).map fun item => { r with item := some item }
    | none => .ok r
  else if parent = "wp:author" then
    .ok { r with author := r.author.map fun author => author.setField name value }
  else if parent = "channel" then
    .ok { r with channel := r.channel.setField name value }
  else .ok r

/-- Closes the innermost element. -/
def leave (r : Reading) : Except Error Reading :=
  match r.path with
  | [] => .ok r
  | name :: path =>
    close { r with path := path, text := [] } (path.head?.getD "") name r.text.reverse

/-- Takes one event. -/
def step (r : Reading) : Event → Except Error Reading
  | .start name => .ok (r.enter name)
  | .text content => .ok (r.push content)
  | .reference name => .ok (r.push (referenceText name))
  | .stop => r.leave
  | .empty _ | .other => .ok r
  | .fault => .error .xml

end Reading

/-- The channel that some events describe. The first fault met ends the reading. -/
def ofEvents (events : List Event) : Except Error Channel :=
  (events.foldlM Reading.step {}).map (·.channel)

/-- The channel that a document describes. -/
def parse (document : List Char) : Except Error Channel := ofEvents (events document)

end BlogMarkdown.Export
