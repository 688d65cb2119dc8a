import BlogMarkdown.Blog.Slug
import BlogMarkdown.Error
import BlogMarkdown.Export.Channel
/-!
# Posts and pages

What becomes of an item of an export that is a post or a page: an id by which other posts refer to it,
what the export says of its state, and its text. Items of other kinds make no doc.
-/
namespace BlogMarkdown.Blog

/-- The two kinds of docs. -/
inductive DocKind where
  | post
  | page
  deriving Repr, DecidableEq

/-- Who may see a doc. -/
inductive DocStatus where
  | publish
  | draft
  | pending
  | hidden
  deriving Repr, DecidableEq

/-- A post or a page. -/
structure Doc where
  id : String
  title : String
  /-- The text in Markdown; empty until the doc is converted. -/
  content : String
  html : String
  kind : DocKind
  status : DocStatus
  /-- When it was published; `none` if the export has the zero date. -/
  published : Option String
  commentsEnabled : Bool
  deriving Repr, DecidableEq

/-- A doc with what ties it to the other items of its export. -/
structure Entry where
  postId : Nat
  link : String
  doc : Doc
  deriving Repr, DecidableEq

/-- The kind of doc that an item of this type is. -/
def docKind? (postType : String) : Option DocKind :=
  match postType with
  | "post" => some .post
  | "page" => some .page
  | _ => none

/-- The status with this name. -/
def docStatus (status : String) : Except Error DocStatus :=
  match status with
  | "publish" => .ok .publish
  | "draft" => .ok .draft
  | "pending" => .ok .pending
  | "private" => .ok .hidden
  | _ => .error (.invalidExport (.unknownStatus status))

/-- Whether a comment status admits comments. -/
def commentsEnabled (status : String) : Except Error Bool :=
  match status with
  | "open" => .ok true
  | "closed" => .ok false
  | _ => .error (.invalidExport (.unknownCommentStatus status))

/-- The date that stands for none. -/
def zeroTime : String := "0000-00-00 00:00:00"

/-- The value of two digits. -/
def twoDigits (tens units : Char) : Nat :=
  (tens.toNat - '0'.toNat) * 10 + (units.toNat - '0'.toNat)

/-- Whether a text has the form of a date with a time, each of its fields in its range. Months are not
told apart by their length. -/
def isTime (value : List Char) : Bool :=
  match value with
  | [y1, y2, y3, y4, '-', m1, m2, '-', d1, d2, ' ', h1, h2, ':', n1, n2, ':', s1, s2] =>
    [y1, y2, y3, y4, m1, m2, d1, d2, h1, h2, n1, n2, s1, s2].all Char.isDigit &&
      1 ≤ twoDigits m1 m2 && twoDigits m1 m2 ≤ 12 && 1 ≤ twoDigits d1 d2 &&
      twoDigits d1 d2 ≤ 31 && twoDigits h1 h2 < 24 && twoDigits n1 n2 < 60 &&
      twoDigits s1 s2 < 60
  | _ => false

/-- The time that a value stands for; the zero date is none. -/
def publishedTime (value : String) : Except Error (Option String) :=
  if value = zeroTime then .ok none
  else if isTime value.toList then .ok (some value)
  else .error (.invalidExport (.badTime value))

/-- The id of an item: its name, else the slug of its title, else its number. -/
def docId (item : Export.Item) : String :=
  if item.postName ≠ "" then item.postName
  else
    match slug item.title.toList with
    | [] => "post-" ++ toString item.postId
    | id => String.ofList id

/-- The doc that an item is, if it is one. Of several faults the first field's counts: parent, status,
time, comments. -/
def Entry.ofItem (item : Export.Item) : Except Error (Option Entry) :=
  match docKind? item.postType with
  | none => .ok none
  | some kind =>
    if item.postParent ≠ 0 then .error (.invalidExport (.nestedDoc item.title item.postId))
    else do
      let status ← docStatus item.status
      let published ← publishedTime item.postDateGmt
      let commentsEnabled ← commentsEnabled item.commentStatus
      return some {
        postId := item.postId
        link := item.link
        doc := {
          id := docId item
          title := item.title
          content := ""
          html := item.content
          kind := kind
          status := status
          published := published
          commentsEnabled := commentsEnabled } }

/-- The file of a doc: a header of one line each for title, time and kind, and the text. -/
def Doc.file (doc : Doc) : List Char :=
  "-title=".toList ++ doc.title.toList ++ ['\n'] ++
    (match doc.published with
      | some time => "-time=".toList ++ time.toList ++ ['\n']
      | none => []) ++
    (if doc.kind = .page then "-type=page\n".toList else []) ++ doc.content.toList

end BlogMarkdown.Blog
