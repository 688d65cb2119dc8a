import BlogMarkdown.Blog.Doc
import BlogMarkdown.Blog.Links
import BlogMarkdown.Markdown.Convert
/-!
# Converting a blog

All posts and pages of an export become docs, all uploaded files attachments of docs. Then the docs are
converted in order; links to other docs and to files are resolved, and a file gets its local name
when the first doc links to it. A doc that cannot be converted ends the conversion, or is set aside
with the reason.
-/
namespace BlogMarkdown

open Export

namespace Blog

/-- What the user decides. -/
structure Options where
  /-- The directory that links to files point into. -/
  mediaDir : String := "wpmedia"
  /-- Set docs aside that cannot be converted. -/
  keepGoing : Bool := false
  /-- Write docs also that are not published. -/
  includeDrafts : Bool := false
  deriving Repr, DecidableEq

/-- Who writes the blog. -/
structure Author where
  name : String := ""
  email : String := ""
  deriving Repr, DecidableEq

/-- An uploaded file. -/
structure Attachment where
  /-- The id of the doc that it belongs to. -/
  parent : String
  /-- Where it was on the web. -/
  url : String
  /-- Its local name, if a doc links to it. -/
  filename : Option String
  deriving Repr, DecidableEq

/-- The author of a channel, which has one at most. -/
def authorOf (channel : Channel) : Except Error Author :=
  match channel.authors with
  | [] => .ok {}
  | [a] => .ok { name := a.displayName, email := a.email }
  | authors => .error (.invalidExport (.severalAuthors authors.length))

/-- Adds the doc of an item behind those before it. Its id must be new. -/
def addEntry (entries : List Entry) (item : Item) : Except Error (List Entry) := do
  match ← Entry.ofItem item with
  | none => return entries
  | some entry =>
    match entries.find? (·.doc.id = entry.doc.id) with
    | some other =>
      throw (.invalidExport (.repeatedName entry.doc.id other.doc.title entry.doc.title))
    | none => return entries ++ [entry]

/-- The docs of a channel in order. -/
def entriesOf (channel : Channel) : Except Error (List Entry) := channel.items.foldlM addEntry []

/-- The doc that an uploaded file belongs to; of several with one number the last. -/
def parentOf (entries : List Entry) (item : Item) : Except Error Entry :=
  match entries.reverse.find? (·.postId = item.postParent) with
  | some entry => .ok entry
  | none => .error (.invalidExport (.unknownParent item.postId item.postParent))

/-- The attachments of a channel in order, none with a local name yet. -/
def attachmentsOf (channel : Channel) (entries : List Entry) : Except Error (List Attachment) :=
  (channel.items.filter (·.postType = "attachment")).mapM fun item =>
    (parentOf entries item).map fun entry =>
      { parent := entry.doc.id, url := item.attachmentUrl, filename := none }

/-- Where the docs and attachments were on the web. -/
def linksOf (mediaDir : String) (entries : List Entry) (attachments : List Attachment) : Links :=
  let withDocs := entries.foldl (fun links entry => links.addDoc entry.link entry.doc.id)
    ({ mediaDir := mediaDir } : Links)
  attachments.zipIdx.foldl (fun links (attachment, number) => links.addFile attachment.url number)
    withDocs

/-- What came of converting some docs. -/
structure Converted where
  docs : List Doc := []
  failures : List Error := []
  names : FileNames := []

/-- Converts a doc behind those before it. -/
def convertDoc (links : Links) (keepGoing : Bool) (done : Converted) (doc : Doc) :
    Except Error Converted :=
  match Markdown.convert .standard links.rewriter doc.html.toList done.names with
  | (.ok text, names) =>
    .ok { done with docs := done.docs ++ [{ doc with content := String.ofList text }], names := names }
  | (.error e, names) =>
    let failure := Error.document doc.title e
    if keepGoing then .ok { done with failures := done.failures ++ [failure], names := names }
    else .error failure

end Blog

/-- A converted blog. -/
structure Blog where
  author : Blog.Author
  docs : List Blog.Doc
  attachments : List Blog.Attachment
  /-- Why docs were set aside. -/
  failures : List Error
  deriving Repr, DecidableEq

namespace Blog

/-- Converts the blog of a channel. -/
def ofChannel (channel : Channel) (options : Options) : Except Error Blog := do
  let author ← authorOf channel
  let entries ← entriesOf channel
  let attachments ← attachmentsOf channel entries
  let links := linksOf options.mediaDir entries attachments
  let done ← (entries.map (·.doc)).foldlM (convertDoc links options.keepGoing) {}
  return {
    author := author
    docs := done.docs
    attachments := attachments.zipIdx.map fun (attachment, number) =>
      { attachment with filename := done.names.lookup number }
    failures := done.failures }

/-- The URL and the local name of each attachment that a doc links to. -/
def manifest (blog : Blog) : List (String × String) :=
  blog.attachments.filterMap fun attachment => attachment.filename.map (attachment.url, ·)

end Blog

end BlogMarkdown
