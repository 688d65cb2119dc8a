import BlogMarkdown.Digest.Sha1
import BlogMarkdown.Markdown.UrlRewriter
import BlogMarkdown.Text.Lowercase
import BlogMarkdown.Url.Basic
/-!
# Links inside a blog

A link to another doc of the blog is written as a reference to the doc's id, a link to an uploaded file
as a path to its local copy. Both are found by where they lead, whatever the query. A file gets its
local name when a link first asks for it: the name it has in its URL, with a digest in front if a
name equal up to case is in use.
-/
namespace BlogMarkdown.Blog

open Text

/-- Where the docs and the uploaded files of a blog were on the web. Of two entries for one place the
later counts; it stands in front. -/
structure Links where
  mediaDir : String
  /-- The id of the doc at an address. -/
  docs : List (List Char × String) := []
  /-- The number of the file at an address. -/
  files : List (List Char × Nat) := []
  /-- The URL of each file by its number. -/
  urls : List (Nat × String) := []
  deriving Repr, DecidableEq

/-- The local names that were given to files, by number, the latest in front. -/
abbrev FileNames := List (Nat × String)

namespace Links

/-- Adds a doc. A link that is no URL leads nowhere. -/
def addDoc (links : Links) (link id : String) : Links :=
  match Url.ofText? link.toList with
  | some url => { links with docs := (url.address, id) :: links.docs }
  | none => links

/-- Adds a file with its number. -/
def addFile (links : Links) (url : String) (number : Nat) : Links :=
  let links := { links with urls := (number, url) :: links.urls }
  match Url.ofText? url.toList with
  | some parsed => { links with files := (parsed.address, number) :: links.files }
  | none => links

/-- One more than the highest number of a file. -/
def fileCount (links : Links) : Nat := (links.urls.map (·.1 + 1)).foldl max 0

/-- The name that a file has in its URL: the last segment of the path, decoded. -/
def baseName (url : String) : List Char :=
  let path := match Url.ofText? url.toList with
    | some parsed => parsed.path
    | none => url.toList
  let segment := ((path.reverse.dropWhile (· = '/')).takeWhile (· ≠ '/')).reverse
  match Utf8.decodeLossy (Url.Percent.decode (Utf8.encode segment)) with
  | [] => "attachment".toList
  | name => name

/-- How many digests are tried. -/
def attemptLimit : Nat := 0x100000000

/-- The first name of the form digest, underscore, base that is not in use, from an attempt on. -/
def digestName? (used : List (List Char)) (url : String) (base : List Char) :
    Nat → Nat → Option (List Char)
  | 0, _ => none
  | fuel + 1, attempt =>
    let name := Digest.Sha1.short (url.toList ++ '#' :: (toString attempt).toList) ++ '_' :: base
    if used.contains (lowercase name) then digestName? used url base fuel (attempt + 1)
    else some name

/-- A name that is longer than all in use. -/
def longName (used : List (List Char)) (base : List Char) : List Char :=
  List.replicate ((used.map List.length).foldl max 0 + 1) '_' ++ base

/-- The name for a file when the lower-case names `used` are in use. Should no digest lead to a free one,
the name is made longer than all others. -/
def freshName (used : List (List Char)) (url : String) : List Char :=
  let base := baseName url
  if used.contains (lowercase base) then
    (digestName? used url base attemptLimit 0).getD (longName used base)
  else base

/-- The name of a file, which is given to it now if it has none. -/
def useFile (links : Links) (number : Nat) (names : FileNames) : String × FileNames :=
  match names.lookup number with
  | some name => (name, names)
  | none =>
    let used := names.map fun (_, name) => lowercase name.toList
    let name := String.ofList (freshName used ((links.urls.lookup number).getD ""))
    (name, (number, name) :: names)

/-- The doc at an address. One that ends in a slash is found without it too. -/
def doc? (links : Links) (address : List Char) : Option String :=
  match links.docs.lookup address with
  | some id => some id
  | none =>
    if address.getLast? = some '/' then none else links.docs.lookup (address ++ ['/'])

/-- The reference to a doc, with the place in it that a link leads to. -/
def reference (id : String) (fragment : Option (List Char)) : String :=
  match fragment with
  | none | some [] => "*" ++ id
  | some place => "*" ++ id ++ "#" ++ String.ofList place

/-- How a target is written. -/
def rewrite (links : Links) (target : String) (names : FileNames) : String × FileNames :=
  match Url.ofText? target.toList with
  | none => (target, names)
  | some url =>
    match links.doc? url.address with
    | some id => (reference id url.fragment, names)
    | none =>
      match links.files.lookup url.address with
      | some number =>
        let (name, names) := links.useFile number names
        (links.mediaDir ++ "/" ++ name, names)
      | none => (target, names)

/-- The rewriter that resolves links inside the blog. -/
def rewriter (links : Links) : Markdown.UrlRewriter FileNames := ⟨links.rewrite⟩

end Links

end BlogMarkdown.Blog
