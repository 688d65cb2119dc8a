import BlogMarkdown.Blog.Conversion
import BlogMarkdown.Files.Tree
/-!
# Saving a blog

Each doc becomes a file of its own, named for its id; docs that are not published only if the user asks
for them. The directory for uploaded files is made first, so it is there also if no doc is written.
-/
namespace BlogMarkdown.Blog

open Files Text

/-- Whether a doc is written. -/
def Doc.isSaved (doc : Doc) (options : Options) : Bool :=
  doc.status = .publish || options.includeDrafts

/-- Writes one doc. -/
def Doc.saveChange (doc : Doc) (destination : String) : Change :=
  .write (join destination (doc.id ++ ".md")) (Utf8.encode doc.file)

/-- The docs that are written. -/
def savedDocs (blog : Blog) (options : Options) : List Doc :=
  blog.docs.filter fun doc => doc.isSaved options

/-- The changes that write a blog. -/
def saveChanges (blog : Blog) (options : Options) (destination : String) : List Change :=
  .makeDirectories (join destination options.mediaDir) ::
    (blog.savedDocs options).map fun doc => doc.saveChange destination

/-- Writes a blog: the tree that is left, and the number of docs written or why it ended early. -/
def save (blog : Blog) (options : Options) (destination : String) (here : Place) (tree : Tree) :
    Tree × Except Error Nat :=
  match tree.performAll here (blog.saveChanges options destination) with
  | (tree, none) => (tree, .ok (blog.savedDocs options).length)
  | (tree, some fault) => (tree, .error (.file fault))

end BlogMarkdown.Blog
