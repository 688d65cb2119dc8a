/-!
# Exported blogs

What an export says of a blog: its name and place, who writes it, and everything that was posted or
uploaded, each with the fields that a conversion needs and as the export spells them.
-/
namespace BlogMarkdown.Export

/-- Someone who writes for the blog. -/
structure Author where
  login : String := ""
  email : String := ""
  displayName : String := ""
  firstName : String := ""
  lastName : String := ""
  deriving Repr, DecidableEq

/-- A post, a page, an uploaded file, a menu entry, … -/
structure Item where
  title : String := ""
  link : String := ""
  /-- The body of a post in HTML. -/
  content : String := ""
  postId : Nat := 0
  postDateGmt : String := ""
  postName : String := ""
  postType : String := ""
  /-- The item that this one belongs to; 0 for none. -/
  postParent : Nat := 0
  commentStatus : String := ""
  status : String := ""
  attachmentUrl : String := ""
  categories : List String := []
  deriving Repr, DecidableEq

/-- An exported blog. -/
structure Channel where
  title : String := ""
  link : String := ""
  baseBlogUrl : String := ""
  authors : List Author := []
  items : List Item := []
  deriving Repr, DecidableEq

end BlogMarkdown.Export
