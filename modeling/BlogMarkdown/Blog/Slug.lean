/-!
# Slugs

The short name that a title gives a post: lower-case letters, digits, underscores, and single hyphens
between them where the title has spaces or hyphens.
-/
namespace BlogMarkdown.Blog

/-- What a character of a title leaves in its slug. -/
def slugChar? (c : Char) : Option Char :=
  if c = ' ' then some '-'
  else if c.isAlphanum || c = '-' || c = '_' then some c.toLower
  else none

/-- The slug of a title. It is empty if no character of the title may stand in one. -/
def slug (title : List Char) : List Char :=
  let words := (title.filterMap slugChar?).splitOnP (· = '-')
  ['-'].intercalate (words.filter (· ≠ []))

end BlogMarkdown.Blog
