import BlogMarkdown.Blog.Conversion
import BlogMarkdown.Text.Quoted
/-!
# The list of files to download

The URL and the local name of every attachment that a doc links to, as a JSON array of objects, each
member on a line of its own.
-/
namespace BlogMarkdown.Blog

open Text

/-- How a character is written inside a JSON string. -/
def jsonChar (c : Char) : List Char :=
  if c = '"' ∨ c = '\\' then ['\\', c]
  else if c.toNat = 0x08 then ['\\', 'b']
  else if c.toNat = 0x0c then ['\\', 'f']
  else if c = '\n' then ['\\', 'n']
  else if c = '\r' then ['\\', 'r']
  else if c = '\t' then ['\\', 't']
  else if c < ' ' then
    let digits := hex c.toNat
    ['\\', 'u'] ++ List.replicate (4 - digits.length) '0' ++ digits
  else [c]

/-- A text as a JSON string. -/
def jsonString (s : String) : List Char := '"' :: s.toList.flatMap jsonChar ++ ['"']

/-- One entry of the list. -/
def manifestEntry (url filename : String) : List Char :=
  "  \x7b\n    \"url\": ".toList ++ jsonString url ++ ",\n    \"filename\": ".toList ++
    jsonString filename ++ "\n  \x7d".toList

/-- The list as a text. -/
def manifestText (entries : List (String × String)) : List Char :=
  match entries with
  | [] => ['[', ']']
  | entries =>
    ['[', '\n'] ++
      [',', '\n'].intercalate (entries.map fun (url, filename) => manifestEntry url filename) ++
      ['\n', ']']

end BlogMarkdown.Blog
