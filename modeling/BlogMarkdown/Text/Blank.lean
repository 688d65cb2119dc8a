/-!
# Blank characters

The characters with the Unicode property `White_Space`, and the trimming that goes by them.
Captions, list items and numbers of an export are trimmed this way; attribute lists and
Markdown text have narrower classes of their own.
-/
namespace BlogMarkdown.Text

/-- Whether a character has the Unicode property `White_Space`. -/
def isBlank (c : Char) : Bool :=
  let n := c.toNat
  (0x09 ≤ n && n ≤ 0x0d) || n == 0x20 || n == 0x85 || n == 0xa0 || n == 0x1680 ||
    (0x2000 ≤ n && n ≤ 0x200a) || n == 0x2028 || n == 0x2029 || n == 0x202f || n == 0x205f ||
    n == 0x3000

/-- A text of blank characters only; the empty text is one. -/
def isBlankText (s : List Char) : Bool := s.all isBlank

/-- The text without the elements of a class at its end. -/
def dropEndWhile {α : Type} (p : α → Bool) (s : List α) : List α :=
  (s.reverse.dropWhile p).reverse

/-- The text without the blank characters at its two ends. -/
def trimBlank (s : List Char) : List Char := dropEndWhile isBlank (s.dropWhile isBlank)

end BlogMarkdown.Text
