/-!
# Searching a text

Finding a word in a text, and parting a text at the first occurrence of it.
-/
namespace BlogMarkdown.Text

/-- Parts a text at the first occurrence of a word; `read` is the text before, last element first. -/
def splitAtWordFrom {α : Type} [BEq α] (read word : List α) : List α → Option (List α × List α)
  | [] => if word.isEmpty then some (read.reverse, []) else none
  | c :: rest =>
    match word.isPrefixOf? (c :: rest) with
    | some after => some (read.reverse, after)
    | none => splitAtWordFrom (c :: read) word rest

/-- The text before and behind the first occurrence of a word, if it occurs. -/
def splitAtWord? {α : Type} [BEq α] (word : List α) (text : List α) : Option (List α × List α) :=
  splitAtWordFrom [] word text

/-- Whether a word occurs in a text. -/
def containsWord (word text : List Char) : Bool := (splitAtWord? word text).isSome

end BlogMarkdown.Text
