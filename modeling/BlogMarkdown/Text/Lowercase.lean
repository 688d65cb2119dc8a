import BlogMarkdown.Text.CaseTable
/-!
# Lower case

The full lower-casing of Unicode, which file names are compared by. One character in one, with
two exceptions: a capital I with a dot becomes two, and a capital sigma at the end of a word has
its own form.
-/
namespace BlogMarkdown.Text

/-- Whether the first character that case does not ignore is cased. -/
def startsCased (s : List Char) : Bool :=
  match s.dropWhile (Ranges.contains Ranges.caseIgnorable) with
  | c :: _ => Ranges.contains Ranges.cased c
  | [] => false

/-- The lower-case form of one character away from its neighbours. -/
def lowerChar (c : Char) : List Char :=
  if c.toNat < 0x80 then [c.toLower]
  else if c.toNat = 0x130 then ['i', Char.ofNat 0x307]
  else match Ranges.lowercasePairs.find? (·.1 == c.toNat) with
    | some (_, n) => [Char.ofNat n]
    | none => [c]

/-- Lower-cases `after`, which stands behind the reversed text `before`. -/
def lowercaseFrom (before : List Char) : List Char → List Char
  | [] => []
  | c :: after =>
    (if c.toNat = 0x3a3 then
      [if startsCased before ∧ ¬ startsCased after then Char.ofNat 0x3c2 else Char.ofNat 0x3c3]
    else lowerChar c) ++ lowercaseFrom (c :: before) after

/-- The text in lower case. -/
def lowercase (s : List Char) : List Char := lowercaseFrom [] s

end BlogMarkdown.Text
