/-!
# Character sets of two bytes

The sets that East Asian encodings number their characters by. A set lists its characters in order of
their numbers, in stretches; numbers between the stretches, and those with U+FFFD, stand for nothing.
-/
namespace BlogMarkdown.Text

/-- A numbered set of characters. -/
structure CharacterSet where
  /-- The number of the first character of each stretch, and its characters. -/
  stretches : List (Nat × String)
  /-- The number of the first character of each run, its code point, and how many follow each other. -/
  runs : List (Nat × Nat × Nat) := []
  deriving Repr, DecidableEq

namespace CharacterSet

/-- The stretches, runs among them. -/
def parts (set : CharacterSet) : List (Nat × List Char) :=
  set.stretches.map (fun (start, text) => (start, text.toList)) ++
    set.runs.map fun (start, first, count) => (start, (List.range' first count).map Char.ofNat)

/-- The characters by their numbers. -/
def table (set : CharacterSet) : Array Char :=
  let parts := set.parts
  let size := (parts.map fun (start, text) => start + text.length).foldl max 0
  parts.foldl
    (fun table (start, text) =>
      (text.zipIdx start).foldl (fun table (c, number) => table.setIfInBounds number c) table)
    (Array.replicate size '\ufffd')

/-- The character of a number in a table. -/
def char? (table : Array Char) (number : Nat) : Option Char :=
  table[number]?.filter (· ≠ '\ufffd')

end CharacterSet

end BlogMarkdown.Text
