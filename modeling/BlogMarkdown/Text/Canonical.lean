import BlogMarkdown.Text.CanonicalTable
/-!
# Canonical form

Texts that differ only in how letters and marks are put together, and in the order of marks that do not
touch each other, have one canonical form. Every character is taken apart, the marks behind each letter
are sorted by their classes, and what goes together is put together again.
-/
namespace BlogMarkdown.Text

namespace Canonical

/-- The combining class of a character: 0 if it begins a new group. -/
def combiningClass (c : Char) : Nat :=
  if c.toNat < 0x300 then 0
  else
    match combiningClasses.find? fun (_, ranges) => Ranges.contains ranges c with
    | some (n, _) => n
    | none => 0

/-- The parts of a syllable of Hangul with this number. -/
def syllable (n : Nat) : List Char :=
  let parts := [Char.ofNat (0x1100 + n / 588), Char.ofNat (0x1161 + n % 588 / 28)]
  if n % 28 = 0 then parts else parts ++ [Char.ofNat (0x11a7 + n % 28)]

/-- The parts of a character. Only the first part of a decomposition can have parts of its own, and
`depth` bounds how deep they lie. -/
def apart : Nat → Char → List Char
  | 0, c => [c]
  | depth + 1, c =>
    if 0xac00 ≤ c.toNat ∧ c.toNat < 0xd7a4 then syllable (c.toNat - 0xac00)
    else
      match Replacement.target? decompositions c with
      | some (first :: rest) => apart depth first ++ rest
      | _ => [c]

/-- Sorts every stretch of marks by class; `marks` are those that were passed since the last letter. Marks
of one class keep their order. -/
def orderFrom (marks : List (Nat × Char)) : List (Nat × Char) → List (Nat × Char)
  | [] => marks.mergeSort fun a b => a.1 ≤ b.1
  | (n, c) :: rest =>
    if n = 0 then (marks.mergeSort fun a b => a.1 ≤ b.1) ++ (n, c) :: orderFrom [] rest
    else orderFrom (marks ++ [(n, c)]) rest

/-- The wholes of two parts. -/
def compositions : List (Nat × Nat × Nat) :=
  decompositions.toList.filterMap fun r =>
    match r.target with
    | [a, b] =>
      if Ranges.contains uncomposed (Char.ofNat r.first) then none else some (a, b, r.first)
    | _ => none

/-- The whole that two parts make. -/
def together? (a b : Char) : Option Char :=
  let m := a.toNat
  let n := b.toNat
  if 0x1100 ≤ m ∧ m < 0x1113 ∧ 0x1161 ≤ n ∧ n < 0x1176 then
    some (Char.ofNat (0xac00 + ((m - 0x1100) * 21 + (n - 0x1161)) * 28))
  else if 0xac00 ≤ m ∧ m < 0xd7a4 ∧ (m - 0xac00) % 28 = 0 ∧ 0x11a8 ≤ n ∧ n < 0x11c3 then
    some (Char.ofNat (m + (n - 0x11a7)))
  else
    (compositions.find? fun (first, second, _) => first = m && second = n).map fun (_, _, whole) =>
      Char.ofNat whole

/-- Puts a letter together with the marks behind it. `behind` are those that stay apart, the last one
first, and `last` is the class of the last one. A mark reaches the letter unless one of its own class
or above it stands between. -/
def composeFrom (letter : Char) (behind : List Char) (last : Nat) : List (Nat × Char) → List Char
  | [] => letter :: behind.reverse
  | (n, c) :: rest =>
    match if behind.isEmpty || last < n then together? letter c else none with
    | some whole => composeFrom whole behind last rest
    | none =>
      if n = 0 then letter :: behind.reverse ++ composeFrom c [] 0 rest
      else composeFrom letter (c :: behind) n rest

/-- Puts the parts of a text together. -/
def compose : List (Nat × Char) → List Char
  | [] => []
  | (n, c) :: rest => if n = 0 then composeFrom c [] 0 rest else c :: compose rest

end Canonical

open Canonical in
/-- The canonical form of a text. A text without combining characters and without characters that stand
for others is its own. -/
def canonical (s : List Char) : List Char :=
  if s.all (·.toNat < 0x300) then s
  else compose (orderFrom [] ((s.flatMap (apart 4)).map fun c => (combiningClass c, c)))

end BlogMarkdown.Text
