import BlogMarkdown.Text.Ranges
/-!
# Tables of replacements

What the characters of a text become, written in hexadecimal: `df=73.73` gives a code point those two,
`41-5a=61` moves a range along with its first code point, and `100/12e=101` every second one of a
range. A target alone belongs to the code point behind the one before.
-/
namespace BlogMarkdown.Text

open Ranges

/-- What every `step`-th code point from `first` up to `last` becomes. A target of one code point is that
of `first` and moves along; a longer one belongs to a single code point. -/
structure Replacement where
  first : Nat
  last : Nat
  step : Nat
  target : List Nat
  deriving Repr, DecidableEq

namespace Replacement

/-- The code points between full stops. -/
def targetOf (s : List Char) : List Nat := (s.splitOnP (· = '.')).map number

/-- One replacement; `next` is the code point behind the one before. -/
def read (next : Nat) (item : List Char) : Replacement :=
  match item.span (· ≠ '=') with
  | (_, []) => ⟨next, next, 1, targetOf item⟩
  | (source, _ :: target) =>
    match source.span (fun c => c ≠ '-' && c ≠ '/') with
    | (first, mark :: last) =>
      ⟨number first, number last, if mark = '/' then 2 else 1, targetOf target⟩
    | (first, []) => ⟨number first, number first, 1, targetOf target⟩

/-- The replacements written in some lines, separated by blanks and ascending. -/
def table (lines : List String) : Array Replacement :=
  (lines.flatMap fun line => line.toList.splitOnP (· = ' ')).foldl
    (fun table item => table.push (read ((table.back?.map (·.last + 1)).getD 0) item)) #[]

/-- Halves the stretch from `lo` up to `hi`, where the replacement of `n` can lie. -/
def search (table : Array Replacement) (n : Nat) : Nat → Nat → Nat → Option Replacement
  | 0, _, _ => none
  | fuel + 1, lo, hi =>
    if hi ≤ lo then none
    else
      let mid := (lo + hi) / 2
      match table[mid]? with
      | none => none
      | some r =>
        if n < r.first then search table n fuel lo mid
        else if r.last < n then search table n fuel (mid + 1) hi
        else if (n - r.first) % r.step = 0 then some r
        else none

/-- What a character becomes, if a table replaces it. -/
def target? (table : Array Replacement) (c : Char) : Option (List Char) :=
  (search table c.toNat (table.size + 1) 0 table.size).map fun r =>
    match r.target with
    | [target] => [Char.ofNat (target + (c.toNat - r.first))]
    | target => target.map Char.ofNat

end Replacement

end BlogMarkdown.Text
