/-!
# Sets of characters as ranges

A property of Unicode is a set of code points, kept as its maximal ranges in ascending order and
written in hexadecimal: `41-5a` for a range, `5f` for a single code point.
-/
namespace BlogMarkdown.Text.Ranges

/-- The value of a hexadecimal digit; 0 for any other character. -/
def digit (c : Char) : Nat :=
  if '0' ≤ c ∧ c ≤ '9' then c.toNat - '0'.toNat
  else if 'a' ≤ c ∧ c ≤ 'f' then c.toNat - 'a'.toNat + 10
  else 0

/-- A number in hexadecimal. -/
def number (s : List Char) : Nat := s.foldl (fun n c => n * 16 + digit c) 0

/-- One range, `lo-hi` or a single number. -/
def range (s : List Char) : Nat × Nat :=
  match s.span (· ≠ '-') with
  | (lo, _ :: hi) => (number lo, number hi)
  | (lo, []) => (number lo, number lo)

/-- The ranges written in some lines, separated by blanks. -/
def ofHex (lines : List String) : Array (Nat × Nat) :=
  (lines.flatMap fun line => (line.toList.splitOnP (· = ' ')).map range).toArray

/-- Halves the stretch from `lo` up to `hi`, where the range that holds `n` can lie. -/
def search (rs : Array (Nat × Nat)) (n : Nat) : Nat → Nat → Nat → Bool
  | 0, _, _ => false
  | fuel + 1, lo, hi =>
    if hi ≤ lo then false
    else
      let mid := (lo + hi) / 2
      match rs[mid]? with
      | none => false
      | some (a, b) =>
        if n < a then search rs n fuel lo mid
        else if b < n then search rs n fuel (mid + 1) hi
        else true

/-- Whether a character lies in one of the ranges, which must be ascending. -/
def contains (rs : Array (Nat × Nat)) (c : Char) : Bool :=
  search rs c.toNat (rs.size + 1) 0 rs.size

end BlogMarkdown.Text.Ranges
