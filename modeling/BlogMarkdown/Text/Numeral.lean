/-!
# Numerals

Natural numbers as exports write them: digits of a base, with an optional plus sign, and a limit
that the value stays below.
-/
namespace BlogMarkdown.Text

/-- The value of a digit or letter, in any base up to 36. -/
def digitValue? (c : Char) : Option Nat :=
  if '0' ≤ c ∧ c ≤ '9' then some (c.toNat - '0'.toNat)
  else if 'a' ≤ c ∧ c ≤ 'z' then some (c.toNat - 'a'.toNat + 10)
  else if 'A' ≤ c ∧ c ≤ 'Z' then some (c.toNat - 'A'.toNat + 10)
  else none

/-- The value of a digit of a base. -/
def digitIn? (base : Nat) (c : Char) : Option Nat := (digitValue? c).filter (· < base)

/-- The value of some digits, the first of them most significant. -/
def digits? (base : Nat) (s : List Char) : Option Nat :=
  s.foldlM (fun n c => (digitIn? base c).map (n * base + ·)) 0

/-- The number below `limit` that a text stands for. -/
def numeral? (base limit : Nat) (s : List Char) : Option Nat :=
  let digits := match s with
    | '+' :: rest => rest
    | s => s
  if digits.isEmpty then none else (digits? base digits).filter (· < limit)

end BlogMarkdown.Text
