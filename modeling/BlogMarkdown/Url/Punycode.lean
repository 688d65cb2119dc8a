/-!
# Punycode

Labels of host names hold ASCII alone. A label with other characters is written as its ASCII
characters, a hyphen, and the others in ascending order, each by how many steps of a walk through
all insertions lie between it and the one before. The steps are numbers of variable length whose
digits have thresholds that adapt to what came before.
-/
namespace BlogMarkdown.Url.Punycode

/-- The digit of a value below 36. -/
def digit (n : Nat) : Char := Char.ofNat (if n < 26 then 'a'.toNat + n else '0'.toNat + (n - 26))

/-- The threshold of the digit at place `k`: 36 for the first one, 36 more for each next. -/
def threshold (k bias : Nat) : Nat :=
  if k ≤ bias then 1 else if bias + 26 ≤ k then 26 else k - bias

/-- Divides by 35 while the number is large, counting the divisions in steps of 36. -/
def shrink : Nat → Nat → Nat → Nat × Nat
  | 0, delta, k => (delta, k)
  | fuel + 1, delta, k => if 455 < delta then shrink fuel (delta / 35) (k + 36) else (delta, k)

/-- The next bias, after a step `delta` that made the label `count` characters long. -/
def adapt (delta count : Nat) (first : Bool) : Nat :=
  let start := if first then delta / 700 else delta / 2
  let (delta, k) := shrink start (start + start / count) 0
  k + 36 * delta / (delta + 38)

/-- A step as digits, the one at place `k` first. -/
def writeStep (bias : Nat) : Nat → Nat → Nat → List Char
  | 0, _, _ => []
  | fuel + 1, k, n =>
    let t := threshold k bias
    if n < t then [digit n]
    else digit (t + (n - t) % (36 - t)) :: writeStep bias fuel (k + 36) ((n - t) / (36 - t))

/-- How far a walk has come. -/
structure Walk where
  written : List Char
  delta : Nat
  bias : Nat
  /-- The number of characters placed. -/
  placed : Nat
  /-- The number of ASCII characters. -/
  basic : Nat

/-- Passes one character of the label while `code` is being placed. -/
def Walk.pass (w : Walk) (code : Nat) (c : Char) : Walk :=
  if c.toNat < code then { w with delta := w.delta + 1 }
  else if c.toNat = code then
    { w with
      written := w.written ++ writeStep w.bias (w.delta + 1) 36 w.delta
      delta := 0
      bias := adapt w.delta (w.placed + 1) (w.placed = w.basic)
      placed := w.placed + 1 }
  else w

/-- Places every character of the label with this code; `next` is the code the walk stands at. -/
def Walk.place (label : List Char) (state : Walk × Nat) (code : Nat) : Walk × Nat :=
  let (w, next) := state
  let w := { w with delta := w.delta + (code - next) * (w.placed + 1) }
  let w := label.foldl (fun w c => w.pass code c) w
  ({ w with delta := w.delta + 1 }, code + 1)

/-- The written form of a label. -/
def encode (label : List Char) : List Char :=
  let basic := label.filter (·.toNat < 0x80)
  let codes := ((label.filter (0x80 ≤ ·.toNat)).map Char.toNat).mergeSort.eraseDups
  let start : Walk := ⟨[], 0, 72, basic.length, basic.length⟩
  let (w, _) := codes.foldl (Walk.place label) (start, 0x80)
  (if basic.isEmpty then [] else basic ++ ['-']) ++ w.written

/-- The value of a digit. -/
def value? (c : Char) : Option Nat :=
  if 'a' ≤ c ∧ c ≤ 'z' then some (c.toNat - 'a'.toNat)
  else if c.isDigit then some (c.toNat - '0'.toNat + 26)
  else none

/-- Reads the digits of a step from place `k` on, where a digit counts `weight`: the step added to `sum`,
and what follows it. -/
def readStep (bias : Nat) (k weight sum : Nat) : List Char → Option (Nat × List Char)
  | [] => none
  | c :: rest =>
    match value? c with
    | none => none
    | some n =>
      let t := threshold k bias
      if n < t then some (sum + n * weight, rest)
      else readStep bias (k + 36) (weight * (36 - t)) (sum + n * weight) rest

/-- Inserts the characters of the steps in a code. `label` holds those that were placed, `index` is where
the walk stands in it, and `code` the code point that it stands at; `fuel` bounds the number of
steps. -/
def insertSteps (label : List Char) (code index bias : Nat) (first : Bool) :
    Nat → List Char → Option (List Char)
  | 0, _ => none
  | _ + 1, [] => some label
  | fuel + 1, c :: rest =>
    match readStep bias 36 1 0 (c :: rest) with
    | none => none
    | some (step, rest) =>
      let count := label.length + 1
      let code := code + (index + step) / count
      let index := (index + step) % count
      if code.isValidChar then
        let label := label.take index ++ Char.ofNat code :: label.drop index
        insertSteps label code (index + 1) (adapt step count first) false fuel rest
      else none

/-- The label of a written form, which is in ASCII and lower case. -/
def decode? (written : List Char) : Option (List Char) :=
  match written.reverse.span (· ≠ '-') with
  | (code, _ :: c :: basic) => insertSteps (c :: basic).reverse 0x80 0 72 true (written.length + 1) code.reverse
  | _ => insertSteps [] 0x80 0 72 true (written.length + 1) written

end BlogMarkdown.Url.Punycode
