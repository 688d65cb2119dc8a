import BlogMarkdown.Text.Canonical
import BlogMarkdown.Text.MarkTable
import BlogMarkdown.Url.Domain.Mapping
import BlogMarkdown.Url.Domain.OrderTable
/-!
# How domain names are shown

A label must not look like another one. In a name with letters from right to left no label mixes the
directions, so that its characters are shown in the order in which they stand; and the joiners, which
have no width, stand only where they change how letters look.
-/
namespace BlogMarkdown.Url.Domain

open Text

/-- Which way a character is written. -/
inductive Direction where
  | left
  | right
  | europeanNumber
  | arabicNumber
  | neutral
  /-- A mark, which follows the letter before it. -/
  | mark
  deriving Repr, DecidableEq

/-- The direction of a character. -/
def direction (c : Char) : Direction :=
  if Ranges.contains right c then .right
  else if Ranges.contains arabicNumber c then .arabicNumber
  else if Ranges.contains europeanNumber c then .europeanNumber
  else if Ranges.contains neutral c then .neutral
  else if Ranges.contains Ranges.nonspacingMark c && !Ranges.contains leftMark c then .mark
  else .left

/-- Whether a label needs the rules for names from right to left. -/
def hasRight (label : List Char) : Bool :=
  label.any fun c => direction c = .right || direction c = .arabicNumber

/-- Whether the characters of a label are shown in the order in which they stand, among labels from right to
left. -/
def keepsOrder (label : List Char) : Bool :=
  let directions := label.map direction
  let last := (directions.reverse.dropWhile (· = .mark)).head?
  match directions.head? with
  | none => true
  | some .left =>
    directions.all (fun d => d ≠ .right && d ≠ .arabicNumber) &&
      (last = some .left || last = some .europeanNumber)
  | some .right =>
    directions.all (· ≠ .left) && last ≠ some .neutral &&
      !(directions.contains .europeanNumber && directions.contains .arabicNumber)
  | some _ => false

/-- Whether a mark asks the letter before it to join the next one. -/
def isVirama (c : Char) : Bool := Canonical.combiningClass c = 9

/-- The first character that letters do not join across. -/
def nextLetter? (s : List Char) : Option Char :=
  (s.dropWhile fun c => Ranges.contains Ranges.nonspacingMark c || c.toNat = 0x1e94b).head?

/-- Whether the letters around a joiner join: `before` stands before it, the last character first, and
`after` behind it. -/
def joins (before after : List Char) : Bool :=
  (nextLetter? before).any (fun c => Ranges.contains joinsBoth c || Ranges.contains joinsAfter c) &&
    (nextLetter? after).any fun c => Ranges.contains joinsBoth c || Ranges.contains joinsBefore c

/-- Whether the joiners of a text stand where they change something; `before` is what was passed, the last
character first. Behind a virama both do, and the one that parts letters does between letters that join. -/
def placesJoiners (before : List Char) : List Char → Bool
  | [] => true
  | c :: after =>
    (!isJoiner c || before.head?.any isVirama || (c.toNat = 0x200c && joins before after)) &&
      placesJoiners (c :: before) after

end BlogMarkdown.Url.Domain
