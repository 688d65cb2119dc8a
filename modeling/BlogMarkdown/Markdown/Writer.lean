import BlogMarkdown.Error
import BlogMarkdown.Text.Blank
/-!
# The Markdown writer

An output buffer that keeps the layout of the lines, so that what writes to it tracks no columns.

* A request for linefeeds asks for a least number of them before the next content. The largest
  request wins, and linefeeds come out only when content follows, so two neighbouring blocks are
  set apart as far as the one that asks for more wants it.
* Line prefixes form a stack. Every linefeed outside verbatim mode is followed by all of them.
* In verbatim mode bytes go out as they are and requests are ignored. What was requested before
  still comes out, with its prefixes, when the first verbatim content follows.
-/
namespace BlogMarkdown.Markdown

/-- How many linefeeds the output ends with. At the start there are as many as anyone can ask
for. -/
inductive LinefeedRun where
  | unbounded
  | count (n : Nat)
  deriving Repr, DecidableEq

/-- One linefeed more. -/
def LinefeedRun.succ : LinefeedRun → LinefeedRun
  | .unbounded => .unbounded
  | .count n => .count (n + 1)

/-- How many linefeeds are missing to a run of `target`. -/
def LinefeedRun.missing (target : Nat) : LinefeedRun → Nat
  | .unbounded => 0
  | .count n => target - n

/-- The linefeed byte. -/
def linefeed : UInt8 := 10

/-- The output and the state of its layout. -/
structure Writer where
  /-- What is written so far. -/
  out : Array UInt8
  /-- How many times verbatim mode was entered and not left. -/
  verbatim : Nat
  /-- The linefeeds that the output ends with. -/
  run : LinefeedRun
  /-- The linefeeds requested before the next content. -/
  requested : Nat
  /-- The line prefixes, innermost first, each with those around it. -/
  indents : List (List UInt8)
  deriving Repr, DecidableEq

namespace Writer

/-- Nothing is written. -/
def empty : Writer := ⟨#[], 0, .unbounded, 0, []⟩

/-- Whether nothing is written. -/
def isEmpty (w : Writer) : Bool := w.out.isEmpty

/-- The prefix of a line outside verbatim mode. -/
def indent (w : Writer) : List UInt8 := w.indents.headD []

/-- Requests at least `n` linefeeds before the next content. -/
def ensureLinefeeds (n : Nat) (w : Writer) : Writer :=
  if w.verbatim = 0 then { w with requested := max w.requested n } else w

/-- Writes a linefeed, and the line prefix behind it if `indented`. -/
def writeLinefeed (indented : Bool) (w : Writer) : Writer :=
  { w with
    out := w.out ++ linefeed :: (if indented then w.indent else [])
    run := w.run.succ }

/-- Writes the linefeeds that are missing to what was requested. The request was made outside
verbatim mode, so they carry the line prefix. -/
def flushLinefeeds (w : Writer) : Writer :=
  { Nat.repeat (writeLinefeed true) (w.run.missing w.requested) w with requested := 0 }

/-- Writes bytes among which no linefeed is. -/
def writeContent (bytes : List UInt8) (w : Writer) : Writer :=
  if bytes.isEmpty then w
  else
    let w := w.flushLinefeeds
    { w with out := w.out ++ bytes, run := .count 0 }

/-- Writes one byte. -/
def writeByte (b : UInt8) (w : Writer) : Writer :=
  if b = linefeed then w.writeLinefeed (w.verbatim = 0) else w.writeContent [b]

/-- Writes bytes, where the bytes `content` of the present line are already taken up, last one
first. -/
def writeLines (content : List UInt8) : List UInt8 → Writer → Writer
  | [], w => w.writeContent content.reverse
  | b :: rest, w =>
    if b = linefeed then
      let w := w.writeContent content.reverse
      writeLines [] rest (w.writeLinefeed (w.verbatim = 0))
    else writeLines (b :: content) rest w

/-- Writes bytes, line by line. -/
def writeBytes (bytes : List UInt8) (w : Writer) : Writer := writeLines [] bytes w

/-- Writes what a stream of bytes hands over, and tells how much of it was taken: all. -/
def accept (bytes : List UInt8) (w : Writer) : Nat × Writer := (bytes.length, w.writeBytes bytes)

/-- Writes a text. -/
def write (text : List Char) (w : Writer) : Writer := w.writeBytes (Text.Utf8.encode text)

/-- Adds a line prefix. What was requested comes out first, under the prefixes of the request. -/
def pushIndent (text : List Char) (w : Writer) : Writer :=
  let w := w.flushLinefeeds
  { w with indents := (w.indent ++ Text.Utf8.encode text) :: w.indents }

/-- Removes the innermost line prefix. A request stays: it sets the indented block apart from what
follows, under the outer prefixes. -/
def popIndent (w : Writer) : Writer := { w with indents := w.indents.tail }

/-- Enters verbatim mode. -/
def enterVerbatim (w : Writer) : Writer := { w with verbatim := w.verbatim + 1 }

/-- Leaves verbatim mode as often as it was entered. -/
def leaveVerbatim (w : Writer) : Writer := { w with verbatim := w.verbatim - 1 }

/-- Some bytes as a text. -/
def decoded (bytes : List UInt8) : Except Error (List Char) :=
  (Text.Utf8.decode bytes).mapError .utf8

/-- The text written so far, without what is requested. -/
def text (w : Writer) : Except Error (List Char) := decoded w.out.toList

/-- The finished document: it ends with exactly one linefeed, unless it is empty. -/
def finish (w : Writer) : Except Error (List Char) :=
  let bytes := Text.dropEndWhile (· = linefeed) w.out.toList
  decoded (if bytes.isEmpty then [] else bytes ++ [linefeed])

end Writer

end BlogMarkdown.Markdown
