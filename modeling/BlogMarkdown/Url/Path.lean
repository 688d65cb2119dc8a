import BlogMarkdown.Url.Percent
/-!
# Paths

A path is cut into segments at its slashes. A segment of one dot stands for no step, one of two dots
takes back the segment before; either may be written with encoded dots. A drive letter is never
taken back. In a file system a drive letter at the front of the path has a colon.
-/
namespace BlogMarkdown.Url.Path

/-- The ways to write one dot. -/
def dot : List (List Char) := [".".toList, "%2e".toList, "%2E".toList]

/-- Whether a segment stands for no step. -/
def isDot (segment : List Char) : Bool := dot.contains segment

/-- Whether a segment takes back the one before. -/
def isDoubleDot (segment : List Char) : Bool :=
  dot.any fun a => dot.any fun b => segment = a ++ b

/-- A letter and a colon or bar. -/
def isDriveLetter (segment : List Char) : Bool :=
  match segment with
  | [letter, mark] => letter.isAlpha && (mark = ':' || mark = '|')
  | _ => false

/-- Whether a segment is a drive letter, or goes on with a backslash behind one. -/
def beginsWithDrive (segment : List Char) : Bool :=
  isDriveLetter (segment.take 2) && (segment.drop 2).head?.all (· = '\\')

/-- The segments without the last one, which stands in front. -/
def shorten : List (List Char) → List (List Char)
  | [] => []
  | last :: before => if beginsWithDrive last then last :: before else before

/-- The segments of a path in the order of the text, the last one first. `before` holds those that were
taken so far. -/
def take (before : List (List Char)) : List (List Char) → List (List Char)
  | [] => before
  | segment :: rest =>
    let closed (segments : List (List Char)) := if rest.isEmpty then [] :: segments else segments
    if isDoubleDot segment then take (closed (shorten before)) rest
    else if isDot segment then take (closed before) rest
    else take (Percent.encode Percent.isBarredInPath segment :: before) rest

/-- Segments, the last one first, with a slash in front of each. -/
def joined (segments : List (List Char)) : List Char := '/' :: ['/'].intercalate segments.reverse

/-- The path of the segments in a text. -/
def ofSegments (segments : List (List Char)) : List Char := joined (take [] segments)

/-- Whether a character is passed over in a URL, where it does not part a drive letter from what
follows. -/
def isPassedOver (c : Char) : Bool := c = '\t' || c = '\n' || c = '\r'

/-- A text without the characters that are passed over. -/
def visible (text : List Char) : List Char := text.filter fun c => !isPassedOver c

/-- A letter with a colon at the front of a segment, and what stands behind the characters that part the
two. -/
def partedDrive? (segment : List Char) : Option (List Char × List Char) :=
  match segment.dropWhile isPassedOver with
  | letter :: rest =>
    match rest.dropWhile isPassedOver with
    | ':' :: mark :: rest =>
      let rest := visible rest
      if letter.isAlpha && isPassedOver mark && !rest.isEmpty then some ([letter, ':'], rest) else none
    | _ => none
  | [] => none

/-- The segments of a path in a file system, as `take` gives them, and whether the first of them is a
drive letter, which is written with a colon. Here segments still hold the characters that are passed
over. -/
def takeFile (drive : Bool) (before : List (List Char)) :
    List (List Char) → Bool × List (List Char)
  | [] => (drive, before)
  | raw :: rest =>
    let segment := visible raw
    let closed (segments : List (List Char)) := if rest.isEmpty then [] :: segments else segments
    if isDoubleDot segment then takeFile drive (closed (shorten before)) rest
    else if isDot segment then takeFile drive (closed before) rest
    else if before.isEmpty && isDriveLetter segment then
      takeFile true [segment.take 1 ++ [':']] rest
    else
      match if before.isEmpty then partedDrive? raw else none with
      | some (letter, segment) =>
        takeFile drive [Percent.encode Percent.isBarredInPath segment, letter] rest
      | none => takeFile drive (Percent.encode Percent.isBarredInPath segment :: before) rest

end BlogMarkdown.Url.Path
