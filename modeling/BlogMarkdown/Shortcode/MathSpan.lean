import BlogMarkdown.Dom.Store
import BlogMarkdown.Text.Search
/-!
# Inline mathematics

A span `$latex …$` in a text becomes a synthetic `latex` element that holds the formula. The span
ends at the first dollar sign without a backslash before it; a span that never ends stays text.
-/
namespace BlogMarkdown.Shortcode

open Dom

/-- What begins a span. -/
def mathMarker : List Char := ['$', 'l', 'a', 't', 'e', 'x', ' ']

/-- The formula before the dollar sign that ends it, and the text behind that sign. -/
def splitFormula? : List Char → Option (List Char × List Char)
  | [] => none
  | '\\' :: '$' :: rest =>
    (splitFormula? rest).map fun (formula, after) => ('\\' :: '$' :: formula, after)
  | '$' :: rest => some ([], rest)
  | c :: rest => (splitFormula? rest).map fun (formula, after) => (c :: formula, after)

/-- The first span of a text: the text before it, the formula, and the text behind it. If the first
marker begins no span, none behind it does. -/
def findMath? (text : List Char) : Option (List Char × List Char × List Char) :=
  match Text.splitAtWord? mathMarker text with
  | none => none
  | some (before, rest) =>
    (splitFormula? rest).map fun (formula, after) => (before, formula, after)

/-- Cuts the first span out of a text node. Returns the text behind it. -/
def cutMath (s : Store) (node : NodeId) : Store × Option NodeId :=
  match ((s.text? node).getD [] |> findMath?) with
  | none => (s, none)
  | some (before, formula, _) =>
    let start := Text.Utf8.byteLength before
    let stop := start + Text.Utf8.byteLength mathMarker + Text.Utf8.byteLength formula + 1
    let (s, tail) := s.splitText node start stop
    let (s, element) := s.create (.element (.shortcode "latex") [])
    let (s, inner) := s.create (.text formula)
    let s := s.append (some element) (some inner)
    (s.insertAfter (some node) (some element), some tail)

/-- Cuts the spans out of a text node and of the texts that are cut off behind them. `pieces`
bounds their number. -/
def rewriteMathText : Nat → Store → NodeId → Store
  | 0, s, _ => s
  | pieces + 1, s, node =>
    match cutMath s node with
    | (s, none) => s
    | (s, some tail) => rewriteMathText pieces s tail

/-- Rewrites the spans below a node, at most `depth` levels of elements. -/
def rewriteMathBelow : Nat → Store → NodeId → Store
  | 0, s, _ => s
  | depth + 1, s, node =>
    (s.children node).foldl (fun s child =>
      match s.data? child with
      | some (.text content) => rewriteMathText (content.length + 1) s child
      | some (.element _ _) => rewriteMathBelow depth s child
      | _ => s) s

/-- Rewrites every span below a root and then removes the empty texts that cutting left. -/
def rewriteMath (s : Store) (root : NodeId) : Store :=
  (rewriteMathBelow (s.size + 1) s root).removeEmptyTexts root

end BlogMarkdown.Shortcode
