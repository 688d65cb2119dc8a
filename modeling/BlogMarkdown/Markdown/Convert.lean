import BlogMarkdown.Html.Fragment
import BlogMarkdown.Markdown.Render
import BlogMarkdown.Shortcode.MathSpan
import BlogMarkdown.Shortcode.Rewrite
/-!
# Converting a post

A post body in HTML becomes Markdown in three passes over one tree: shortcodes become elements, so do
spans of mathematics, and the tree is rendered.
-/
namespace BlogMarkdown.Markdown

open Dom Shortcode

variable {σ : Type}

/-- The tree of a post body with its shortcodes and formulas as elements. -/
def rewritten (registry : Registry) (html : List Char) : Except Error Tree :=
  let (store, body) := Html.parseFragment html
  match ((rewrite registry body).run store).run with
  | (.error e, _) => .error e
  | (.ok _, store) => .ok ((rewriteMath store body).tree body)

/-- Renders a tree to a finished document. -/
def rendered (rewriter : UrlRewriter σ) (root : Tree) (urls : σ) : Except Error (List Char) × σ :=
  let (result, sheet) := ((renderBody rewriter root).run ⟨.empty, urls⟩).run
  (result.bind fun _ => sheet.writer.finish, sheet.urls)

/-- Converts a post body. The rewriter's state is handed back also if the conversion fails. -/
def convert (registry : Registry) (rewriter : UrlRewriter σ) (html : List Char) (urls : σ) :
    Except Error (List Char) × σ :=
  match rewritten registry html with
  | .error e => (.error e, urls)
  | .ok root => rendered rewriter root urls

/-- Converts a post body with the shortcodes that have a Markdown form and with every target as it
is. -/
def convertPlain (html : List Char) : Except Error (List Char) :=
  (convert .standard .identity html ()).1

end BlogMarkdown.Markdown
