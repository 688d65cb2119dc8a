/-!
# URL rewriters

What decides how link targets and image sources are written. A rewriter may remember what it was
asked: it passes on a state, and what it remembers stays even if the text it was asked for is
thrown away.
-/
namespace BlogMarkdown.Markdown

/-- Maps a target to its written form. -/
structure UrlRewriter (σ : Type) where
  rewrite : String → σ → String × σ

/-- Every target by a fixed function. -/
def UrlRewriter.fixed (f : String → String) : UrlRewriter Unit := ⟨fun url state => (f url, state)⟩

/-- Every target as it is. -/
def UrlRewriter.identity : UrlRewriter Unit := .fixed id

/-- Every target by a fixed function; the targets asked for are kept in order. -/
def UrlRewriter.recording (f : String → String) : UrlRewriter (Array String) :=
  ⟨fun url asked => (f url, asked.push url)⟩

end BlogMarkdown.Markdown
