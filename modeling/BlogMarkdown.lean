import BlogMarkdown.Main
import BlogMarkdown.Proofs.Blog.Headers
import BlogMarkdown.Proofs.Blog.Naming
import BlogMarkdown.Proofs.Blog.PlainNames
import BlogMarkdown.Proofs.Blog.Saving
import BlogMarkdown.Proofs.Blog.Slugs
import BlogMarkdown.Proofs.Dom.Boundaries
import BlogMarkdown.Proofs.Dom.History
import BlogMarkdown.Proofs.Dom.Mirror
import BlogMarkdown.Proofs.Dom.Moving
import BlogMarkdown.Proofs.Dom.Removal
import BlogMarkdown.Proofs.Export.EmptyElements
import BlogMarkdown.Proofs.Markdown.Calls
import BlogMarkdown.Proofs.Markdown.Chunks
import BlogMarkdown.Proofs.Markdown.Closing
import BlogMarkdown.Proofs.Markdown.Comments
import BlogMarkdown.Proofs.Markdown.Decoding
import BlogMarkdown.Proofs.Markdown.Failures
import BlogMarkdown.Proofs.Markdown.Indentation
import BlogMarkdown.Proofs.Markdown.Letters
import BlogMarkdown.Proofs.Markdown.Passthrough
import BlogMarkdown.Proofs.Markdown.Prose
import BlogMarkdown.Proofs.Markdown.Tabs
import BlogMarkdown.Proofs.Shortcode.Interruption
import BlogMarkdown.Proofs.Shortcode.Lexing
import BlogMarkdown.Proofs.Shortcode.Refinement
import BlogMarkdown.Proofs.Shortcode.Rerun
import BlogMarkdown.Proofs.Shortcode.TreeOffsets
import BlogMarkdown.Proofs.Shortcode.Violations
import BlogMarkdown.Proofs.Url.Escapes
import BlogMarkdown.Proofs.Url.Segments
