import BlogMarkdown.Text.Quoted
import BlogMarkdown.Text.Utf8
/-!
# Errors

Every way in which reading an export, converting a post or saving a blog can fail, as a cause, and
the wording of each in one place. An error met while one document is converted is wrapped with
that document's title.
-/
namespace BlogMarkdown

/-- Why the file system refuses an operation. -/
inductive FileFault where
  | notFound
  | notADirectory
  | isADirectory
  | alreadyExists
  | nameTooLong
  | nulInName
  | notUtf8
  deriving Repr, DecidableEq

/-- The system's words for a refusal. -/
def FileFault.message : FileFault → String
  | .notFound => "No such file or directory (os error 2)"
  | .notADirectory => "Not a directory (os error 20)"
  | .isADirectory => "Is a directory (os error 21)"
  | .alreadyExists => "File exists (os error 17)"
  | .nameTooLong => "File name too long (os error 36)"
  | .nulInName => "file name contained an unexpected NUL byte"
  | .notUtf8 => "stream did not contain valid UTF-8"

/-- Why the contents of an export make no blog. -/
inductive ExportFault where
  | severalAuthors (count : Nat)
  | notANumber (field text : String)
  | nestedDoc (title : String) (postId : Nat)
  | unknownStatus (status : String)
  | badTime (value : String)
  | unknownCommentStatus (status : String)
  | repeatedName (name first second : String)
  | unknownParent (postId parent : Nat)
  | stated (reason : String)
  deriving Repr, DecidableEq

open Text in
/-- What is wrong with the export. -/
def ExportFault.message : ExportFault → String
  | .severalAuthors count => "only one author supported, found " ++ toString count
  | .notANumber field text => field ++ ": not a number: " ++ quote text
  | .nestedDoc title postId =>
    quote title ++ " (" ++ toString postId ++ "): docs with parents are not supported"
  | .unknownStatus status => "unknown post status " ++ quote status
  | .badTime value => "error parsing wordpress time " ++ quote value
  | .unknownCommentStatus status => "unknown comment status " ++ quote status
  | .repeatedName name first second =>
    "post name " ++ quote name ++ " occurs twice (posts " ++ quote first ++ " and " ++
      quote second ++ ")"
  | .unknownParent postId parent =>
    "attachment " ++ toString postId ++ " refers to unknown parent " ++ toString parent
  | .stated reason => reason

/-- An error of the library. -/
inductive Error where
  | file (fault : FileFault)
  | xml
  | utf8 (fault : Text.Utf8.Fault)
  | unexpectedClosingShortcode (tag : String)
  | unclosedShortcodes (tags : List String)
  | captionShape
  | unsupportedShortcode (tag : String)
  | unexpectedDoctype
  | invalidExport (fault : ExportFault)
  | document (title : String) (source : Error)
  deriving Repr, DecidableEq

/-- The text that reports an error. -/
def Error.message : Error → String
  | .file fault => "I/O error: " ++ fault.message
  | .xml => "XML parsing error"
  | .utf8 fault => "UTF-8 decoding error: " ++ fault.message
  | .unexpectedClosingShortcode tag => "shortcode: unexpected closing shortcode '" ++ tag ++ "'"
  | .unclosedShortcodes tags =>
    "shortcodes still open at end of surrounding HTML tag: " ++ ", ".intercalate tags
  | .captionShape =>
    "the content of caption shortcodes must start with an image, possibly nested inside a link"
  | .unsupportedShortcode tag => "unhandled shortcode '" ++ tag ++ "'"
  | .unexpectedDoctype => "markup isn't supposed to contain a doctype declaration"
  | .invalidExport fault => "invalid export: " ++ fault.message
  | .document title source =>
    Text.quote title ++ ": error converting contents to markdown: " ++ source.message

/-- Whether the error comes from shortcodes that do not nest. -/
def Error.isStructural : Error → Bool
  | .unexpectedClosingShortcode _ | .unclosedShortcodes _ => true
  | .document _ source => source.isStructural
  | _ => false

end BlogMarkdown
