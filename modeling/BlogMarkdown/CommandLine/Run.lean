import BlogMarkdown.Blog.Manifest
import BlogMarkdown.Blog.Saving
import BlogMarkdown.CommandLine.Command
import BlogMarkdown.Export.Decoding
import BlogMarkdown.Export.Reader
/-!
# Running a command

What a command does to a file tree, what it prints and how it ends. The work is parted from the file
system: a command reads one file, and the changes that it makes are known before the first is made.
-/
namespace BlogMarkdown.CommandLine

open Files Text

/-- How a run ends. -/
structure Outcome where
  exitCode : Nat
  output : List Char
  /-- Why the command could not be carried out. -/
  failure : Option String
  deriving Repr, DecidableEq

/-- A run that did what it was asked for. -/
def Outcome.success (output : List Char) : Outcome := ⟨0, output, none⟩

/-- A run that could not do what it was asked for. -/
def Outcome.failed (reason : String) : Outcome := ⟨1, [], some reason⟩

/-- A run that was asked for nothing that can be done. -/
def Outcome.misused (reason : String) : Outcome := ⟨2, [], some reason⟩

/-- The program and its version. -/
def versionText : List Char := "wp2md 0.1.0\n".toList

/-- How the program is used. -/
def helpText : List Char :=
  ("\n".intercalate
    ["Usage: wp2md [OPTIONS] INPUT OUTPUT_DIR", "       wp2md --convert FILE", "",
      "  -k, --keep-going     skip posts that fail to convert",
      "      --drafts         write drafts, pending and private posts too",
      "      --media-dir DIR  media directory inside OUTPUT_DIR",
      "      --manifest       write the list of attachments to OUTPUT_DIR/attachments.json",
      "  -q, --quiet          report warnings and errors only",
      "  -h, --help           show this text",
      "  -V, --version        show the version", ""]).toList

/-- The Markdown of a post body that stands in a file. -/
def convertFile (file : String) (bytes : List UInt8) : Except String (List Char) :=
  match Utf8.decode bytes with
  | .error _ => .error (file ++ ": " ++ FileFault.notUtf8.message)
  | .ok html =>
    match Markdown.convertPlain html with
    | .ok markdown => .ok markdown
    | .error e => .error e.message

/-- The blog whose export stands in a file. -/
def convertExport (file : String) (options : Blog.Options) (bytes : List UInt8) :
    Except String Blog :=
  match Export.parse (Export.decodeFile bytes) with
  | .error e => .error (file ++ ": " ++ e.message)
  | .ok channel =>
    match Blog.ofChannel channel options with
    | .ok blog => .ok blog
    | .error e => .error e.message

/-- A change of the file system, and the words before the reason why it is refused. -/
structure LabelledChange where
  change : Change
  label : String
  deriving Repr, DecidableEq

/-- The changes that write a blog, and the list of its attachments if that is asked for. -/
def exportChanges (blog : Blog) (options : Blog.Options) (output : String) (manifest : Bool) :
    List LabelledChange :=
  let saving := (blog.saveChanges options output).map fun change => ⟨change, "I/O error: "⟩
  let list := join output "attachments.json"
  saving ++
    if manifest then
      [⟨.write list (Utf8.encode (Blog.manifestText blog.manifest)), list ++ ": "⟩]
    else []

/-- Makes changes in order, up to the first that is refused. -/
def performAll (here : Place) (tree : Tree) : List LabelledChange → Tree × Option String
  | [] => (tree, none)
  | ⟨change, label⟩ :: rest =>
    match tree.perform here change with
    | (tree, none) => performAll here tree rest
    | (tree, some fault) => (tree, some (label ++ fault.message))

/-- Carries out a command in a directory of a file tree. -/
def run (command : Command) (here : Place) (tree : Tree) : Tree × Outcome :=
  match command with
  | .version => (tree, .success versionText)
  | .help => (tree, .success helpText)
  | .convert file =>
    match tree.read here file with
    | .error fault => (tree, .failed (file ++ ": " ++ fault.message))
    | .ok bytes =>
      match convertFile file bytes with
      | .ok markdown => (tree, .success markdown)
      | .error reason => (tree, .failed reason)
  | .exportBlog input output options manifest =>
    match tree.read here input with
    | .error fault => (tree, .failed (input ++ ": " ++ (Error.file fault).message))
    | .ok bytes =>
      match convertExport input options bytes with
      | .error reason => (tree, .failed reason)
      | .ok blog =>
        match performAll here tree (exportChanges blog options output manifest) with
        | (tree, none) => (tree, .success [])
        | (tree, some reason) => (tree, .failed reason)

/-- Runs the words of a command line in a directory of a file tree. -/
def runWords (words : List String) (here : Place) (tree : Tree) : Tree × Outcome :=
  match Command.ofWords words with
  | .ok command => run command here tree
  | .error fault => (tree, .misused fault.message)

end BlogMarkdown.CommandLine
