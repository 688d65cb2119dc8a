import BlogMarkdown.Blog.Conversion
/-!
# Reading a command line

What the words of a command line ask for. Flags have a long name, some a letter, and letters may be
joined behind one hyphen. A value follows its option as the next word or behind an equals sign. The
words behind a lone double hyphen are none of them options.
-/
namespace BlogMarkdown.CommandLine

/-- What a command line asks for. -/
inductive Command where
  | version
  | help
  /-- Convert one post body to standard output. -/
  | convert (file : String)
  /-- Convert a blog. -/
  | exportBlog (input output : String) (options : Blog.Options) (manifest : Bool)
  deriving Repr, DecidableEq

/-- The words of a command line ask for nothing. -/
inductive UsageFault where
  | unknown (word : String)
  | repeated (option : String)
  | missingValue (option : String)
  | needlessValue (option : String)
  | needlessWord (word : String)
  | missingPlaces
  | conflict
  deriving Repr, DecidableEq

/-- What is wrong with a command line. -/
def UsageFault.message : UsageFault → String
  | .unknown word => "unexpected argument " ++ Text.quote word
  | .repeated option => option ++ " cannot be used twice"
  | .missingValue option => option ++ " needs a value"
  | .needlessValue option => option ++ " takes no value"
  | .needlessWord word => "unexpected argument " ++ Text.quote word
  | .missingPlaces => "an export file and an output directory are needed"
  | .conflict => "--convert cannot be used with an export file or an output directory"

/-- The options of a command line. -/
inductive Flag where
  | convert
  | keepGoing
  | drafts
  | mediaDir
  | manifest
  | quiet
  | help
  | version
  deriving Repr, DecidableEq

namespace Flag

/-- All options with their long names. -/
def names : List (String × Flag) :=
  [("convert", .convert), ("keep-going", .keepGoing), ("drafts", .drafts), ("media-dir", .mediaDir),
    ("manifest", .manifest), ("quiet", .quiet), ("help", .help), ("version", .version)]

/-- The options that have a letter. -/
def letters : List (Char × Flag) :=
  [('k', .keepGoing), ('q', .quiet), ('h', .help), ('V', .version)]

/-- Whether an option takes a value. -/
def takesValue : Flag → Bool
  | .convert | .mediaDir => true
  | _ => false

/-- The long name of an option. -/
def name (flag : Flag) : String :=
  match names.find? (·.2 = flag) with
  | some (name, _) => "--" ++ name
  | none => ""

end Flag

/-- What was read of a command line. -/
structure Reading where
  /-- The options that were set, each once. -/
  flags : List Flag := []
  file : Option String := none
  mediaDir : Option String := none
  /-- The words that are no options, in order. -/
  places : List String := []
  deriving Repr, DecidableEq

/-- A step of reading ends with a command that comes before all else, or goes on. -/
abbrev Step := Except (Except UsageFault Command) Reading

namespace Reading

/-- Sets an option without a value. Help and version are given at once. -/
def setFlag (r : Reading) (flag : Flag) : Step :=
  match flag with
  | .help => .error (.ok .help)
  | .version => .error (.ok .version)
  | flag =>
    if r.flags.contains flag then .error (.error (.repeated flag.name))
    else .ok { r with flags := flag :: r.flags }

/-- Sets an option to a value. The name of a file cannot be empty. -/
def setValue (r : Reading) (flag : Flag) (value : String) : Step :=
  if r.flags.contains flag then .error (.error (.repeated flag.name))
  else if flag = .convert then
    if value = "" then .error (.error (.missingValue flag.name))
    else .ok { r with flags := flag :: r.flags, file := some value }
  else .ok { r with flags := flag :: r.flags, mediaDir := some value }

/-- Takes a word that is no option. There are two at most, and neither is empty. -/
def addPlace (r : Reading) (word : String) : Step :=
  if word = "" then .error (.error (.missingValue "a file name"))
  else if 2 ≤ r.places.length then .error (.error (.needlessWord word))
  else .ok { r with places := r.places ++ [word] }

/-- Takes letters joined behind one hyphen. -/
def setLetters (r : Reading) : List Char → Step
  | [] => .ok r
  | c :: rest =>
    match Flag.letters.lookup c with
    | none => .error (.error (.unknown (String.ofList ['-', c])))
    | some flag =>
      match r.setFlag flag with
      | .error outcome => .error outcome
      | .ok r =>
        match rest with
        | '=' :: _ => .error (.error (.needlessValue flag.name))
        | rest => r.setLetters rest

/-- What a command line asks for once all its words are read. -/
def command (r : Reading) : Except UsageFault Command :=
  match r.file, r.places with
  | some file, [] => .ok (.convert file)
  | some _, _ => .error .conflict
  | none, [input, output] =>
    let options : Blog.Options := {
      mediaDir := r.mediaDir.getD ({} : Blog.Options).mediaDir
      keepGoing := r.flags.contains .keepGoing
      includeDrafts := r.flags.contains .drafts }
    .ok (.exportBlog input output options (r.flags.contains .manifest))
  | none, _ => .error .missingPlaces

end Reading

/-- Whether a word may be the value of the option before it. -/
def isValue (word : String) : Bool :=
  match word.toList with
  | '-' :: _ :: _ => false
  | _ => true

/-- Reads the words of a command line; `plain` says that a lone double hyphen was passed. -/
def readWords (plain : Bool) (r : Reading) : List String → Except (Except UsageFault Command) Reading
  | [] => .ok r
  | word :: rest =>
    if plain then
      match r.addPlace word with
      | .ok r => readWords true r rest
      | .error outcome => .error outcome
    else
      match word.toList with
      | ['-', '-'] => readWords true r rest
      | '-' :: '-' :: long =>
        let (name, assigned) := long.span (· ≠ '=')
        match Flag.names.lookup (String.ofList name), assigned with
        | none, _ => .error (.error (.unknown word))
        | some flag, '=' :: value =>
          if flag.takesValue then
            match r.setValue flag (String.ofList value) with
            | .ok r => readWords false r rest
            | .error outcome => .error outcome
          else .error (.error (.needlessValue flag.name))
        | some flag, _ =>
          if flag.takesValue then
            match rest with
            | value :: rest =>
              if isValue value then
                match r.setValue flag value with
                | .ok r => readWords false r rest
                | .error outcome => .error outcome
              else .error (.error (.missingValue flag.name))
            | [] => .error (.error (.missingValue flag.name))
          else
            match r.setFlag flag with
            | .ok r => readWords false r rest
            | .error outcome => .error outcome
      | '-' :: c :: letters =>
        match r.setLetters (c :: letters) with
        | .ok r => readWords false r rest
        | .error outcome => .error outcome
      | _ =>
        match r.addPlace word with
        | .ok r => readWords false r rest
        | .error outcome => .error outcome

/-- What the words of a command line ask for. -/
def Command.ofWords (words : List String) : Except UsageFault Command :=
  match readWords false {} words with
  | .ok r => r.command
  | .error outcome => outcome

end BlogMarkdown.CommandLine
