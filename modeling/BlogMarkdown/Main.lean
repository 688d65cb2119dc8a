import BlogMarkdown.CommandLine.Run
/-!
# The program

Carries out a command line on the file system of the machine.
-/
namespace BlogMarkdown.CommandLine

open Files

/-- The words of the system for a refusal, and its number. -/
def refusal (e : IO.Error) : String :=
  match e with
  | .noFileOrDirectory _ number words | .alreadyExists _ number words
  | .inappropriateType _ number words | .invalidArgument _ number words
  | .permissionDenied _ number words | .resourceExhausted _ number words =>
    words ++ " (os error " ++ toString number ++ ")"
  | e => toString e

/-- Makes a change; the answer is why it is refused. -/
def perform (labelled : LabelledChange) : IO (Option String) := do
  try
    match labelled.change with
    | .makeDirectories path => IO.FS.createDirAll path
    | .write path content => IO.FS.writeBinFile path (ByteArray.mk content.toArray)
    return none
  catch e => return some (labelled.label ++ refusal e)

/-- Makes changes in order, up to the first that is refused. -/
def performChanges : List LabelledChange → IO (Option String)
  | [] => return none
  | change :: rest => do
    match ← perform change with
    | none => performChanges rest
    | some reason => return some reason

/-- The content of a file, or why it cannot be read. -/
def readFile (path : String) : IO (Except String (List UInt8)) := do
  try
    return .ok (← IO.FS.readBinFile path).toList
  catch e => return .error (refusal e)

/-- Carries out a command. -/
def carryOut : Command → IO Outcome
  | .version => return .success versionText
  | .help => return .success helpText
  | .convert file => do
    match ← readFile file with
    | .error reason => return .failed (file ++ ": " ++ reason)
    | .ok bytes =>
      match convertFile file bytes with
      | .ok markdown => return .success markdown
      | .error reason => return .failed reason
  | .exportBlog input output options manifest => do
    match ← readFile input with
    | .error reason => return .failed (input ++ ": I/O error: " ++ reason)
    | .ok bytes =>
      match convertExport input options bytes with
      | .error reason => return .failed reason
      | .ok blog =>
        match ← performChanges (exportChanges blog options output manifest) with
        | none => return .success []
        | some reason => return .failed reason

end BlogMarkdown.CommandLine

open BlogMarkdown CommandLine in
/-- Runs the program. -/
def main (words : List String) : IO UInt32 := do
  let outcome ← match Command.ofWords words with
    | .ok command => carryOut command
    | .error fault => pure (.misused fault.message)
  IO.print (String.ofList outcome.output)
  match outcome.failure with
  | some reason => IO.eprintln ("error: " ++ reason)
  | none => pure ()
  return UInt32.ofNat outcome.exitCode
