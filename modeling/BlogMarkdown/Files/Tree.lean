import BlogMarkdown.Error
import BlogMarkdown.Text.Utf8
/-!
# File trees

A file system as a value: its directories and files, each with its place. A path leads from a
directory through its parts, and every part but the last must lead to a directory. Making
directories, writing and reading are refused for the same reasons as in a real file system.
-/
namespace BlogMarkdown.Files

/-- The names that lead to an entry from the root on. -/
abbrev Place := List String

/-- What stands at a place. -/
inductive Entry where
  | directory
  | file (content : List UInt8)
  deriving Repr, DecidableEq

/-- The entries of a file system in the order they were made. The root is always there. -/
structure Tree where
  entries : List (Place × Entry)
  deriving Repr, DecidableEq

/-- The longest name in bytes. -/
def nameLimit : Nat := 255

/-- The longest path in bytes. -/
def pathLimit : Nat := 4095

/-- The parts of a path between slashes. -/
def parts (path : String) : List String :=
  (path.toList.splitOnP (· = '/')).map String.ofList

/-- Whether a part leads nowhere else. -/
def isStay (part : String) : Bool := part = "" || part = "."

/-- Whether a path begins at the root. -/
def isAbsolute (path : String) : Bool := path.toList.head? = some '/'

/-- The path of `path` as seen from `directory`. -/
def join (directory path : String) : String :=
  if isAbsolute path ∨ directory = "" then path
  else if directory.toList.getLast? = some '/' then directory ++ path
  else directory ++ "/" ++ path

/-- The place that a path begins at. -/
def startOf (here : Place) (path : String) : Place := if isAbsolute path then [] else here

/-- Why a path is refused before anything is looked up. -/
def pathFault? (path : String) : Option FileFault :=
  if path.toList.contains '\x00' then some .nulInName
  else if path = "" then some .notFound
  else if pathLimit < path.utf8ByteSize then some .nameTooLong
  else none

namespace Tree

/-- What stands at a place. -/
def entry? (tree : Tree) (place : Place) : Option Entry :=
  if place = [] then some .directory else tree.entries.lookup place

/-- Puts an entry at a place, in place of what stood there. -/
def put (tree : Tree) (place : Place) (entry : Entry) : Tree :=
  if (tree.entries.lookup place).isSome then
    ⟨tree.entries.map fun (other, old) => if other = place then (place, entry) else (other, old)⟩
  else ⟨tree.entries ++ [(place, entry)]⟩

/-- Where a part leads from a place, whether or not something stands there. -/
def next (tree : Tree) (place : Place) (part : String) : Except FileFault Place :=
  match tree.entry? place with
  | none => .error .notFound
  | some (.file _) => .error .notADirectory
  | some .directory =>
    if isStay part then .ok place
    else if part = ".." then .ok place.dropLast
    else if nameLimit < part.utf8ByteSize then .error .nameTooLong
    else .ok (place ++ [part])

/-- Where a path leads, whether or not something stands there. -/
def locate (tree : Tree) (here : Place) (path : String) : Except FileFault Place :=
  match pathFault? path with
  | some fault => .error fault
  | none => (parts path).foldlM tree.next (startOf here path)

/-- The content of a file. -/
def read (tree : Tree) (here : Place) (path : String) : Except FileFault (List UInt8) := do
  match tree.entry? (← tree.locate here path) with
  | none => throw .notFound
  | some .directory => throw .isADirectory
  | some (.file content) => return content

/-- Writes a file, in place of one that stands there. -/
def write (tree : Tree) (here : Place) (path : String) (content : List UInt8) :
    Except FileFault Tree := do
  let place ← tree.locate here path
  match tree.entry? place with
  | some .directory => throw .isADirectory
  | _ => return tree.put place (.file content)

/-- Makes the directory that some parts lead to from a place. What is above it must be there, and it must
not; the root and a part that leads back are always there. -/
def makeDirectory (tree : Tree) (start : Place) (path : List String) : Except FileFault Tree :=
  match path.reverse.dropWhile (· = "") with
  | [] => .error .alreadyExists
  | last :: above => do
    let place ← tree.next (← above.reverse.foldlM tree.next start) last
    if isStay last ∨ last = ".." ∨ (tree.entry? place).isSome then throw .alreadyExists
    return tree.put place .directory

/-- Whether some parts lead to a directory. -/
def isDirectory (tree : Tree) (start : Place) (path : List String) : Bool :=
  match path.foldlM tree.next start with
  | .ok place => tree.entry? place = some .directory
  | .error _ => false

/-- Makes the directory that some parts lead to, if it is not there. -/
def ensureDirectory (tree : Tree) (start : Place) (path : List String) : Except FileFault Tree :=
  match tree.makeDirectory start path with
  | .error .alreadyExists =>
    if tree.isDirectory start path then .ok tree else .error .alreadyExists
  | result => result

/-- Makes the first of some directories; where something above it is missing, after the others, of
which each is above the one before it. Directories that were made stay, also if one is refused. -/
def ensureDirectories (tree : Tree) (start : Place) : List (List String) → Tree × Option FileFault
  | [] => (tree, none)
  | path :: above =>
    match tree.ensureDirectory start path with
    | .ok tree => (tree, none)
    | .error .notFound =>
      match tree.ensureDirectories start above with
      | (tree, some fault) => (tree, some fault)
      | (tree, none) =>
        match tree.ensureDirectory start path with
        | .ok tree => (tree, none)
        | .error fault => (tree, some fault)
    | .error fault => (tree, some fault)

/-- Makes a directory and all above it that are missing. The path is tried as it is written; the
directories above it are those of its parts that lead on, so one that ends in a dot is good only for a
directory that is there. -/
def makeDirectories (tree : Tree) (here : Place) (path : String) : Tree × Option FileFault :=
  if path = "" then (tree, none)
  else
    match pathFault? path with
    | some fault => (tree, some fault)
    | none =>
      let steps := (parts path).filter fun part => !isStay part
      let above := (List.range steps.length).reverse.map steps.take
      tree.ensureDirectories (startOf here path) (parts path :: above)

end Tree

/-- One change of a file system. -/
inductive Change where
  | makeDirectories (path : String)
  | write (path : String) (content : List UInt8)
  deriving Repr, DecidableEq

/-- Makes a change: the tree that is left, and why the change is refused, if it is. -/
def Tree.perform (tree : Tree) (here : Place) : Change → Tree × Option FileFault
  | .makeDirectories path => tree.makeDirectories here path
  | .write path content =>
    match tree.write here path content with
    | .ok tree => (tree, none)
    | .error fault => (tree, some fault)

/-- Makes changes in order, up to the first that is refused: the tree that is left, and why it is. -/
def Tree.performAll (tree : Tree) (here : Place) : List Change → Tree × Option FileFault
  | [] => (tree, none)
  | change :: rest =>
    match tree.perform here change with
    | (tree, none) => tree.performAll here rest
    | (tree, some fault) => (tree, some fault)

end BlogMarkdown.Files
