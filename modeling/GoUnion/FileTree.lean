import GoUnion.LoadError
import GoUnion.Path

/-!
# File trees

Directories and files below one root, and the directory that relative paths
start at.  A path is followed from part to part, and every part but the last has
to lead to a directory; what a place holds is read off a list of entries, in
which the first entry for a place counts.  Names and paths have a greatest
length.
-/

namespace GoUnion

/-- The names that lead from the root to a file or directory. -/
abbrev Place := List String

/-- The places of the directories above a place from the top down, the root apart. -/
def Place.above (place : Place) : List Place :=
  (List.range place.length).tail.map place.take

/-- What stands at a place. -/
inductive Entry where
  | directory
  | file (content : ByteArray)

/-- Whether a directory stands there. -/
def Entry.isDirectory : Entry → Bool
  | .directory => true
  | .file _ => false

/-- The text of a file, unless its bytes are none. -/
def Entry.text : Entry → Except FileFault String
  | .directory => .error .isDirectory
  | .file content => ((String.fromUTF8? content).map .ok).getD (.error .notText)

/-- A file that holds a text. -/
def Entry.ofText (text : String) : Entry := .file text.toUTF8

/-- Directories and files, and the working directory. -/
structure FileTree where
  workingDirectory : Place
  entries : List (Place × Entry)

namespace FileTree

/-- A tree that has nothing but its working directory and the directories above it. -/
def empty (workingDirectory : Place) : FileTree where
  workingDirectory
  entries := (workingDirectory.above ++ [workingDirectory]).map fun place => (place, .directory)

/-- What stands at a place.  The root is always a directory. -/
def entry? (tree : FileTree) (place : Place) : Option Entry :=
  if place = [] then some .directory else tree.entries.lookup place

/-- The most bytes that a name may have. -/
def nameLimit : Nat := 255

/-- Go from a directory to what a part of a path names there. -/
def step (tree : FileTree) (place : Place) (part : String) : Except FileFault Place :=
  match tree.entry? place with
  | none => .error .notFound
  | some (.file _) => .error .notDirectory
  | some .directory =>
    if Path.isIdle part then .ok place
    else if part = ".." then .ok place.dropLast
    else if nameLimit < part.utf8ByteSize then .error .nameTooLong
    else if (tree.entry? (place ++ [part])).isSome then .ok (place ++ [part])
    else .error .notFound

/-- The place that a path starts at. -/
def start (tree : FileTree) (path : String) : Place :=
  if Path.isAbsolute path then [] else tree.workingDirectory

/-- The most bytes that a path may have. -/
def pathLimit : Nat := 4095

/-- Refuse a text that is no path in any tree: the empty one, and one with a NUL. -/
def checkText (path : String) : Except FileFault Unit :=
  if path = "" then .error .notFound
  else if path.toList.contains '\x00' then .error .nulByte
  else .ok ()

/-- Refuse a text that is no path in any tree or is longer than a path may be. -/
def checkPath (path : String) : Except FileFault Unit := do
  checkText path
  if pathLimit < path.utf8ByteSize then throw .nameTooLong

/-- The text of an entry that is read under a path. -/
def textAt (path : String) (entry : Entry) : Except FileFault String := do
  checkPath path
  entry.text

/-- The place that the parts of a path lead to. -/
def follow (tree : FileTree) (path : String) : Except FileFault Place :=
  (Path.pieces path).foldlM tree.step (tree.start path)

/-- The place that a path leads to. -/
def place (tree : FileTree) (path : String) : Except FileFault Place := do
  checkPath path
  tree.follow path

/-- What a path leads to. -/
def find (tree : FileTree) (path : String) : Except FileFault Entry := do
  let place ← tree.place path
  return (tree.entry? place).getD .directory

/-- Whether a path leads to a file. -/
def isFile (tree : FileTree) (path : String) : Bool :=
  match tree.find path with
  | .ok (.file _) => true
  | _ => false

/-- The text of the file that a path leads to. -/
def read (tree : FileTree) (path : String) : Except FileFault String := do
  (← tree.find path).text

/-- The path of a place from the root. -/
def pathOf (place : Place) : String :=
  "/" ++ "/".intercalate place

/-- The path from the root to where a path leads.  The parts are followed one by one, so the path
may be longer than those that are followed as a whole. -/
def canonical (tree : FileTree) (path : String) : Except FileFault String := do
  checkText path
  return pathOf (← tree.follow path)

/-- The name that an entry has in a directory, if it stands there. -/
def nameIn? (directory : Place) (place : Place) : Option String :=
  if place.dropLast = directory then place.getLast? else none

/-- The names in a directory with what they stand for. -/
def children (tree : FileTree) (directory : Place) : List (String × Entry) :=
  tree.entries.filterMap fun (place, entry) =>
    (nameIn? directory place).map fun name => (name, entry)

/-- The names in the directory that a path leads to with what they stand for. -/
def list (tree : FileTree) (path : String) : Except FileFault (List (String × Entry)) := do
  let directory ← tree.place path
  match tree.entry? directory with
  | some .directory => return tree.children directory
  | _ => throw .notDirectory

end FileTree

end GoUnion
