import GoUnion.Build.Header
import GoUnion.FileTree
import GoUnion.GoModule
import GoUnion.Package

/-!
# Package directories

Which files of a directory make up a package.  A file takes part if its name is
one of a source file that is built on the platform and its header admits the
platform; the order in which a directory lists its entries does not matter.
-/

namespace GoUnion

open Text (Location)

/-- Whether a name is one of a source file, tests apart, that is built on a platform. -/
def isSourceName (context : Build.Context) (name : String) : Bool :=
  ".go".toList.isSuffixOf name.toList && !"_test.go".toList.isSuffixOf name.toList &&
    name.toList.head? ≠ some '.' && name.toList.head? ≠ some '_' &&
    context.admitsFileName name

/-- The files of a listing that have the name of a source file, in the order of their names. -/
def sourceFiles (context : Build.Context) (listing : List (String × Entry)) :
    List (String × Entry) :=
  (listing.filter fun (name, entry) => !entry.isDirectory && isSourceName context name).mergeSort
    fun first second => first.1 ≤ second.1

namespace Package

/-- The text of a source file, if its header admits the platform. -/
def admittedText? (context : Build.Context) (path : String) (entry : Entry) :
    Except LoadError (Option (List Char)) :=
  match FileTree.textAt path entry with
  | .error fault => .error (.unreadable path fault)
  | .ok text =>
    match context.admitsSource text.toList with
    | .error error =>
      .error (.badConstraint (.ofSpan path text.toList error.span) error.fault)
    | .ok admitted => .ok (if admitted then some text.toList else none)

/-- The paths and the texts of the admitted ones of some source files in a directory. -/
def admittedTexts (context : Build.Context) (directory : String) :
    List (String × Entry) → Except LoadError (List (String × List Char))
  | [] => .ok []
  | (name, entry) :: files => do
    let path := Path.join directory name
    let text ← admittedText? context path entry
    let texts ← admittedTexts context directory files
    return ((text.map fun text => (path, text)).toList) ++ texts

/-- The package in a directory, given what the directory holds and the import path. -/
def ofListing (context : Build.Context) (directory path : String)
    (listing : List (String × Entry)) : Except LoadError Package := do
  ofTexts directory path (← admittedTexts context directory (sourceFiles context listing))

end Package

namespace FileTree

/-- The package in a directory of the tree, given its import path. -/
def package (tree : FileTree) (context : Build.Context) (directory path : String) :
    Except LoadError Package :=
  match tree.list directory with
  | .error fault => .error (.unreadable directory fault)
  | .ok listing => Package.ofListing context directory path listing

/-- The directories from a given one upward, as far as the text of its path tells. -/
def ancestors (steps : Nat) (directory : String) : List String :=
  match steps, Path.parent? directory with
  | steps + 1, some parent => directory :: ancestors steps parent
  | _, _ => [directory]

/-- The module of a directory: the nearest module file at or above it. -/
def findModule (tree : FileTree) (directory : String) : Except LoadError (String × String) :=
  let roots := ancestors directory.length directory
  match roots.find? fun root => tree.isFile (Path.join root GoModule.fileName) with
  | none => .error (.noModule directory)
  | some root =>
    let moduleFile := Path.join root GoModule.fileName
    match tree.read moduleFile with
    | .error fault => .error (.unreadable moduleFile fault)
    | .ok contents =>
      match GoModule.path? contents with
      | none => .error (.badModule moduleFile)
      | some path => .ok (root, path)

end FileTree

end GoUnion
