import GoUnion.Package.Directory
import GoUnion.Resolution
import GoUnion.Union.Generation

/-!
# Requests

A request names a source file and a struct.  The package is that of the
directory of the file, and the file has to be one of its files.
-/

namespace GoUnion

/-- What is asked for: a struct of the package that a source file belongs to. -/
structure Request where
  source : String
  type : String
  deriving DecidableEq, Repr

namespace Package

/-- Whether a path ends in the name of one of the files of the package. -/
def hasFile (package : Package) (path : String) : Bool :=
  (Path.fileName? path).isSome &&
    package.files.any fun file => Path.fileName? file.path = Path.fileName? path

end Package

namespace FileTree

/-- Load the struct that a request asks for from a directory, given its path from the root. -/
def loadFrom (tree : FileTree) (context : Build.Context) (directory : String)
    (request : Request) : Except LoadError NamedType := do
  let (root, modulePath) ← tree.findModule directory
  let package ← tree.package context directory (GoModule.importPath root modulePath directory)
  if package.hasFile request.source then package.loadRecord request.type
  else throw (.sourceNotInPackage request.source directory)

/-- Load the struct that a request asks for. -/
def load (tree : FileTree) (context : Build.Context) (request : Request) :
    Except LoadError NamedType :=
  let directory := Path.directoryOf request.source
  match tree.canonical directory with
  | .error fault => .error (.unreadable directory fault)
  | .ok directory => tree.loadFrom context directory request

/-- The text of the union of a struct, if the struct was loaded. -/
def unionText (config : OutputConfig) :
    Except LoadError NamedType → Except GenerateError String
  | .error error => .error (.load error)
  | .ok type => type.generate config

/-- The text of the union that a request asks for. -/
def generate (tree : FileTree) (context : Build.Context) (request : Request)
    (config : OutputConfig) : Except GenerateError String :=
  unionText config (tree.load context request)

end FileTree

end GoUnion
