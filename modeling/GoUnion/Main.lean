import GoUnion.CommandLine.Usage
import GoUnion.Run

/-!
# The command line program

Carries out a run on the disk of the machine.  Of the disk it reads what the
generated text depends on: the module files above the package and the source
files in its directory.
-/

namespace GoUnion.Program

/-- The environment variables that a run looks at. -/
def variableNames : List String := ["GOFILE", "GOPACKAGE", "GOOS", "GOARCH", "CGO_ENABLED"]

/-- The circumstances of this run. -/
def surroundings : IO Surroundings := do
  let values ← variableNames.filterMapM fun name => do
    return (← IO.getEnv name).map fun value => (name, value)
  return {
    parser := CommandLine.parse
    host := .ofPlatform "linux" "amd64"
    environment := fun name => values.lookup name
    workingDirectory := (← IO.currentDir).toString }

/-- What the disk holds at a path, if it is a file that can be read. -/
def file? (path : String) : IO (Option Entry) := do
  try
    return some (.file (← IO.FS.readBinFile path))
  catch _ => return none

/-- Add a file to a tree, if the disk holds one. -/
def addFile (tree : FileTree) (place : Place) : IO FileTree := do
  match ← file? (FileTree.pathOf place) with
  | some entry => return tree.insert place entry
  | none => return tree

/-- The part of the disk that matters for the package in a directory. -/
def survey (context : Build.Context) (directory : String) : IO FileTree := do
  let place : Place := (Path.components directory).drop 1
  let roots := [] :: place.above ++ [place]
  let mut tree ← roots.foldlM (fun tree root => addFile tree (root ++ [GoModule.fileName]))
    (FileTree.empty place)
  for entry in ← (← IO.FS.realPath directory).readDir do
    if isSourceName context entry.fileName then
      tree ← addFile tree (place ++ [entry.fileName])
  return tree

/-- Why an operation on files failed. -/
def faultOf : IO.Error → FileFault
  | .inappropriateType .. => .notDirectory
  | .invalidArgument .. => .nameTooLong
  | .permissionDenied .. => .notPermitted
  | .resourceExhausted .. => .noSpace
  | _ => .notFound

/-- The text of the union that a request asks for. -/
def generate (context : Build.Context) (request : Request) (config : OutputConfig) :
    IO (Except GenerateError String) := do
  let named := Path.directoryOf request.source
  try
    let directory := (← IO.FS.realPath named).toString
    let tree ← survey context directory
    return FileTree.unionText config (tree.loadFrom context directory request)
  catch error =>
    return .error (.load (.unreadable named (faultOf error)))

/-- The fault of an operation, if it fails. -/
def fault? (operation : IO Unit) : IO (Option FileFault) := do
  try
    operation
    return none
  catch error => return some (faultOf error)

/-- The file system of the machine. -/
def fileSystem : FileSystem IO where
  generate := generate
  write path text := fault? (IO.FS.writeFile path text)
  rename path target := fault? (IO.FS.rename path target)
  remove path := fault? (IO.FS.removeFile path)

/-- Tell the user of a fault. -/
def complain (fault : RunFault) : IO Unit := do
  let texts ←
    match fault with
    | .generate error =>
      match error.location? with
      | some location =>
        let entry ← file? location.file
        pure (entry.bind (·.text.toOption))
      | none => pure none
    | _ => pure none
  let message := fault.message fun _ => texts
  if fault.status = 0 then IO.print message else IO.eprint message

/-- Run the program on its arguments. -/
def run (arguments : List String) : IO UInt32 := do
  match ← (← surroundings).perform fileSystem arguments with
  | none => return 0
  | some fault =>
    complain fault
    return fault.status.toUInt32

end GoUnion.Program

/-- The entry point of the program. -/
def main (arguments : List String) : IO UInt32 :=
  GoUnion.Program.run arguments
