import GoUnion.CommandLine
import GoUnion.FileTree.Disk
import GoUnion.Report

/-!
# Runs

A run of the program: it reads its arguments, makes the text of the union, and
replaces the output file.  What reads the arguments and what carries out the work
on files is given to it, so that a run on a file tree is the run of the program.
-/

namespace GoUnion

open CommandLine (Lack Parser Stop)

/-- The name of the program. -/
def programName : String := "gunion"

/-- Why a run does not write a file. -/
inductive RunFault where
  | stop (ending : Stop)
  | lack (lack : Lack)
  | generate (error : GenerateError)
  | write (path : String)

/-- The exit status for a fault.  The end of a run at its arguments has its own. -/
def RunFault.status : RunFault → Nat
  | .stop ending => ending.status
  | _ => 1

/-- What a user is told of a fault, given what reads the text of a file. -/
def RunFault.message (read : String → Option String) : RunFault → String
  | .stop ending => ending.message
  | .lack missing => s!"Error: {missing.message}\n"
  | .generate error => Report.ofError read true error
  | .write path => s!"Error: failed to write {path}\n"

/-- The circumstances of a run. -/
structure Surroundings where
  /-- What reads the arguments. -/
  parser : Parser
  /-- The platform of the machine. -/
  host : Build.Context
  environment : String → Option String
  /-- The path of the working directory. -/
  workingDirectory : String

namespace Surroundings

/-- The platform that packages are read for. -/
def context (surroundings : Surroundings) : Build.Context :=
  .ofEnvironment surroundings.host surroundings.environment

/-- What a run is asked to do. -/
def task (surroundings : Surroundings) (arguments : List String) :
    Except RunFault (Request × OutputConfig) :=
  match surroundings.parser arguments with
  | .error ending => .error (.stop ending)
  | .ok parsed =>
    let command := " ".intercalate (programName :: arguments)
    match parsed.resolve surroundings.environment surroundings.workingDirectory (some command) with
    | .error lack => .error (.lack lack)
    | .ok task => .ok task

/-- Run the program on some arguments, and give the fault if it writes no file. -/
def perform {m : Type → Type} [Monad m] (surroundings : Surroundings) (system : FileSystem m)
    (arguments : List String) : m (Option RunFault) := do
  match surroundings.task arguments with
  | .error fault => return some fault
  | .ok (request, config) =>
    match ← system.generate surroundings.context request config with
    | .error error => return some (.generate error)
    | .ok text =>
      match ← system.replace config.file text with
      | some _ => return some (.write config.file)
      | none => return none

/-- The exit status of a run on a disk, and the tree after it. -/
def run (surroundings : Surroundings) (disk : Disk) (tree : FileTree)
    (arguments : List String) : Nat × FileTree :=
  let (fault, after) := surroundings.perform disk.fileSystem arguments tree
  ((fault.map (·.status)).getD 0, after)

end Surroundings

end GoUnion
