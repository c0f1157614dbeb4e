import GoUnion.Request

/-!
# File systems

What a run does to files, whatever carries it out.  A file is replaced as a
whole: its new text is written beside it and then takes its place, so that at no
time it holds a part of the text.
-/

namespace GoUnion

/-- The operations that a run needs.  One that changes files gives the fault if it fails. -/
structure FileSystem (m : Type → Type) where
  /-- The text of the union that a request asks for. -/
  generate : Build.Context → Request → OutputConfig → m (Except GenerateError String)
  /-- Write a text to the file at a path. -/
  write : String → String → m (Option FileFault)
  /-- Give the file at a path another path. -/
  rename : String → String → m (Option FileFault)
  /-- Remove the file at a path. -/
  remove : String → m (Option FileFault)

namespace FileSystem

/-- The path that the new text of a file is written to first. -/
def temporaryPath (path : String) : String :=
  Path.withFileName path ("." ++ (Path.fileName? path).getD "" ++ ".gunion-tmp")

/-- Replace the file at a path as a whole.  If the new text cannot take its place, it is removed. -/
def replace {m : Type → Type} [Monad m] (system : FileSystem m) (path text : String) :
    m (Option FileFault) := do
  let temporary := temporaryPath path
  match ← system.write temporary text with
  | some fault => return some fault
  | none =>
    match ← system.rename temporary path with
    | none => return none
    | some fault =>
      let _ ← system.remove temporary
      return some fault

end FileSystem

end GoUnion
