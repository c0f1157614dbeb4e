import GoUnion.FileTree

/-!
# Changes of a file tree

Making, filling, renaming and removing files.  A tree tells which change an
operation on paths comes to, or why it allows none; whether the change is made is
up to the disk that the tree stands on.
-/

namespace GoUnion

/-- A change of what stands at some places. -/
inductive Change where
  /-- Make an empty file, or empty the one that is there. -/
  | create (place : Place)
  /-- Give a file a content. -/
  | fill (place : Place) (content : ByteArray)
  /-- Put a file with its content at another place, instead of what is there. -/
  | rename (place target : Place) (content : ByteArray)
  | remove (place : Place)

namespace FileTree

/-- A tree with an entry at a place in place of what was there. -/
def put (tree : FileTree) (place : Place) (entry : Entry) : FileTree :=
  { tree with entries := (place, entry) :: tree.entries.filter (·.1 ≠ place) }

/-- A tree without what was at a place. -/
def erase (tree : FileTree) (place : Place) : FileTree :=
  { tree with entries := tree.entries.filter (·.1 ≠ place) }

/-- A tree with an entry at a place, and directories at the places above it. -/
def insert (tree : FileTree) (place : Place) (entry : Entry) : FileTree :=
  let missing := place.above.filter fun above => (tree.entry? above).isNone
  (missing.foldl (fun tree above => tree.put above .directory) tree).put place entry

/-- The tree after a change. -/
def apply (tree : FileTree) : Change → FileTree
  | .create place => tree.put place (.file .empty)
  | .fill place content => tree.put place (.file content)
  | .rename place target content => (tree.erase place).put target (.file content)
  | .remove place => tree.erase place

/-- The place that a file made at a path gets.  The parts before the last one lead to a directory,
and the last one is a name. -/
def newPlace (tree : FileTree) (path : String) : Except FileFault Place := do
  checkPath path
  let parts := Path.pieces path
  let directory ← (parts.dropLast).foldlM tree.step (tree.start path)
  let directory ← tree.step directory "."
  match parts.getLast? with
  | none => throw .notFound
  | some name =>
    if Path.isIdle name || name = ".." then throw .isDirectory
    else if nameLimit < name.utf8ByteSize then throw .nameTooLong
    else if (tree.entry? (directory ++ [name])).any (·.isDirectory) then throw .isDirectory
    else return directory ++ [name]

/-- The place of the file at a path, and its content. -/
def fileAt (tree : FileTree) (path : String) : Except FileFault (Place × ByteArray) := do
  let place ← tree.place path
  match tree.entry? place with
  | some (.file content) => return (place, content)
  | _ => throw .isDirectory

/-- The change that removes the file at a path. -/
def toRemove (tree : FileTree) (path : String) : Except FileFault Change := do
  let (place, _) ← tree.fileAt path
  return .remove place

/-- The change that gives the file at a path another path, in place of a file that is there. -/
def toRename (tree : FileTree) (path target : String) : Except FileFault Change := do
  let (place, content) ← tree.fileAt path
  return .rename place (← tree.newPlace target) content

end FileTree

end GoUnion
