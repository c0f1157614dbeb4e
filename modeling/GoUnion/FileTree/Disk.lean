import GoUnion.FileSystem
import GoUnion.FileTree.Change

/-!
# Disks

A disk may refuse a change that its tree allows, for lack of space or of rights.
A refused change leaves the tree as it was.  Only a file that is being filled
holds whatever the disk has taken by then.
-/

namespace GoUnion

/-- What a disk makes of the changes of its tree. -/
structure Disk where
  /-- Why a change is refused, if it is. -/
  refusal? : FileTree → Change → Option FileFault
  /-- How many bytes of a content are taken before the rest is refused. -/
  taken : FileTree → Place → ByteArray → Nat

namespace Disk

/-- A disk that refuses nothing. -/
def willing : Disk where
  refusal? _ _ := none
  taken _ _ content := content.size

/-- Make a change that the tree allows. -/
def make (disk : Disk) (tree : FileTree) :
    Except FileFault Change → Option FileFault × FileTree
  | .error fault => (some fault, tree)
  | .ok change =>
    match disk.refusal? tree change with
    | some fault => (some fault, tree)
    | none => (none, tree.apply change)

/-- Fill the file at a place. -/
def fill (disk : Disk) (tree : FileTree) (place : Place) (content : ByteArray) :
    Option FileFault × FileTree :=
  match disk.refusal? tree (.fill place content) with
  | some fault =>
    let part := content.extract 0 (disk.taken tree place content)
    (some fault, tree.apply (.fill place part))
  | none => (none, tree.apply (.fill place content))

/-- Write a text to the file at a path: the file is made first and filled then. -/
def write (disk : Disk) (tree : FileTree) (path text : String) :
    Option FileFault × FileTree :=
  match tree.newPlace path with
  | .error fault => (some fault, tree)
  | .ok place =>
    match disk.make tree (.ok (.create place)) with
    | (some fault, tree) => (some fault, tree)
    | (none, made) => disk.fill made place text.toUTF8

/-- The file system of a disk, whose state is the tree. -/
def fileSystem (disk : Disk) : FileSystem (StateM FileTree) where
  generate context request config := fun tree => (tree.generate context request config, tree)
  write path text := fun tree => disk.write tree path text
  rename path target := fun tree => disk.make tree (tree.toRename path target)
  remove path := fun tree => disk.make tree (tree.toRemove path)

end Disk

end GoUnion
