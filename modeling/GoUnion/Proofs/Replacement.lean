import GoUnion.CommandLine.Usage
import GoUnion.Proofs.Scoping
import GoUnion.Run

/-!
# Replacing a file

A run writes its text beside the output file and then renames it.  In the tree
in between there is one file more and no other directory, so every path leads
through the same directories as before.  If the new file takes the place of the
output, the tree has changed there only; if it cannot, it is removed, and the
tree is the one before it was written.

A disk may also break the writing off, or refuse to remove the new file again.
Then this file stays behind.  On a disk that does neither, a run that fails
leaves the tree as it was, whatever it fails at.  A run that succeeds has the
whole generated text at the output, whatever the disk does.
-/

namespace GoUnion

open Reader (bind_eq_ok ok_bind)

namespace FileTree

variable {tree tree' : FileTree} {place other : Place} {path : String}

/-! ## Entries -/

theorem lookup_filter_ne
    (different : other ≠ place) (entries : List (Place × Entry)) :
    (entries.filter (·.1 ≠ place)).lookup other = entries.lookup other := by
  induction entries with
  | nil => rfl
  | cons item entries ih =>
      rcases item with ⟨first, entry⟩
      rw [List.filter_cons]
      split
      case isTrue => rw [List.lookup_cons, List.lookup_cons, ih]
      case isFalse isPlace =>
        have isPlace : first = place := by simpa using isPlace
        have isOther : (other == first) = false := by
          simpa [isPlace] using different
        rw [List.lookup_cons, isOther, ih]

@[simp]
theorem entry?_put_self
    (notRoot : place ≠ []) (entry : Entry) :
    FileTree.entry? (tree.put place entry) place = some entry := by
  unfold entry?
  rw [if_neg notRoot, put, List.lookup_cons, beq_self_eq_true]

theorem entry?_put_of_ne (different : other ≠ place) (entry : Entry) :
    FileTree.entry? (tree.put place entry) other = tree.entry? other := by
  unfold entry?
  rw [put, List.lookup_cons, beq_eq_false_iff_ne.mpr different]
  dsimp only
  rw [lookup_filter_ne different]

/-- Where nothing stands, no entry has to make room. -/
theorem filter_of_vacant (vacant : tree.entry? place = none) :
    tree.entries.filter (·.1 ≠ place) = tree.entries := by
  unfold entry? at vacant
  split at vacant
  case isTrue => cases vacant
  case isFalse =>
    refine List.filter_eq_self.mpr fun item isIn => ?_
    have differs := List.lookup_eq_none_iff.mp vacant item isIn
    rw [bne_iff_ne] at differs
    exact decide_eq_true differs.symm

/-- What is put at a vacant place can be taken away again. -/
theorem erase_put
    (vacant : tree.entry? place = none) (entry : Entry) :
    (tree.put place entry).erase place = tree := by
  rw [erase, put, List.filter_cons, if_neg (by simp), List.filter_filter]
  simp only [Bool.and_self]
  rw [filter_of_vacant vacant]

/-! ## Trees with the same directories -/

/-- Two trees that have directories at the same places. -/
structure SameDirectories (tree tree' : FileTree) : Prop where
  workingDirectory : tree'.workingDirectory = tree.workingDirectory
  directory : ∀ place,
    tree.entry? place = some .directory ↔
      tree'.entry? place = some .directory

theorem SameDirectories.symm
    (same : tree.SameDirectories tree') : tree'.SameDirectories tree :=
  ⟨same.workingDirectory.symm, fun place => (same.directory place).symm⟩

theorem sameDirectories_put
    (noDirectory : tree.entry? place ≠ some .directory)
    (content : ByteArray) :
    tree.SameDirectories (tree.put place (.file content)) where
  workingDirectory := rfl
  directory other := by
    by_cases isPlace : other = place
    · subst isPlace
      have notRoot : other ≠ [] := by
        rintro rfl
        exact noDirectory rfl
      rw [entry?_put_self notRoot]
      simp [noDirectory]
    · rw [entry?_put_of_ne isPlace]

/-! ## Following a path -/

/-- A part of a path leads on from a directory: it stays there, goes up, or goes to what stands
in the directory under its name. -/
theorem step_eq_ok {part : String} :
    tree.step place part = .ok other ↔
      tree.entry? place = some .directory ∧
        ((Path.isIdle part = true ∧ other = place) ∨
          (Path.isIdle part = false ∧ part = ".." ∧
            other = place.dropLast) ∨
          (Path.isIdle part = false ∧ part ≠ ".." ∧
            part.utf8ByteSize ≤ nameLimit ∧
              (tree.entry? (place ++ [part])).isSome = true ∧
                other = place ++ [part])) := by
  rw [step]
  cases tree.entry? place with
  | none => simp
  | some entry =>
      cases entry with
      | file content => simp
      | directory =>
          dsimp only
          cases Path.isIdle part with
          | true => simp [eq_comm (a := other)]
          | false =>
              by_cases isUp : part = ".."
              · simp [isUp, eq_comm (a := other)]
              · by_cases isLong : nameLimit < part.utf8ByteSize
                · simp [isUp, isLong, Nat.not_le.mpr isLong]
                · cases tree.entry? (place ++ [part]) with
                  | none => simp [isUp, isLong]
                  | some entry =>
                      simp [isUp, isLong, Nat.le_of_not_lt isLong,
                        eq_comm (a := other)]

/-- Where the parts of a path lead to a directory, they start at one. -/
theorem directory_of_steps
    {parts : List String}
    (follows : parts.foldlM tree.step place = .ok other)
    (isDirectory : tree.entry? other = some .directory) :
    tree.entry? place = some .directory := by
  cases parts with
  | nil =>
      cases follows
      exact isDirectory
  | cons part parts =>
      rw [List.foldlM_cons] at follows
      rcases bind_eq_ok follows with ⟨_, steps, -⟩
      exact (step_eq_ok.mp steps).1

/-- A path leads to a directory in every tree with the same directories. -/
theorem SameDirectories.steps
    (same : tree.SameDirectories tree') {parts : List String}
    (follows : parts.foldlM tree.step place = .ok other)
    (isDirectory : tree.entry? other = some .directory) :
    parts.foldlM tree'.step place = .ok other := by
  induction parts generalizing place with
  | nil => exact follows
  | cons part parts ih =>
      rw [List.foldlM_cons] at follows ⊢
      rcases bind_eq_ok follows with ⟨next, steps, follows⟩
      have isNext :=
        (same.directory next).mp (directory_of_steps follows isDirectory)
      rcases step_eq_ok.mp steps with ⟨isPlace, leads⟩
      have steps' : tree'.step place part = .ok next := by
        refine step_eq_ok.mpr ⟨(same.directory place).mp isPlace, ?_⟩
        rcases leads with stays | goesUp | ⟨isName, notUp, isShort, -, rfl⟩
        · exact .inl stays
        · exact .inr (.inl goesUp)
        · exact .inr (.inr ⟨isName, notUp, isShort, by rw [isNext]; rfl,
            rfl⟩)
      rw [steps', ok_bind]
      exact ih follows

/-! ## Places of new files -/

/-- What a path has to be to give a new file a place: it leads to a directory and ends in a name
that no directory has there. -/
structure Offers
    (tree : FileTree) (path : String) (directory : Place)
    (name : String) : Prop where
  isPath : checkPath path = .ok ()
  follows : (Path.pieces path).dropLast.foldlM tree.step
    (tree.start path) = .ok directory
  isDirectory : tree.entry? directory = some .directory
  isLast : (Path.pieces path).getLast? = some name
  isName : Path.isIdle name = false
  notUp : name ≠ ".."
  isShort : name.utf8ByteSize ≤ nameLimit
  noDirectory :
    tree.entry? (directory ++ [name]) ≠ some .directory

theorem newPlace_eq_ok :
    tree.newPlace path = .ok place ↔
      ∃ directory name, tree.Offers path directory name ∧
        place = directory ++ [name] := by
  constructor
  · intro succeeds
    rcases bind_eq_ok succeeds with ⟨⟨⟩, isPath, inParts⟩
    rcases bind_eq_ok inParts with ⟨directory, follows, inDirectory⟩
    rcases bind_eq_ok inDirectory with ⟨stays, steps, yields⟩
    clear succeeds inParts inDirectory
    rcases step_eq_ok.mp steps with ⟨isDirectory, leads⟩
    obtain rfl : stays = directory := by
      rcases leads with ⟨-, same⟩ | ⟨isName, -⟩ | ⟨isName, -⟩
      · exact same
      · cases isName
      · cases isName
    split at yields
    case h_1 => cases yields
    case h_2 name isLast =>
      split at yields
      case isTrue => cases yields
      case isFalse isName =>
        split at yields
        case isTrue => cases yields
        case isFalse isShort =>
          split at yields
          case isTrue => cases yields
          case isFalse noDirectory =>
            cases yields
            simp only [Bool.or_eq_true, decide_eq_true_eq, not_or,
              Bool.not_eq_true] at isName
            refine ⟨stays, name, ⟨isPath, follows, isDirectory, isLast,
              isName.1, isName.2, Nat.le_of_not_lt isShort, ?_⟩, rfl⟩
            intro isThere
            rw [isThere] at noDirectory
            exact noDirectory rfl
  · rintro ⟨directory, name, offers, rfl⟩
    have stays : tree.step directory "." = .ok directory :=
      step_eq_ok.mpr ⟨offers.isDirectory, .inl ⟨rfl, rfl⟩⟩
    have isName : ¬ (Path.isIdle name || decide (name = "..")) = true := by
      simp [offers.isName, offers.notUp]
    have noDirectory :
        ¬ (tree.entry? (directory ++ [name])).any
          (·.isDirectory) = true := by
      intro isThere
      have differs := offers.noDirectory
      generalize tree.entry? (directory ++ [name]) = found at isThere differs
      cases found with
      | none => cases isThere
      | some entry =>
          cases entry with
          | directory => exact differs rfl
          | file content => cases isThere
    rw [newPlace, offers.isPath, ok_bind]
    dsimp only
    rw [offers.follows, ok_bind, stays, ok_bind, offers.isLast]
    dsimp only
    rw [if_neg isName, if_neg (Nat.not_lt.mpr offers.isShort),
      if_neg noDirectory]
    rfl

theorem ne_nil_of_newPlace (offered : tree.newPlace path = .ok place) :
    place ≠ [] := by
  rcases newPlace_eq_ok.mp offered with ⟨directory, name, -, rfl⟩
  exact List.append_ne_nil_of_right_ne_nil _ (List.cons_ne_nil _ _)

theorem noDirectory_of_newPlace
    (offered : tree.newPlace path = .ok place) :
    tree.entry? place ≠ some .directory := by
  rcases newPlace_eq_ok.mp offered with ⟨directory, name, offers, rfl⟩
  exact offers.noDirectory

/-- The file that is put at a new place stands there. -/
theorem entry?_put_newPlace
    (offered : tree.newPlace path = .ok place) (text : String) :
    FileTree.entry? (tree.put place (.ofText text)) place =
      some (.ofText text) :=
  entry?_put_self (ne_nil_of_newPlace offered) _

/-- A file at a new place leaves the directories as they are. -/
theorem sameDirectories_put_newPlace
    (offered : tree.newPlace path = .ok place) (text : String) :
    tree.SameDirectories (tree.put place (.ofText text)) :=
  sameDirectories_put (noDirectory_of_newPlace offered) _

/-- A path gives a new file the same place in every tree with the same directories. -/
theorem SameDirectories.newPlace
    (same : tree.SameDirectories tree')
    (offered : tree.newPlace path = .ok place) :
    tree'.newPlace path = .ok place := by
  rcases newPlace_eq_ok.mp offered with ⟨directory, name, offers, rfl⟩
  have follows := same.steps offers.follows offers.isDirectory
  have start : tree'.start path = tree.start path := by
    rw [FileTree.start, FileTree.start, same.workingDirectory]
  exact newPlace_eq_ok.mpr ⟨directory, name, {
    isPath := offers.isPath
    follows := by rw [start, follows]
    isDirectory := (same.directory directory).mp offers.isDirectory
    isLast := offers.isLast
    isName := offers.isName
    notUp := offers.notUp
    isShort := offers.isShort
    noDirectory := fun isThere =>
      offers.noDirectory ((same.directory _).mpr isThere) }, rfl⟩

/-- Once there is a file, the path that it got its place from leads to it. -/
theorem place_of_newPlace
    (offered : tree.newPlace path = .ok place)
    (isSome : (tree.entry? place).isSome = true) :
    tree.place path = .ok place := by
  rcases newPlace_eq_ok.mp offered with ⟨directory, name, offers, rfl⟩
  have pieces :
      Path.pieces path = (Path.pieces path).dropLast ++ [name] :=
    (List.dropLast_append_getLast? name offers.isLast).symm
  have steps : tree.step directory name = .ok (directory ++ [name]) :=
    step_eq_ok.mpr ⟨offers.isDirectory, .inr (.inr
      ⟨offers.isName, offers.notUp, offers.isShort, isSome, rfl⟩)⟩
  rw [FileTree.place, offers.isPath, ok_bind, follow, pieces,
    List.foldlM_append, offers.follows, ok_bind, List.foldlM_cons, steps]
  rfl

theorem find_of_newPlace
    {entry : Entry} (offered : tree.newPlace path = .ok place)
    (found : tree.entry? place = some entry) :
    tree.find path = .ok entry := by
  have isSome : (tree.entry? place).isSome = true := by rw [found]; rfl
  rw [find, place_of_newPlace offered isSome, ok_bind, found]
  rfl

/-! ## Replacing -/

/-- Whether nothing exists at a path. -/
def Vacant (tree : FileTree) (path : String) : Prop :=
  ∀ entry, tree.find path ≠ .ok entry

theorem Vacant.entry?
    (vacant : tree.Vacant path)
    (offered : tree.newPlace path = .ok place) :
    tree.entry? place = none := by
  cases found : tree.entry? place with
  | none => rfl
  | some entry => exact absurd (find_of_newPlace offered found) (vacant entry)

theorem text_ofText (text : String) :
    (Entry.ofText text).text = .ok text := by
  have decodes : String.fromUTF8? text.toUTF8 = some text := by
    rw [String.fromUTF8?, String.toUTF8_eq_toByteArray,
      dif_pos text.isValidUTF8]
    rfl
  rw [Entry.ofText, Entry.text, decodes]
  rfl

/-- A file that was put at the place of a path is read under that path. -/
theorem read_put
    (offered : tree.newPlace path = .ok place) (text : String) :
    (tree.put place (.ofText text)).read path = .ok text := by
  have same := sameDirectories_put_newPlace offered text
  have found := entry?_put_newPlace offered text
  rw [FileTree.read, find_of_newPlace (same.newPlace offered) found,
    ok_bind, text_ofText]

theorem fileAt_of_newPlace
    {content : ByteArray} (offered : tree.newPlace path = .ok place)
    (isFile : tree.entry? place = some (.file content)) :
    tree.fileAt path = .ok (place, content) := by
  have isSome : (tree.entry? place).isSome = true := by rw [isFile]; rfl
  rw [fileAt, place_of_newPlace offered isSome, ok_bind, isFile]
  rfl

/-- What was put at a place gives way to what is put there next. -/
theorem put_put (first second : Entry) :
    (tree.put place first).put place second = tree.put place second := by
  rw [put, put, put, List.filter_cons, if_neg (by simp), List.filter_filter]
  simp only [Bool.and_self]

end FileTree

/-! ## Running on a state -/

theorem bind_apply
    {State α β : Type} (first : StateM State α)
    (next : α → StateM State β) (state : State) :
    (first >>= next) state = next (first state).1 (first state).2 :=
  rfl

/-- The steps of replacing a file on a system with a state, one after the other. -/
theorem FileSystem.replace_eq
    {State : Type} (system : FileSystem (StateM State))
    (path text : String) (state : State) :
    system.replace path text state =
      match system.write (temporaryPath path) text state with
      | (some fault, state) => (some fault, state)
      | (none, state) =>
        match system.rename (temporaryPath path) path state with
        | (none, state) => (none, state)
        | (some fault, state) =>
          (some fault, (system.remove (temporaryPath path) state).2) := by
  rw [replace, bind_apply]
  rcases system.write (temporaryPath path) text state with
    ⟨_ | fault, written⟩
  case some => rfl
  case none =>
    dsimp only
    rw [bind_apply]
    rcases system.rename (temporaryPath path) path written with
      ⟨_ | fault, renamed⟩
    · rfl
    · rfl

/-! ## Replacing on a disk -/

namespace Disk

open FileSystem (replace_eq temporaryPath)

variable {disk : Disk} {tree : FileTree} {path text : String}
  {place : Place}

/-- Whether a disk takes the whole text that is written to a new file, and removes that file again
if it is told to. -/
structure Finishes (disk : Disk) (tree : FileTree) (path text : String) :
    Prop where
  takes : ∀ place, tree.newPlace path = .ok place →
    disk.refusal? (tree.put place (.file .empty))
      (.fill place text.toUTF8) = none
  removes : ∀ place, tree.newPlace path = .ok place →
    disk.refusal? (tree.put place (.ofText text)) (.remove place) = none

theorem finishes_willing (tree : FileTree) (path text : String) :
    willing.Finishes tree path text :=
  ⟨fun _ _ => rfl, fun _ _ => rfl⟩

/-- A disk that lets files be added and filled, and refuses to rename or to remove them. -/
def addOnly : Disk where
  refusal? _ change :=
    match change with
    | .rename .. | .remove _ => some .notPermitted
    | .create _ | .fill .. => none
  taken _ _ content := content.size

/-- A change is made, or the tree stays as it was. -/
theorem make_cases (disk : Disk) (tree : FileTree) (change : Change) :
    (∃ fault, disk.make tree (.ok change) = (some fault, tree) ∧
        disk.refusal? tree change ≠ none) ∨
      disk.make tree (.ok change) = (none, tree.apply change) ∧
        disk.refusal? tree change = none := by
  rw [make]
  cases disk.refusal? tree change with
  | none => exact .inr ⟨rfl, rfl⟩
  | some fault => exact .inl ⟨fault, rfl, Option.some_ne_none _⟩

/-- A file that was made holds the whole content after it was filled, or a beginning of it if that
was broken off. -/
theorem fill_cases
    (disk : Disk) (tree : FileTree) (place : Place) (content : ByteArray) :
    (∃ fault size,
      disk.fill (tree.put place (.file .empty)) place content =
          (some fault, tree.put place (.file (content.extract 0 size))) ∧
        disk.refusal? (tree.put place (.file .empty))
          (.fill place content) ≠ none) ∨
      disk.fill (tree.put place (.file .empty)) place content =
        (none, tree.put place (.file content)) := by
  rw [fill]
  cases disk.refusal? (tree.put place (.file .empty))
      (.fill place content) with
  | none => exact .inr (congrArg _ (FileTree.put_put _ _))
  | some fault =>
      exact .inl ⟨fault, _, congrArg _ (FileTree.put_put _ _),
        Option.some_ne_none _⟩

/-- A text that is written to a new file is there as a whole, or a beginning of it is if the writing
was broken off, or there is no file at all. -/
theorem write_cases
    (disk : Disk) (tree : FileTree) (path text : String) :
    (∃ fault, disk.fileSystem.write path text tree = (some fault, tree) ∧
      ∀ place, tree.newPlace path = .ok place →
        disk.refusal? tree (.create place) ≠ none) ∨
    ∃ place, tree.newPlace path = .ok place ∧
      ((∃ fault size,
        disk.fileSystem.write path text tree = (some fault,
            tree.put place (.file (text.toUTF8.extract 0 size))) ∧
          disk.refusal? (tree.put place (.file .empty))
            (.fill place text.toUTF8) ≠ none) ∨
        disk.fileSystem.write path text tree =
          (none, tree.put place (.ofText text))) := by
  rw [fileSystem]
  dsimp only
  rw [write]
  cases offered : tree.newPlace path with
  | error fault => exact .inl ⟨fault, rfl, fun _ isPlace => nomatch isPlace⟩
  | ok place =>
      dsimp only
      rcases disk.make_cases tree (.create place) with
        ⟨fault, fails, isRefused⟩ | ⟨isMade, -⟩
      · rw [fails]
        refine .inl ⟨fault, rfl, fun place' isPlace => ?_⟩
        cases isPlace
        exact isRefused
      · rw [isMade]
        refine .inr ⟨place, rfl, ?_⟩
        exact disk.fill_cases tree place text.toUTF8

/-- A new file is removed again, which gives back the tree without it, unless the disk refuses to. -/
theorem remove_cases
    (disk : Disk) (text : String) (vacant : tree.Vacant path)
    (offered : tree.newPlace path = .ok place) :
    (disk.fileSystem.remove path (tree.put place (.ofText text))).2 =
          tree ∧
        disk.refusal? (tree.put place (.ofText text)) (.remove place) =
          none ∨
      (disk.fileSystem.remove path (tree.put place (.ofText text))).2 =
          tree.put place (.ofText text) ∧
        disk.refusal? (tree.put place (.ofText text)) (.remove place) ≠
          none := by
  have isFile := FileTree.entry?_put_newPlace offered text
  have same := FileTree.sameDirectories_put_newPlace offered text
  have removes :
      (tree.put place (.ofText text)).toRemove path =
        .ok (.remove place) := by
    rw [FileTree.toRemove,
      FileTree.fileAt_of_newPlace (same.newPlace offered) isFile]
    rfl
  rw [fileSystem]
  dsimp only
  rw [removes]
  rcases disk.make_cases (tree.put place (.ofText text))
      (.remove place) with ⟨fault, stays, isRefused⟩ |
        ⟨isMade, isAllowed⟩
  · rw [stays]
    exact .inr ⟨rfl, isRefused⟩
  · rw [isMade]
    exact .inl ⟨FileTree.erase_put (vacant.entry? offered) _, isAllowed⟩

/-- A new file takes the place of another one, or stays where it is if there is no such place or
the disk refuses to. -/
theorem rename_cases
    (disk : Disk) (target text : String)
    (vacant : tree.Vacant path)
    (offered : tree.newPlace path = .ok place) :
    (∃ fault,
      disk.fileSystem.rename path target (tree.put place (.ofText text)) =
          (some fault, tree.put place (.ofText text)) ∧
        ∀ output, tree.newPlace target = .ok output →
          disk.refusal? (tree.put place (.ofText text))
            (.rename place output text.toUTF8) ≠ none) ∨
    ∃ output, tree.newPlace target = .ok output ∧
      disk.fileSystem.rename path target (tree.put place (.ofText text)) =
          (none, tree.put output (.ofText text)) ∧
        disk.refusal? (tree.put place (.ofText text))
          (.rename place output text.toUTF8) = none := by
  have isFile := FileTree.entry?_put_newPlace offered text
  have same := FileTree.sameDirectories_put_newPlace offered text
  have erased :=
    FileTree.erase_put (vacant.entry? offered) (.ofText text)
  rw [fileSystem]
  dsimp only
  rw [FileTree.toRename,
    FileTree.fileAt_of_newPlace (same.newPlace offered) isFile, ok_bind]
  dsimp only
  cases offered' :
      (tree.put place (.ofText text)).newPlace target with
  | error fault =>
      refine .inl ⟨fault, rfl, fun output isOutput => ?_⟩
      cases offered'.symm.trans (same.newPlace isOutput)
  | ok output =>
      rw [ok_bind]
      have isOutput := same.symm.newPlace offered'
      rcases disk.make_cases (tree.put place (.ofText text))
          (.rename place output text.toUTF8) with
        ⟨fault, stays, isRefused⟩ | ⟨isMade, isAllowed⟩
      · refine .inl ⟨fault, stays, fun output' isOutput' => ?_⟩
        cases isOutput.symm.trans isOutput'
        exact isRefused
      · refine .inr ⟨output, isOutput, isMade.trans ?_, isAllowed⟩
        rw [FileTree.apply, erased]
        rfl

/--
What replacing a file comes to if nothing exists at the path that the new text
is written to first.  If it fails, the tree is as it was, or there is one file
more, with a beginning of the text; that file stays only on a disk that breaks
the writing off or does not remove it again.  If it succeeds, the whole text is
at the place of the file, and nothing else has changed.
-/
theorem replace_cases
    (disk : Disk) (text : String)
    (vacant : tree.Vacant (temporaryPath path)) :
    (∃ fault, disk.fileSystem.replace path text tree =
      (some fault, tree)) ∨
    (∃ fault place size,
      tree.newPlace (temporaryPath path) = .ok place ∧
        disk.fileSystem.replace path text tree = (some fault,
          tree.put place (.file (text.toUTF8.extract 0 size))) ∧
        ¬ disk.Finishes tree (temporaryPath path) text) ∨
    ∃ output, tree.newPlace path = .ok output ∧
      disk.fileSystem.replace path text tree =
        (none, tree.put output (.ofText text)) := by
  rcases disk.write_cases tree (temporaryPath path) text with
    ⟨fault, fails, -⟩ | ⟨place, offered,
      ⟨fault, size, breaksOff, isRefused⟩ | isWritten⟩
  · exact .inl ⟨fault, by rw [replace_eq, fails]⟩
  · exact .inr (.inl ⟨fault, place, size, offered,
      by rw [replace_eq, breaksOff],
      fun finishes => isRefused (finishes.takes place offered)⟩)
  · rw [replace_eq, isWritten]
    dsimp only
    rcases disk.rename_cases path text vacant offered with
      ⟨fault, stays, -⟩ | ⟨output, offered', isRenamed, -⟩
    · rw [stays]
      dsimp only
      rcases disk.remove_cases text vacant offered with
        ⟨isRemoved, -⟩ | ⟨remains, isRefused⟩
      · exact .inl ⟨fault, by rw [isRemoved]⟩
      · refine .inr (.inl ⟨fault, place, text.toUTF8.size, offered, ?_,
          fun finishes => isRefused (finishes.removes place offered)⟩)
        rw [remains, ByteArray.extract_zero_size]
        rfl
    · rw [isRenamed]
      exact .inr (.inr ⟨output, offered', rfl⟩)

/-- A disk that refuses nothing replaces a file if there is a place for it and one beside it. -/
theorem replace_willing
    {output : Place} (text : String)
    (vacant : tree.Vacant (temporaryPath path))
    (offered : tree.newPlace (temporaryPath path) = .ok place)
    (offered' : tree.newPlace path = .ok output) :
    willing.fileSystem.replace path text tree =
      (none, tree.put output (.ofText text)) := by
  rcases willing.write_cases tree (temporaryPath path) text with
    ⟨fault, -, isRefused⟩ | ⟨place', isPlace,
      ⟨fault, size, -, isRefused⟩ | isWritten⟩
  · exact absurd rfl (isRefused place offered)
  · exact absurd rfl isRefused
  · rw [replace_eq, isWritten]
    dsimp only
    rcases willing.rename_cases path text vacant isPlace with
      ⟨fault, -, isRefused⟩ | ⟨output', isOutput, isRenamed, -⟩
    · exact absurd rfl (isRefused output offered')
    · cases isOutput.symm.trans offered'
      rw [isRenamed]

/-- On a disk that lets files be added only, the file that is made first stays behind. -/
theorem replace_addOnly
    (text : String) (vacant : tree.Vacant (temporaryPath path))
    (offered : tree.newPlace (temporaryPath path) = .ok place) :
    ∃ fault, addOnly.fileSystem.replace path text tree =
      (some fault, tree.put place (.ofText text)) := by
  rcases addOnly.write_cases tree (temporaryPath path) text with
    ⟨fault, -, isRefused⟩ | ⟨place', isPlace,
      ⟨fault, size, -, isRefused⟩ | isWritten⟩
  · exact absurd rfl (isRefused place offered)
  · exact absurd rfl isRefused
  · cases isPlace.symm.trans offered
    rw [replace_eq, isWritten]
    dsimp only
    rcases addOnly.rename_cases path text vacant offered with
      ⟨fault, stays, -⟩ | ⟨output, -, -, isAllowed⟩
    · rw [stays]
      dsimp only
      rcases addOnly.remove_cases text vacant offered with
        ⟨-, isAllowed⟩ | ⟨remains, -⟩
      · cases isAllowed
      · exact ⟨fault, by rw [remains]⟩
    · cases isAllowed

end Disk

/-! ## Runs -/

namespace Surroundings

open FileSystem (temporaryPath)

variable {surroundings : Surroundings} {disk : Disk} {tree : FileTree}
  {arguments : List String} {request : Request} {config : OutputConfig}
  {text : String}

theorem task_of_ending
    {ending : CommandLine.Stop}
    (ends : surroundings.parser arguments = .error ending) :
    surroundings.task arguments = .error (.stop ending) := by
  rw [task, ends]

theorem run_of_error
    {fault : RunFault}
    (fails : surroundings.task arguments = .error fault) :
    surroundings.run disk tree arguments = (fault.status, tree) := by
  rw [run, perform, fails]
  rfl

theorem run_of_generate_error
    {error : GenerateError}
    (isTask : surroundings.task arguments = .ok (request, config))
    (fails :
      tree.generate surroundings.context request config = .error error) :
    surroundings.run disk tree arguments = (1, tree) := by
  rw [run, perform, isTask]
  dsimp only
  rw [bind_apply, Disk.fileSystem]
  dsimp only
  rw [fails]
  rfl

/-- Once there is a text, a run comes to replacing the output file by it. -/
theorem run_of_generate
    (isTask : surroundings.task arguments = .ok (request, config))
    (generates :
      tree.generate surroundings.context request config = .ok text) :
    surroundings.run disk tree arguments =
      match disk.fileSystem.replace config.file text tree with
      | (none, after) => (0, after)
      | (some _, after) => (1, after) := by
  have isText :
      disk.fileSystem.generate surroundings.context request config tree =
        (.ok text, tree) := by
    rw [Disk.fileSystem]
    dsimp only
    rw [generates]
  rw [run, perform, isTask]
  dsimp only
  rw [bind_apply, isText]
  dsimp only
  rw [bind_apply]
  rcases disk.fileSystem.replace config.file text tree with
    ⟨_ | fault, after⟩
  · rfl
  · rfl

/-- Of the faults for which there is no task, only an end that the parser calls for is none. -/
theorem ending_of_status
    {fault : RunFault} (fails : surroundings.task arguments = .error fault)
    (isZero : fault.status = 0) :
    ∃ ending, surroundings.parser arguments = .error ending ∧
      ending.status = 0 := by
  rw [task] at fails
  cases parses : surroundings.parser arguments with
  | error ending =>
      rw [parses] at fails
      cases fails
      exact ⟨ending, rfl, isZero⟩
  | ok parsed =>
      rw [parses] at fails
      dsimp only at fails
      split at fails
      · cases fails
        cases isZero
      · cases fails

/--
A run leaves no part of a result.  Let nothing exist at the path that the new
text is written to first.  A run with an exit status other than zero leaves the
tree as it was, if the disk takes the text that is written and removes it again.
A run with status zero, on any disk, was ended by the parser of the arguments,
and leaves the tree as it was as well; or it has written the whole text that is
generated to the output file, and every other place of the tree is as it was.
-/
theorem run_leavesNoPart
    (vacant : ∀ request config,
      surroundings.task arguments = .ok (request, config) →
        tree.Vacant (temporaryPath config.file)) :
    ((surroundings.run disk tree arguments).1 ≠ 0 →
      (∀ request config text,
        surroundings.task arguments = .ok (request, config) →
        tree.generate surroundings.context request config = .ok text →
          disk.Finishes tree (temporaryPath config.file) text) →
      (surroundings.run disk tree arguments).2 = tree) ∧
    ((surroundings.run disk tree arguments).1 = 0 →
      (∃ ending, surroundings.parser arguments = .error ending ∧
        ending.status = 0 ∧
        (surroundings.run disk tree arguments).2 = tree) ∨
      ∃ request config text output after,
        surroundings.task arguments = .ok (request, config) ∧
          tree.generate surroundings.context request config = .ok text ∧
          tree.newPlace config.file = .ok output ∧
          (surroundings.run disk tree arguments).2 = after ∧
          after.read config.file = .ok text ∧
          after.workingDirectory = tree.workingDirectory ∧
          ∀ place, place ≠ output →
            after.entry? place = tree.entry? place) := by
  cases isTask : surroundings.task arguments with
  | error fault =>
      rw [run_of_error isTask]
      refine ⟨fun _ _ => rfl, fun isZero => .inl ?_⟩
      rcases ending_of_status isTask isZero with ⟨ending, ends, isZero⟩
      exact ⟨ending, ends, isZero, rfl⟩
  | ok asked =>
      rcases asked with ⟨request, config⟩
      cases generates :
          tree.generate surroundings.context request config with
      | error error =>
          rw [run_of_generate_error isTask generates]
          exact ⟨fun _ _ => rfl, fun isZero => nomatch isZero⟩
      | ok text =>
          rw [run_of_generate isTask generates]
          rcases disk.replace_cases text (vacant request config isTask)
            with ⟨fault, fails⟩ | ⟨fault, place, size, -, fails, unfinished⟩ |
              ⟨output, offered, replaces⟩
          · rw [fails]
            exact ⟨fun _ _ => rfl, fun isZero => nomatch isZero⟩
          · rw [fails]
            refine ⟨fun _ finishes => absurd ?_ unfinished,
              fun isZero => nomatch isZero⟩
            exact finishes request config text rfl generates
          · rw [replaces]
            refine ⟨fun failed => absurd rfl failed, fun _ => .inr
              ⟨request, config, text, output, _, rfl, generates, offered,
                rfl, FileTree.read_put offered text, rfl, ?_⟩⟩
            intro place isOther
            exact FileTree.entry?_put_of_ne isOther _

/-! ## A run beside a struct -/

/-- A module with a struct, and a directory beside it. -/
def box : FileTree :=
  ⟨["m"], [(["m"], .directory), (["m", "go.mod"], .ofText "module m\n"),
    (["m", "box.go"],
      .ofText "package m\ntype Box struct \x7b key string \x7d\n"),
    (["m", "out"], .directory)]⟩

/-- A run in this module, with the parser of the program. -/
def inBox : Surroundings :=
  ⟨CommandLine.parse, .ofPlatform "linux" "amd64", fun _ => none, "/m"⟩

/-- The arguments that ask for the union of the struct. -/
def boxArguments : List String :=
  ["-t", "Box", "--src", "box.go", "--out-pkg", "m"]

/-- What they ask for, with an output file and a command. -/
def boxConfig (file command : String) : OutputConfig :=
  ⟨"BoxUnion", file, "m", none, some command,
    ⟨false, true, true, true, true⟩⟩

@[simp]
theorem boxConfig_file (file command : String) :
    (boxConfig file command).file = file :=
  rfl

theorem box_task :
    inBox.task boxArguments = .ok (⟨"/m/box.go", "Box"⟩,
      boxConfig "box_gunion.go"
        "gunion -t Box --src box.go --out-pkg m") :=
  eq_ok_of_toOption (by decide +kernel)

theorem box_task_out :
    inBox.task (boxArguments ++ ["-o", "out"]) =
      .ok (⟨"/m/box.go", "Box"⟩,
        boxConfig "out"
          "gunion -t Box --src box.go --out-pkg m -o out") :=
  eq_ok_of_toOption (by decide +kernel)

theorem box_vacant
    {path : String} (isPath : path ∈ ["box_gunion.go", "out"]) :
    box.Vacant (temporaryPath path) := by
  have notFound : ∀ path ∈ ["box_gunion.go", "out"],
      (box.find (temporaryPath path)).toOption.isNone := by
    decide +kernel
  intro entry found
  have isNone := notFound path isPath
  rw [found] at isNone
  cases isNone

theorem box_generates
    {config : OutputConfig} (isConfig : config ∈
      [boxConfig "box_gunion.go" "gunion -t Box --src box.go --out-pkg m",
        boxConfig "out" "gunion -t Box --src box.go --out-pkg m -o out"]) :
    ∃ text, box.generate inBox.context ⟨"/m/box.go", "Box"⟩ config =
      .ok text := by
  have inOrder :
      sourceFiles inBox.context (box.children ["m"]) = [("box.go",
        .ofText "package m\ntype Box struct \x7b key string \x7d\n")] := by
    rw [sourceFiles]
    exact List.mergeSort_singleton _
  have isDirectory :
      box.canonical (Path.directoryOf "/m/box.go") = .ok "/m" :=
    eq_ok_of_toOption (by decide +kernel)
  have isModule : box.findModule "/m" = .ok ("/m", "m") :=
    eq_ok_of_toOption (by decide +kernel)
  have lists : box.list "/m" = .ok (box.children ["m"]) := rfl
  have areTexts :
      (box.load inBox.context ⟨"/m/box.go", "Box"⟩).toOption.any (fun type =>
        [boxConfig "box_gunion.go" "gunion -t Box --src box.go --out-pkg m",
          boxConfig "out"
            "gunion -t Box --src box.go --out-pkg m -o out"].all
          fun config => (type.generate config).toOption.isSome) = true := by
    rw [FileTree.load, isDirectory]
    dsimp only
    rw [FileTree.loadFrom, isModule, ok_bind]
    dsimp only
    rw [FileTree.package, lists]
    dsimp only
    rw [Package.ofListing, inOrder]
    decide +kernel
  rcases (Option.any_eq_true _ _).mp areTexts with ⟨type, isLoaded, areTexts⟩
  have isText := List.all_eq_true.mp areTexts config isConfig
  rcases Option.isSome_iff_exists.mp isText with ⟨text, isText⟩
  refine ⟨text, ?_⟩
  rw [FileTree.generate, eq_ok_of_toOption isLoaded]
  exact eq_ok_of_toOption isText

/-- The union is written beside its struct.  It cannot take the place of a directory. -/
theorem run_leavesNoPart_box :
    (∃ request config text after,
      inBox.task boxArguments = .ok (request, config) ∧
        box.generate inBox.context request config = .ok text ∧
        inBox.run .willing box boxArguments = (0, after) ∧
        after.read "box_gunion.go" = .ok text ∧
        ∀ place, place ≠ ["m", "box_gunion.go"] →
          after.entry? place = box.entry? place) ∧
      inBox.run .willing box (boxArguments ++ ["-o", "out"]) =
        (1, box) := by
  have isTemporary :
      box.newPlace (temporaryPath "box_gunion.go") =
        .ok ["m", ".box_gunion.go.gunion-tmp"] :=
    eq_ok_of_toOption (by decide +kernel)
  have isOutput :
      box.newPlace "box_gunion.go" = .ok ["m", "box_gunion.go"] :=
    eq_ok_of_toOption (by decide +kernel)
  have isNone : (box.newPlace "out").toOption.isNone = true := by
    decide +kernel
  have noPart := @run_leavesNoPart inBox .willing box boxArguments
    (fun request config isTask => by
      cases box_task.symm.trans isTask
      exact box_vacant (by decide))
  have noPart' := @run_leavesNoPart inBox .willing box
    (boxArguments ++ ["-o", "out"])
    (fun request config isTask => by
      cases box_task_out.symm.trans isTask
      exact box_vacant (by decide))
  constructor
  case left =>
    rcases box_generates (List.mem_cons_self ..) with ⟨text, generates⟩
    have succeeds : (inBox.run .willing box boxArguments).1 = 0 := by
      rw [run_of_generate box_task generates, boxConfig_file,
        Disk.replace_willing text (box_vacant (by decide)) isTemporary
          isOutput]
    rcases noPart.2 succeeds with ⟨ending, ends, -⟩ |
      ⟨request, config, text', output, after, isTask, isText, offered,
        isAfter, reads, -, others⟩
    · cases box_task.symm.trans (task_of_ending ends)
    · cases box_task.symm.trans isTask
      cases isOutput.symm.trans offered
      exact ⟨_, _, text', after, box_task, isText,
        Prod.ext succeeds isAfter, reads, others⟩
  case right =>
    rcases box_generates (List.mem_cons_of_mem _ (List.mem_cons_self ..))
      with ⟨text, generates⟩
    have fails :
        (inBox.run .willing box (boxArguments ++ ["-o", "out"])).1 =
          1 := by
      rw [run_of_generate box_task_out generates, boxConfig_file]
      have vacant : box.Vacant (temporaryPath "out") :=
        box_vacant (by decide)
      rcases Disk.willing.replace_cases text vacant with
        ⟨fault, fails⟩ | ⟨fault, place, size, -, fails, -⟩ |
          ⟨output, offered, -⟩
      · rw [fails]
      · rw [fails]
      · rw [offered] at isNone
        cases isNone
    refine Prod.ext fails (noPart'.1 (by rw [fails]; decide) ?_)
    exact fun _ _ _ _ _ => Disk.finishes_willing _ _ _

/--
Two ways in which a run is not what one might think.  With a wish for help among
the arguments it has status zero, and there is no output file.  On a disk that
lets files be added only, the new file can neither take the place of the output
nor be removed, so the run fails and this file stays behind.
-/
theorem run_leavesNoPart_exceptions :
    box.Vacant (temporaryPath "box_gunion.go") ∧
      (inBox.run .willing box (boxArguments ++ ["--help"]) = (0, box) ∧
        ∀ text, box.read "box_gunion.go" ≠ .ok text) ∧
      ∃ after text,
        inBox.run .addOnly box boxArguments = (1, after) ∧
          after.read (temporaryPath "box_gunion.go") = .ok text := by
  refine ⟨box_vacant (by decide), ⟨?_, ?_⟩, ?_⟩
  case refine_1 =>
    have ends :
        inBox.parser (boxArguments ++ ["--help"]) =
          .error ⟨0, CommandLine.usage⟩ := by
      rfl
    exact run_of_error (task_of_ending ends)
  case refine_2 =>
    have isNone : (box.read "box_gunion.go").toOption.isNone = true := by
      decide +kernel
    intro text reads
    rw [reads] at isNone
    cases isNone
  case refine_3 =>
    have isTemporary :
        box.newPlace (temporaryPath "box_gunion.go") =
          .ok ["m", ".box_gunion.go.gunion-tmp"] :=
      eq_ok_of_toOption (by decide +kernel)
    rcases box_generates (List.mem_cons_self ..) with ⟨text, generates⟩
    rcases Disk.replace_addOnly text (box_vacant (by decide)) isTemporary
      with ⟨fault, fails⟩
    refine ⟨_, text, ?_, FileTree.read_put isTemporary text⟩
    rw [run_of_generate box_task generates, boxConfig_file, fails]

end Surroundings

end GoUnion
