import GoUnion.Package.Directory
import GoUnion.Proofs.Scoping
import Mathlib.Data.List.Nodup
import Mathlib.Data.List.Sort

/-!
# Selected files

A directory may hold anything besides the files of its package.  What a package
is made of are the selected files: those that have the name of a source file for
the platform and that are not kept out by their header.  A file that cannot be
read, or whose constraints cannot, is selected, since nothing is known against
it.

All other entries are passed over wherever they stand and whatever they hold,
and the selected files are taken in the order of their names.  So two
directories with the same selected files make the same package, or fail with the
same error.
-/

namespace GoUnion

open Reader (bind_eq_ok ok_bind)

/-- A file that takes part in loading a directory: it has the name of a source file that is built
on the platform, and its header, if it can be read, does not keep it out. -/
structure Selects
    (context : Build.Context) (directory : String)
    (file : String × Entry) : Prop where
  isFile : file.2.isDirectory = false
  isSource : isSourceName context file.1 = true
  isAdmitted : ∀ text,
    FileTree.textAt (Path.join directory file.1) file.2 = .ok text →
      context.admitsSource text.toList ≠ .ok false

namespace Package

variable {context : Build.Context} {directory : String}

/-- Whether the header of a file keeps it out. -/
def isKeptOut
    (context : Build.Context) (directory : String)
    (file : String × Entry) : Bool :=
  match admittedText? context (Path.join directory file.1) file.2 with
  | .ok none => true
  | _ => false

theorem isKeptOut_iff {file : String × Entry} :
    isKeptOut context directory file = true ↔
      ∃ text,
        FileTree.textAt (Path.join directory file.1) file.2 = .ok text ∧
          context.admitsSource text.toList = .ok false := by
  unfold isKeptOut admittedText?
  cases FileTree.textAt (Path.join directory file.1) file.2 with
  | error fault => simp
  | ok text =>
      simp only [Except.ok.injEq, exists_eq_left']
      cases context.admitsSource text.toList with
      | error fault => simp
      | ok isAdmitted => cases isAdmitted <;> simp

theorem selects_iff {file : String × Entry} :
    Selects context directory file ↔
      (!file.2.isDirectory && isSourceName context file.1 &&
        !isKeptOut context directory file) = true := by
  rw [Bool.and_eq_true, Bool.and_eq_true, Bool.not_eq_true',
    Bool.not_eq_true', ← Bool.not_eq_true
      (isKeptOut context directory file), isKeptOut_iff, and_assoc]
  constructor
  · rintro ⟨isFile, isSource, isAdmitted⟩
    exact ⟨isFile, isSource, fun ⟨text, reads, keepsOut⟩ =>
      isAdmitted text reads keepsOut⟩
  · rintro ⟨isFile, isSource, notKeptOut⟩
    exact ⟨isFile, isSource, fun text reads keepsOut =>
      notKeptOut ⟨text, reads, keepsOut⟩⟩

instance (file : String × Entry) :
    Decidable (Selects context directory file) :=
  decidable_of_iff _ selects_iff.symm

/-- The selected files of a listing, in the order of their names. -/
def selectedFiles
    (context : Build.Context) (directory : String)
    (listing : List (String × Entry)) : List (String × Entry) :=
  (sourceFiles context listing).filter (!isKeptOut context directory ·)

variable {listing listing' : List (String × Entry)}

theorem mem_selectedFiles {file : String × Entry} :
    file ∈ selectedFiles context directory listing ↔
      file ∈ listing ∧ Selects context directory file := by
  rw [selectedFiles, sourceFiles, List.mem_filter, List.mem_mergeSort,
    List.mem_filter, and_assoc, selects_iff, Bool.and_eq_true _
      (!isKeptOut context directory file)]

theorem selectedFiles_ordered
    (context : Build.Context) (directory : String)
    (listing : List (String × Entry)) :
    (selectedFiles context directory listing).Pairwise
      fun first second => first.1 ≤ second.1 := by
  let before (first second : String × Entry) : Bool :=
    first.1 ≤ second.1
  have trans (first second third : String × Entry)
      (less : before first second = true)
      (less' : before second third = true) :
      before first third = true :=
    decide_eq_true (String.le_trans (of_decide_eq_true less)
      (of_decide_eq_true less'))
  have total (first second : String × Entry) :
      (before first second || before second first) = true := by
    rw [Bool.or_eq_true, decide_eq_true_eq, decide_eq_true_eq]
    exact String.le_total first.1 second.1
  exact List.Pairwise.filter _ ((List.pairwise_mergeSort trans total _).imp
    of_decide_eq_true)

theorem selectedFiles_nodup
    (distinct : (listing.map (·.1)).Nodup) :
    (selectedFiles context directory listing).Nodup := by
  have sorted (files : List (String × Entry)) :=
    List.mergeSort_perm files fun first second => first.1 ≤ second.1
  exact ((sorted _).nodup_iff.mpr (distinct.of_map.filter _)).filter _

/-- Listings with the same selected files list them in the same order. -/
theorem selectedFiles_eq
    (distinct : (listing.map (·.1)).Nodup)
    (distinct' : (listing'.map (·.1)).Nodup)
    (same : ∀ file, file ∈ listing ∧ Selects context directory file ↔
      file ∈ listing' ∧ Selects context directory file) :
    selectedFiles context directory listing =
      selectedFiles context directory listing' := by
  have perm :
      (selectedFiles context directory listing).Perm
        (selectedFiles context directory listing') := by
    refine (List.perm_ext_iff_of_nodup (selectedFiles_nodup distinct)
      (selectedFiles_nodup distinct')).mpr fun file => ?_
    rw [mem_selectedFiles, mem_selectedFiles, same]
  refine perm.eq_of_pairwise ?_ (selectedFiles_ordered ..)
    (selectedFiles_ordered ..)
  -- Names are distinct within one listing, so both files are taken to the first one.
  intro first second isFirst isSecond le ge
  have isSecond' := perm.mem_iff.mpr isSecond
  exact List.inj_on_of_nodup_map distinct
    (mem_selectedFiles.mp isFirst).1 (mem_selectedFiles.mp isSecond').1
    (String.le_antisymm le ge)

/-- Files that are kept out contribute nothing, not even an error. -/
theorem admittedTexts_filter (files : List (String × Entry)) :
    admittedTexts context directory
        (files.filter (!isKeptOut context directory ·)) =
      admittedTexts context directory files := by
  induction files with
  | nil => rfl
  | cons file files ih =>
      rcases file with ⟨name, entry⟩
      rw [List.filter_cons]
      split
      case isTrue => rw [admittedTexts, admittedTexts, ih]
      case isFalse keptOut =>
        have isNone :
            admittedText? context (Path.join directory name) entry =
              .ok none := by
          rw [Bool.not_eq_true, Bool.not_eq_false'] at keptOut
          unfold isKeptOut at keptOut
          split at keptOut
          case h_1 isNone => exact isNone
          case h_2 => cases keptOut
        rw [ih, admittedTexts, isNone, ok_bind]
        exact (bind_pure (admittedTexts context directory files)).symm

/-- The package of a listing is that of its selected files. -/
theorem ofListing_eq (path : String) :
    ofListing context directory path listing =
      admittedTexts context directory
          (selectedFiles context directory listing) >>=
        ofTexts directory path := by
  rw [ofListing, selectedFiles, admittedTexts_filter]

end Package

/-! ## Directories of a tree -/

namespace FileTree

/-- Every place of a tree has one entry at most. -/
def OneEach (tree : FileTree) : Prop :=
  (tree.entries.map (·.1)).Nodup

instance (tree : FileTree) : Decidable tree.OneEach :=
  inferInstanceAs (Decidable (List.Nodup _))

theorem eq_of_nameIn?
    {directory place : Place} {name : String}
    (isIn : nameIn? directory place = some name) :
    place = directory ++ [name] := by
  rw [nameIn?] at isIn
  split at isIn
  case isTrue above =>
    rw [← above, List.dropLast_append_getLast? name isIn]
  case isFalse => cases isIn

/-- A directory lists every name once. -/
theorem OneEach.children
    {tree : FileTree} (oneEach : tree.OneEach) (directory : Place) :
    ((tree.children directory).map (·.1)).Nodup := by
  have names :
      (tree.children directory).map (·.1) =
        (tree.entries.map (·.1)).filterMap (nameIn? directory) := by
    rw [FileTree.children, List.map_filterMap, List.filterMap_map]
    congr 1
    funext ⟨place, entry⟩
    rw [Option.map_map]
    exact Option.map_id'
  rw [names]
  refine List.Nodup.filterMap ?_ oneEach
  intro place place' name isIn isIn'
  rw [eq_of_nameIn? isIn, eq_of_nameIn? isIn']

theorem OneEach.list
    {tree : FileTree} (oneEach : tree.OneEach) {directory : String}
    {listing : List (String × Entry)}
    (lists : tree.list directory = .ok listing) :
    (listing.map (·.1)).Nodup := by
  rcases bind_eq_ok lists with ⟨place, -, lists⟩
  split at lists
  case h_1 =>
    cases lists
    exact oneEach.children place
  case h_2 => cases lists

/--
Loading a directory depends on its selected files only.  Two trees may hold
anything else in the directory, and list it in any order: if they agree on the
names and the contents of the selected files, loading gives the same package or
fails with the same error.
-/
theorem package_eq_of_selects
    {tree tree' : FileTree} {context : Build.Context}
    {directory : String} {listing listing' : List (String × Entry)}
    (oneEach : tree.OneEach) (oneEach' : tree'.OneEach)
    (lists : tree.list directory = .ok listing)
    (lists' : tree'.list directory = .ok listing')
    (same : ∀ file, file ∈ listing ∧ Selects context directory file ↔
      file ∈ listing' ∧ Selects context directory file)
    (path : String) :
    tree.package context directory path =
      tree'.package context directory path := by
  rw [FileTree.package, FileTree.package, lists, lists']
  dsimp only
  rw [Package.ofListing_eq, Package.ofListing_eq,
    Package.selectedFiles_eq (oneEach.list lists) (oneEach'.list lists')
      same]

/-- Two files listed in either order, among entries of every kind that is passed over. -/
theorem package_eq_of_selects_handles :
    let context := Build.Context.ofPlatform "linux" "amd64"
    let handle := ("handle.go",
      Entry.ofText "package fd\ntype Handle struct \x7b n Number \x7d\n")
    let number := ("number.go", Entry.ofText "package fd\ntype Number int\n")
    let passed : List (String × Entry) :=
      [("handle_test.go", .ofText "("), (".go", .ofText "("),
        ("_old.go", .ofText "package fd\ntype Handle int\n"),
        ("fd_windows.go", .ofText "//go:build (\n\npackage dos\n"),
        ("fd_other.go", .ofText "//go:build !unix\n\npackage dos\n("),
        ("inner.go", .directory), ("raw.txt", .file ⟨#[255]⟩)]
    let listed (listing : List (String × Entry)) : FileTree :=
      ⟨[], (["fd"], .directory) ::
        listing.map fun (name, entry) => (["fd", name], entry)⟩
    let tree := listed (number :: (passed ++ [handle]))
    let tree' := listed [handle, number]
    ∃ package, tree'.package context "/fd" "m/fd" = .ok package ∧
      tree.package context "/fd" "m/fd" = .ok package := by
  intro context handle number passed listed tree tree'
  have arePassed : ∀ file ∈ passed, ¬ Selects context "/fd" file := by
    decide +kernel
  have lists :
      tree.list "/fd" = .ok (number :: (passed ++ [handle])) := rfl
  have lists' : tree'.list "/fd" = .ok [handle, number] := rfl
  have same (file : String × Entry) :
      file ∈ number :: (passed ++ [handle]) ∧
          Selects context "/fd" file ↔
        file ∈ [handle, number] ∧ Selects context "/fd" file := by
    simp only [List.mem_cons, List.mem_append, List.not_mem_nil, or_false]
    refine and_congr_left fun selects => ?_
    have notPassed := fun isPassed => arePassed file isPassed selects
    tauto
  have areSources : ∀ file ∈ [handle, number],
      (!file.2.isDirectory && isSourceName context file.1) = true := by
    decide +kernel
  have inOrder :
      sourceFiles context [handle, number] = [handle, number] := by
    rw [sourceFiles, List.filter_eq_self.mpr areSources]
    exact List.mergeSort_of_pairwise (by decide +kernel)
  have isSome :
      (tree'.package context "/fd" "m/fd").toOption.isSome = true := by
    rw [FileTree.package, lists']
    dsimp only
    rw [Package.ofListing, inOrder]
    decide +kernel
  rcases Option.isSome_iff_exists.mp isSome with ⟨package, isLoaded⟩
  have loads' := eq_ok_of_toOption isLoaded
  have agree := package_eq_of_selects (by decide) (by decide) lists lists'
    same "m/fd"
  exact ⟨package, loads', agree.trans loads'⟩

end FileTree

end GoUnion
