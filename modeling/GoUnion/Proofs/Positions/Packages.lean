import GoUnion.Proofs.Positions.Faults.Files
import GoUnion.Proofs.Positions.Resolution
import GoUnion.Proofs.Structures
import GoUnion.Proofs.WellFormed.Expansion

/-!
# Positions of packages

The files of a package keep the texts that they were read from, so a declaration
is resolved against pieces that are placed in one of the texts, also where
resolution goes on in another file.
-/

namespace GoUnion

open Text (Span)
open Reader (bind_eq_ok)

variable {texts : List (String × List Char)} {package : Package}

/-! ## Declarations of texts -/

/-- A package all of whose files were read from some texts. -/
def Package.IsOf
    (texts : List (String × List Char)) (package : Package) : Prop :=
  ∀ file ∈ package.files,
    (file.path, file.text) ∈ texts ∧
      AllPieces (·.Placed file.text) file.syntaxTree.pieces

theorem Package.isOf_of_forall₂
    (related : List.Forall₂
      (fun source file => PackageFile.ofText source.1 source.2 = .ok file)
      texts package.files) :
    package.IsOf texts := by
  intro file isFile
  rcases exists_of_forall₂ related isFile with ⟨source, isText, reads⟩
  rcases ofText_eq_ok reads with ⟨syntaxTree, parses, rfl⟩
  exact ⟨isText, SourceFile.placed_of_ofSource parses⟩

theorem TypeDeclaration.pieces_subset
    {file : SourceFile} {declaration : TypeDeclaration}
    (isType : declaration ∈ file.types) :
    declaration.pieces ⊆ file.pieces := by
  intro piece isPiece
  have isOne : piece ∈ file.types.flatMap (·.pieces) :=
    List.mem_flatMap.mpr ⟨declaration, isType, isPiece⟩
  exact List.mem_cons_of_mem _
    (List.mem_append_right _ (List.mem_append_left _ isOne))

/-- A declaration whose pieces are placed in the text of its file, which is one of some texts. -/
structure Declared.IsOf
    (texts : List (String × List Char)) (declared : Declared) : Prop where
  isText : (declared.file.path, declared.file.text) ∈ texts
  placed : AllPieces (·.Placed declared.file.text) declared.declaration.pieces

namespace Declared.IsOf

variable {declared : Declared}

theorem parameters (isOf : declared.IsOf texts) :
    AllPieces (·.Placed declared.file.text)
      (declared.declaration.parameters.flatMap (·.pieces)) :=
  isOf.placed.tail.left

theorem type (isOf : declared.IsOf texts) :
    AllPieces (·.Placed declared.file.text) declared.declaration.type.pieces :=
  isOf.placed.tail.right

theorem shallow (isOf : declared.IsOf texts) :
    (Scope.shallow package declared).Located texts where
  isText := isOf.isText
  carried _ _ := .ok []

end Declared.IsOf

theorem Package.IsOf.declared
    (isOf : package.IsOf texts) {declared : Declared}
    (isDeclared : declared ∈ package.declared) :
    declared.IsOf texts := by
  rcases List.mem_flatMap.mp isDeclared with ⟨file, isFile, inFile⟩
  rcases List.mem_map.mp inFile with ⟨declaration, isNamed, rfl⟩
  rcases isOf file isFile with ⟨isText, placed⟩
  have isType := List.mem_of_mem_filter isNamed
  exact ⟨isText, fun piece isPiece =>
    placed piece (TypeDeclaration.pieces_subset isType isPiece)⟩

/-- Inside a declaration, a reference to another one is resolved in the file of the other. -/
theorem Declared.IsOf.scope
    {declared : Declared} (isOf : declared.IsOf texts)
    (all : package.IsOf texts) :
    (Scope.ofDeclared package declared).Located texts where
  isText := isOf.isText
  carried _ isOther :=
    failsOnly_denoteParameters (all.declared isOther).shallow.confines
      (all.declared isOther).parameters

/-! ## Expanding -/

/-- A declaration fails to have a structure at a declaration on its chain, be it that this one
names another or that it has no structure of its own. -/
theorem failsOnly_underlying
    (all : package.IsOf texts) {steps : Nat} {declared : Declared}
    (isDeclared : declared ∈ package.declared) :
    FailsOnly (·.Located texts) (package.underlying steps declared) := by
  have isOf := all.declared isDeclared
  have located := isOf.scope all
  cases names : package.next? declared with
  | none =>
      rw [Package.underlying_of_next?_eq_none names]
      exact Scope.failsOnly_structureOf located.confines
        (fun _ index name isLocated => isLocated.inField index name)
        isOf.type
  | some target =>
      cases steps with
      | zero =>
          rw [Package.underlying_next?_zero names]
          exact .error (located.unsupported
            (isOf.type _ (TypeExpr.mem_pieces _)).valid _)
      | succ steps =>
          rw [Package.underlying_next? names]
          -- The declaration that is followed may stand in another file.
          exact failsOnly_underlying all
            (Package.mem_declared_of_next? names)

theorem failsOnly_expand
    (all : package.IsOf texts) (name : String) :
    FailsOnly (·.Located texts) (package.expand name) := by
  rw [Package.expand]
  split
  case h_1 => exact .error (LoadError.located_of_none rfl)
  case h_2 declared found =>
    have isDeclared := List.mem_of_find?_eq_some found
    have isOf := all.declared isDeclared
    apply (failsOnly_denoteParameters (isOf.scope all).confines
      isOf.parameters).bind
    intro parameters _
    exact (failsOnly_underlying all isDeclared).andReturn

/-! ## Loading -/

theorem failsOnly_ofText
    {path : String} {text : List Char} (isText : (path, text) ∈ texts) :
    FailsOnly (·.Located texts) (PackageFile.ofText path text) := by
  rw [PackageFile.ofText]
  split
  case h_1 => exact .ok _
  case h_2 error fails =>
    exact .error (LoadError.located_of_valid isText rfl
      (SourceFile.valid_of_ofSource fails) (by rintro _ _ ⟨⟩))

theorem mem_of_firstRepeated?
    {seen : List String} {list : List Declared} {repeated : Declared}
    (found : Declared.firstRepeated? seen list = some repeated) :
    repeated ∈ list := by
  induction list generalizing seen with
  | nil => cases found
  | cons declared list ih =>
      rw [Declared.firstRepeated?] at found
      split at found
      case isTrue =>
        cases found
        exact List.mem_cons_self
      case isFalse => exact List.mem_cons_of_mem _ (ih found)

theorem failsOnly_ofFiles
    {directory path : String} {files : List PackageFile}
    (all : ∀ name, (Package.mk name path files).IsOf texts) :
    FailsOnly (·.Located texts)
      (Package.ofFiles directory path files) := by
  cases files with
  | nil => exact .error (LoadError.located_of_none rfl)
  | cons first others =>
      apply FailsOnly.bind
      · rw [Package.commonName]
        split
        case h_1 => exact .ok _
        case h_2 => exact .error (LoadError.located_of_none rfl)
      · intro name _
        dsimp only
        split
        case h_1 => exact .ok _
        case h_2 repeated found =>
          have isOf := (all name).declared (mem_of_firstRepeated? found)
          exact .error (LoadError.located_of_valid isOf.isText rfl
            isOf.placed.head.valid (by rintro _ _ ⟨⟩))

theorem failsOnly_ofTexts (directory path : String) :
    FailsOnly (·.Located texts)
      (Package.ofTexts directory path texts) := by
  apply FailsOnly.bind
  · apply FailsOnly.mapM
    intro source isText
    exact failsOnly_ofText isText
  · intro files reads
    apply failsOnly_ofFiles
    intro name
    exact Package.isOf_of_forall₂ (mapM_eq_ok reads)

/-- All positions are valid and truthful: those of a source file and of the errors of its text,
and those of the errors of loading a package and of expanding a name in it. -/
theorem positions_truthful
    (context : Build.Context) (text : List Char)
    (directory path name : String) (texts : List (String × List Char)) :
    (match SourceFile.ofSource text with
      | .ok file => ∀ piece ∈ file.pieces, piece.Placed text
      | .error error => error.span.Valid text) ∧
    (match context.admitsSource text with
      | .ok _ => True
      | .error error => error.span.Valid text) ∧
    (match Package.ofTexts directory path texts with
      | .ok package =>
        match package.expand name with
        | .ok _ => True
        | .error error => error.Located texts
      | .error error => error.Located texts) := by
  refine ⟨?_, ?_, ?_⟩
  · split
    case h_1 file parses => exact SourceFile.placed_of_ofSource parses
    case h_2 error fails => exact SourceFile.valid_of_ofSource fails
  · split
    case h_1 => trivial
    case h_2 error fails =>
      exact Build.Context.valid_of_admitsSource fails
  · split
    case h_1 package loads =>
      split
      case h_1 => trivial
      case h_2 error fails =>
        have all := Package.isOf_of_forall₂ (ofTexts_files loads)
        exact failsOnly_expand all name error fails
    case h_2 error fails =>
      exact failsOnly_ofTexts directory path error fails

/-- The error of a constraint stands in the file of the constraint, not in that of the struct that
refers to its declaration. -/
theorem positions_truthful_constraint :
    ∃ texts, texts =
        [("pair.go", ("package pairs\n" ++
            "type Pair struct \x7b key Key[int] \x7d").toList),
          ("key.go", ("package pairs\n" ++
            "type Key[T Missing] struct \x7b\x7d").toList)] ∧
      ∃ package location,
        Package.ofTexts "pairs" "example/pairs" texts = .ok package ∧
          package.expand "Pair" =
            .error (.undefined (.plain "Missing") location) ∧
          location = ⟨"key.go", ⟨25, 32⟩, 2, 12⟩ ∧
          (LoadError.undefined (.plain "Missing") location).Located
            texts := by
  refine ⟨_, rfl, ?_⟩
  generalize isTexts : [(_, _), (_, _)] = texts
  have truthful :=
    (positions_truthful (.ofPlatform "linux" "amd64") [] "pairs"
      "example/pairs" "Pair" texts).2.2
  generalize loads : Package.ofTexts _ _ texts = result at truthful ⊢
  have seen :
      (result.map fun package => (package.expand "Pair").map fun _ => ()) =
        .ok (.error (.undefined (.plain "Missing")
          ⟨"key.go", ⟨25, 32⟩, 2, 12⟩)) := by
    rw [← loads, ← isTexts]
    decide +kernel
  rcases map_eq_ok seen with ⟨package, rfl, fails⟩
  have fails := map_eq_error fails
  dsimp only at truthful
  rw [fails] at truthful
  exact ⟨package, _, rfl, fails, rfl, truthful⟩

end GoUnion
