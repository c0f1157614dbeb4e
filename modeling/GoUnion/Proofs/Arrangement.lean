import GoUnion.Proofs.NamedRoots
import GoUnion.Proofs.Regeneration
import Mathlib.Data.List.Perm.Basic

/-!
# The arrangement of files

A package is given as a list of files, but a declaration is looked up by its
name.  Where no name is declared twice there is at most one answer, so it does
not matter in which order the files are listed: every declaration is expanded to
the same, or fails with the same error at the same place.

Further files may join the list wherever they like.  If the names that they
declare are free, the package with them extends the package without them, and
whatever could be expanded before is expanded to the same.
-/

namespace GoUnion

open Reader (bind_eq_ok ok_bind)
open Text (Span)

/-! ## Looking up in a permuted list -/

section Lookup

variable {α : Type} {items order : List α}

/-- What at most one item passes is found wherever that item stands. -/
theorem find?_of_perm
    {test : α → Bool} (perm : order.Perm items)
    (atMostOne : (items.filter test).length ≤ 1) :
    order.find? test = items.find? test := by
  have passing : (order.filter test).Perm (items.filter test) :=
    perm.filter test
  rw [← List.head?_filter, ← List.head?_filter]
  cases shape : items.filter test with
  | nil =>
      rw [shape] at passing
      rw [passing.eq_nil]
  | cons first rest =>
      rw [shape, List.length_cons] at atMostOne
      have isLast : rest = [] := List.length_eq_zero_iff.mp (by omega)
      rw [shape, isLast] at passing
      rw [List.perm_singleton.mp passing, isLast]

/-- Of items with different names at most one has a given name. -/
theorem length_filter_le_one
    {name : α → String} (distinct : (items.map name).Nodup)
    (wanted : String) :
    (items.filter (name · = wanted)).length ≤ 1 := by
  have counted := List.nodup_iff_count_le_one.mp distinct wanted
  rw [List.count_eq_countP, List.countP_map,
    List.countP_eq_length_filter] at counted
  exact counted

end Lookup

/-! ## The same answers about names -/

/-- Two packages that give the same answers about names. -/
structure Package.SameAnswers (package package' : Package) : Prop where
  path : package'.path = package.path
  type? : package'.type? = package.type?
  constant? : package'.constant? = package.constant?
  typeCount : package'.typeCount = package.typeCount

section Denotation

variable {scope scope' : Scope}

mutual

/-- What an expression denotes depends on its scope only by the names and the array lengths. -/
theorem TypeExpr.denote_congr
    (names : scope'.resolve = scope.resolve)
    (lengths : scope'.arrayLength = scope.arrayLength) :
    ∀ expression : TypeExpr,
      expression.denote scope' = expression.denote scope
  | .name _ _ _ arguments => by
      rw [TypeExpr.denote, TypeExpr.denote, names,
        denoteAll_congr names lengths arguments]
  | .pointer _ element => by
      rw [TypeExpr.denote, TypeExpr.denote,
        element.denote_congr names lengths]
  | .array _ _ element => by
      rw [TypeExpr.denote, TypeExpr.denote, lengths,
        element.denote_congr names lengths]
  | .slice _ element => by
      rw [TypeExpr.denote, TypeExpr.denote,
        element.denote_congr names lengths]
  | .map _ key value => by
      rw [TypeExpr.denote, TypeExpr.denote, key.denote_congr names lengths,
        value.denote_congr names lengths]
  | .channel _ _ element => by
      rw [TypeExpr.denote, TypeExpr.denote,
        element.denote_congr names lengths]
  | .function _ type => by
      rw [TypeExpr.denote, TypeExpr.denote, type.denote_congr names lengths]
  | .record _ fields => by
      rw [TypeExpr.denote, TypeExpr.denote,
        denoteFields_congr names lengths fields]
  | .interface _ members => by
      rw [TypeExpr.denote, TypeExpr.denote,
        denoteMembers_congr names lengths members]
  | .union _ terms => by
      rw [TypeExpr.denote, TypeExpr.denote,
        denoteTerms_congr names lengths terms]

theorem denoteAll_congr
    (names : scope'.resolve = scope.resolve)
    (lengths : scope'.arrayLength = scope.arrayLength) :
    ∀ types : List TypeExpr, denoteAll scope' types = denoteAll scope types
  | [] => rfl
  | type :: types => by
      rw [denoteAll, denoteAll, type.denote_congr names lengths,
        denoteAll_congr names lengths types]

theorem FunctionExpr.denote_congr
    (names : scope'.resolve = scope.resolve)
    (lengths : scope'.arrayLength = scope.arrayLength) :
    ∀ type : FunctionExpr, type.denote scope' = type.denote scope
  | ⟨parameters, results, variadic⟩ => by
      rw [FunctionExpr.denote, FunctionExpr.denote,
        denoteVariables_congr names lengths variadic parameters,
        denoteVariables_congr names lengths false results]

theorem denoteVariables_congr
    (names : scope'.resolve = scope.resolve)
    (lengths : scope'.arrayLength = scope.arrayLength) (variadic : Bool) :
    ∀ list : List ParameterExpr,
      denoteVariables scope' variadic list =
        denoteVariables scope variadic list
  | [] => rfl
  | [⟨_, type⟩] => by
      rw [denoteVariables, denoteVariables, type.denote_congr names lengths]
  | ⟨_, type⟩ :: second :: rest => by
      rw [denoteVariables_cons_cons, denoteVariables_cons_cons,
        type.denote_congr names lengths,
        denoteVariables_congr names lengths variadic (second :: rest)]

theorem denoteFields_congr
    (names : scope'.resolve = scope.resolve)
    (lengths : scope'.arrayLength = scope.arrayLength) :
    ∀ fields : List FieldExpr,
      denoteFields scope' fields = denoteFields scope fields
  | [] => rfl
  | ⟨_, type, _, _⟩ :: fields => by
      rw [denoteFields, denoteFields, type.denote_congr names lengths,
        denoteFields_congr names lengths fields]

theorem denoteMembers_congr
    (names : scope'.resolve = scope.resolve)
    (lengths : scope'.arrayLength = scope.arrayLength) :
    ∀ members : List MemberExpr,
      denoteMembers scope' members = denoteMembers scope members
  | [] => rfl
  | .method _ type :: members => by
      rw [denoteMembers, denoteMembers, type.denote_congr names lengths,
        denoteMembers_congr names lengths members]
  | .embed type :: members => by
      rw [denoteMembers, denoteMembers, type.denote_congr names lengths,
        denoteMembers_congr names lengths members]

theorem denoteTerms_congr
    (names : scope'.resolve = scope.resolve)
    (lengths : scope'.arrayLength = scope.arrayLength) :
    ∀ terms : List TermExpr,
      denoteTerms scope' terms = denoteTerms scope terms
  | [] => rfl
  | ⟨_, type⟩ :: terms => by
      rw [denoteTerms, denoteTerms, type.denote_congr names lengths,
        denoteTerms_congr names lengths terms]

end

end Denotation

namespace Package.SameAnswers

section Scopes

variable {scope : Scope} {package' : Package}

theorem resolve (same : scope.package.SameAnswers package') :
    ({ scope with package := package' } : Scope).resolve =
      scope.resolve := by
  funext qualifier identifier count span
  cases qualifier with
  | none =>
      simp only [Scope.resolve, Scope.resolveLocal, Scope.resolveDeclared,
        same.type?, same.path]
      rfl
  | some qualifier => rfl

theorem arrayLength (same : scope.package.SameAnswers package') :
    ({ scope with package := package' } : Scope).arrayLength =
      scope.arrayLength := by
  funext length span
  cases length with
  | name identifier =>
      simp only [Scope.arrayLength, same.constant?]
      rfl
  | _ => rfl

theorem denote
    (same : scope.package.SameAnswers package')
    (expression : TypeExpr) :
    expression.denote { scope with package := package' } =
      expression.denote scope :=
  expression.denote_congr same.resolve same.arrayLength

theorem denoteParameters
    (same : scope.package.SameAnswers package')
    (parameters : List TypeParameterExpr) :
    denoteParameters { scope with package := package' } parameters =
      denoteParameters scope parameters := by
  rw [GoUnion.denoteParameters, GoUnion.denoteParameters]
  simp only [same.denote]

theorem rootFields
    (same : scope.package.SameAnswers package') (index : Nat)
    (fields : List FieldExpr) :
    ({ scope with package := package' } : Scope).rootFields index fields =
      scope.rootFields index fields := by
  induction fields generalizing index with
  | nil => rfl
  | cons field fields ih =>
      rw [Scope.rootFields, Scope.rootFields, same.denote, ih]

end Scopes

variable {package package' : Package}

/-- A reference carries the same parameters in both packages. -/
theorem ofDeclared
    (same : package.SameAnswers package') (declared : Declared) :
    Scope.ofDeclared package' declared =
      { Scope.ofDeclared package declared with package := package' } := by
  have carried :
      (Scope.ofDeclared package' declared).carried =
        (Scope.ofDeclared package declared).carried := by
    funext other
    have inScope :
        (Scope.shallow package other).package.SameAnswers package' := same
    exact inScope.denoteParameters _
  exact congrArg (Scope.mk package' _ _) carried

theorem underlying
    (same : package.SameAnswers package') (steps : Nat)
    (declared : Declared) :
    package'.underlying steps declared =
      package.underlying steps declared := by
  have inScope (declared : Declared) :
      (Scope.ofDeclared package declared).package.SameAnswers package' :=
    same
  induction steps generalizing declared with
  | zero =>
      unfold Package.underlying
      simp only [same.ofDeclared, same.type?, (inScope declared).denote,
        (inScope declared).rootFields]
      rfl
  | succ steps ih =>
      unfold Package.underlying
      simp only [same.ofDeclared, same.type?, (inScope declared).denote,
        (inScope declared).rootFields, ih]
      rfl

/-- Packages that give the same answers expand every name to the same. -/
theorem expand
    (same : package.SameAnswers package') (name : String) :
    package'.expand name = package.expand name := by
  rw [Package.expand, Package.expand, same.type?, same.path]
  cases package.type? name with
  | none => rfl
  | some declared =>
      have inScope :
          (Scope.ofDeclared package declared).package.SameAnswers
            package' :=
        same
      dsimp only
      rw [same.ofDeclared, inScope.denoteParameters, same.underlying,
        same.typeCount]

end Package.SameAnswers

/-! ## Files that are listed in another order -/

/-- The constants that a package declares, in the order of its files. -/
def Package.constants (package : Package) : List ConstantDeclaration :=
  package.files.flatMap (·.constants)

/-- What further files have to be to join a package: they name the package, and the types and the
constants that they declare have names that are free there. -/
structure Package.Admits
    (package : Package) (files : List PackageFile) : Prop where
  name : ∀ file ∈ files, file.syntaxTree.package.name = package.name
  distinct : ((files.flatMap (·.declared)).map (·.name)).Nodup
  types : ∀ declared ∈ files.flatMap (·.declared),
    package.type? declared.name = none ∧
      Scope.universal? declared.name = none
  constants : ∀ constant ∈ files.flatMap (·.constants),
    package.constant? constant.identifier.name = none

instance (package : Package) (files : List PackageFile) :
    Decidable (package.Admits files) :=
  decidable_of_iff
    ((∀ file ∈ files, file.syntaxTree.package.name = package.name) ∧
      ((files.flatMap (·.declared)).map (·.name)).Nodup ∧
      (∀ declared ∈ files.flatMap (·.declared),
        package.type? declared.name = none ∧
          Scope.universal? declared.name = none) ∧
      ∀ constant ∈ files.flatMap (·.constants),
        package.constant? constant.identifier.name = none)
    ⟨fun ⟨name, distinct, types, constants⟩ =>
        ⟨name, distinct, types, constants⟩,
      fun ⟨name, distinct, types, constants⟩ =>
        ⟨name, distinct, types, constants⟩⟩

theorem Package.admits_nil (package : Package) : package.Admits [] where
  name _ isIn := nomatch isIn
  distinct := List.nodup_nil
  types _ isIn := nomatch isIn
  constants _ isIn := nomatch isIn

namespace Package

variable {package : Package} {files order : List PackageFile}

/-- The names of a package and of the files that it admits are distinct. -/
theorem Admits.nodup
    (admits : package.Admits files)
    (distinct : (package.declared.map (·.name)).Nodup) :
    ((package.declared ++ files.flatMap (·.declared)).map
      (·.name)).Nodup := by
  rw [List.map_append]
  refine distinct.append admits.distinct ?_
  intro name isOld isNew
  rcases List.mem_map.mp isOld with ⟨declared, isDeclared, rfl⟩
  rcases List.mem_map.mp isNew with ⟨other, isOther, sameName⟩
  have undeclared := (admits.types other isOther).1
  rw [sameName, type?_of_mem distinct isDeclared] at undeclared
  cases undeclared

/-- A type is looked up in a package first and then in the files that it admits. -/
theorem Admits.type?
    (admits : package.Admits files)
    (distinct : (package.declared.map (·.name)).Nodup)
    (perm : order.Perm (package.files ++ files)) (name path wanted : String) :
    (Package.mk name path order).type? wanted =
      (package.type? wanted).or
        ((files.flatMap (·.declared)).find? (·.name = wanted)) := by
  have declared := perm.flatMap_right (·.declared)
  rw [List.flatMap_append] at declared
  rw [Package.type?, Package.type?, ← List.find?_append]
  exact find?_of_perm declared
    (length_filter_le_one (admits.nodup distinct) wanted)

/-- A constant of a package has the same value with the files that the package admits. -/
theorem Admits.constant?
    (admits : package.Admits files)
    (distinct : (package.constants.map (·.identifier.name)).Nodup)
    (perm : order.Perm (package.files ++ files)) (name path wanted : String)
    (isOld : (package.constant? wanted).isSome ∨ files = []) :
    (Package.mk name path order).constant? wanted =
      package.constant? wanted := by
  have constants := perm.flatMap_right (·.constants)
  rw [List.flatMap_append] at constants
  have isAbsent :
      (files.flatMap (·.constants)).filter
        (·.identifier.name = wanted) = [] := by
    rcases isOld with isSome | rfl
    · rw [List.filter_eq_nil_iff]
      intro constant isConstant sameName
      rw [decide_eq_true_eq] at sameName
      rw [← sameName, admits.constants constant isConstant] at isSome
      cases isSome
    · rfl
  have alone := length_filter_le_one distinct wanted
  have atMostOne :
      ((package.constants ++ files.flatMap (·.constants)).filter
        (·.identifier.name = wanted)).length ≤ 1 := by
    rw [List.filter_append, isAbsent, List.append_nil]
    exact alone
  have found := find?_of_perm
    ((List.reverse_perm _).trans constants) atMostOne
  have found' := find?_of_perm
    (List.reverse_perm package.constants) alone
  have isNone :
      (files.flatMap (·.constants)).find?
        (·.identifier.name = wanted) = none := by
    rw [← List.head?_filter, isAbsent, List.head?_nil]
  rw [Package.constant?, Package.constant?]
  refine congrArg (Option.map (·.value)) (found.trans ?_)
  rw [List.find?_append, isNone, Option.or_none]
  exact found'.symm

/-- The files of a package give the same answers in any order. -/
theorem sameAnswers_of_perm
    (types : (package.declared.map (·.name)).Nodup)
    (constants : (package.constants.map (·.identifier.name)).Nodup)
    (perm : order.Perm package.files) :
    package.SameAnswers ⟨package.name, package.path, order⟩ where
  path := rfl
  type? := by
    funext wanted
    rw [package.admits_nil.type? types (by rwa [List.append_nil])]
    exact Option.or_none
  constant? := by
    funext wanted
    exact package.admits_nil.constant? constants
      (by rwa [List.append_nil]) _ _ wanted (.inr rfl)
  typeCount := (perm.flatMap_right PackageFile.declared).length_eq

/-- With files that it admits, a package in any order extends the package. -/
theorem Admits.extendedBy
    (admits : package.Admits files)
    (types : (package.declared.map (·.name)).Nodup)
    (constants : (package.constants.map (·.identifier.name)).Nodup)
    (perm : order.Perm (package.files ++ files)) :
    package.ExtendedBy ⟨package.name, package.path, order⟩ where
  path := rfl
  type? wanted declared found := by
    rw [admits.type? types perm, found]
    rfl
  universal wanted type undeclared isUniversal := by
    rw [admits.type? types perm, undeclared, Option.none_or,
      List.find?_eq_none]
    intro declared isDeclared sameName
    rw [decide_eq_true_eq] at sameName
    have notUniversal := (admits.types declared isDeclared).2
    rw [sameName, isUniversal] at notUniversal
    cases notUniversal
  constant? wanted value found := by
    rw [admits.constant? constants perm _ _ _ (.inl (by rw [found]; rfl)),
      found]
  typeCount := by
    have lengths := (perm.flatMap_right PackageFile.declared).length_eq
    rw [List.flatMap_append, List.length_append] at lengths
    exact (Nat.le_add_right _ _).trans_eq lengths.symm

end Package

/-! ## Texts that are listed in another order -/

/-- Texts in another order make files in another order. -/
theorem mapM_perm
    {ε α β : Type} {next : α → Except ε β} {list order : List α}
    {results : List β}
    (perm : order.Perm list) (reads : list.mapM next = .ok results) :
    ∃ others, order.mapM next = .ok others ∧ others.Perm results := by
  rcases List.perm_comp_forall₂ perm (mapM_eq_ok reads) with
    ⟨others, each, permuted⟩
  exact ⟨others, mapM_of_forall₂ each, permuted⟩

namespace Package

/-- A package is loaded with the files that it admits, whatever the order. -/
theorem Admits.ofTexts
    {directory path : String} {texts further order : List (String × List Char)}
    {package : Package} {files : List PackageFile}
    (loads : Package.ofTexts directory path texts = .ok package)
    (reads :
      further.mapM (fun (path, text) => PackageFile.ofText path text) =
        .ok files)
    (admits : package.Admits files)
    (perm : order.Perm (texts ++ further)) :
    ∃ arranged, arranged.Perm (package.files ++ files) ∧
      Package.ofTexts directory path order =
        .ok ⟨package.name, package.path, arranged⟩ := by
  rcases bind_eq_ok loads with ⟨own, readsOwn, loadsFiles⟩
  rcases ofFiles_eq_ok.mp loadsFiles with
    ⟨isSome, isPackage, sameName, distinct⟩
  have isOwn : own = package.files := by rw [isPackage]
  have readsAll :
      (texts ++ further).mapM
          (fun (path, text) => PackageFile.ofText path text) =
        .ok (own ++ files) := by
    rw [List.mapM_append, readsOwn, ok_bind, reads, ok_bind]
    rfl
  rcases mapM_perm perm readsAll with ⟨arranged, readsOrder, permuted⟩
  have isPath : package.path = path := by rw [isPackage]
  refine ⟨arranged, isOwn ▸ permuted, ?_⟩
  rw [Package.ofTexts, readsOrder, ok_bind]
  refine ofFiles_eq_ok.mpr ⟨?_, by rw [isPath], ?_, ?_⟩
  · rintro rfl
    exact isSome (List.append_eq_nil_iff.mp permuted.symm.eq_nil).1
  · intro file isFile
    rcases List.mem_append.mp (permuted.mem_iff.mp isFile) with
      isOld | isNew
    · exact sameName file isOld
    · exact admits.name file isNew
  · have declared := permuted.flatMap_right (·.declared)
    rw [List.flatMap_append, isOwn] at declared
    exact (declared.map (·.name)).nodup_iff.mpr (admits.nodup distinct)

/--
The order of files does not matter, nor do files that have nothing to do with a
declaration.  Let a package be loaded in which no constant is declared twice.
It is loaded from its texts in any order, and every name is expanded to the
same or fails with the same error.  It is also loaded with further texts between
its own ones, if the package admits their files, and then every declaration that
could be expanded is expanded to the same.
-/
theorem ofTexts_arranged
    {directory path : String} {texts : List (String × List Char)}
    {package : Package}
    (loads : Package.ofTexts directory path texts = .ok package)
    (constants : (package.constants.map (·.identifier.name)).Nodup) :
    (∀ order : List (String × List Char), order.Perm texts →
      ∃ package', Package.ofTexts directory path order = .ok package' ∧
        ∀ name, package'.expand name = package.expand name) ∧
    ∀ (further order : List (String × List Char))
      (files : List PackageFile),
      further.mapM (fun (path, text) => PackageFile.ofText path text) =
          .ok files →
        package.Admits files → order.Perm (texts ++ further) →
          ∃ package', Package.ofTexts directory path order =
              .ok package' ∧
            ∀ name root, package.expand name = .ok root →
              package'.expand name = .ok root := by
  rcases bind_eq_ok loads with ⟨own, -, loadsFiles⟩
  have types := ofFiles_nodup loadsFiles
  constructor
  · intro order perm
    rw [← List.append_nil texts] at perm
    rcases package.admits_nil.ofTexts loads rfl perm with
      ⟨arranged, permuted, loads'⟩
    rw [List.append_nil] at permuted
    exact ⟨_, loads', (sameAnswers_of_perm types constants permuted).expand⟩
  · intro further order files reads admits perm
    rcases admits.ofTexts loads reads perm with
      ⟨arranged, permuted, loads'⟩
    exact ⟨_, loads', fun name root expands =>
      (admits.extendedBy types constants permuted).expand expands⟩

/-- Two files in the other order, and with a file between them that imports, declares and defines
things of its own. -/
theorem ofTexts_arranged_boxes :
    let box := ("box.go", ("package boxes\n" ++
      "import sh \"example/shapes\"\n" ++
      "type Box struct \x7b\n\tkey [size]Key\n" ++
      "\tshape *sh.Shape\n\x7d\n" ++
      "type Bad struct \x7b lid Lid \x7d\n").toList)
    let size := ("size.go",
      "package boxes\nconst size = 4\ntype Key int\n".toList)
    let lid := ("lid.go", ("package boxes\n" ++
      "import sh \"example/shops\"\n" ++
      "const weight = 2\ntype Lid [weight]sh.Key\n" ++
      "func close() \x7b\x7d\n").toList)
    ∃ package permuted extended root fault,
      Package.ofTexts "boxes" "example/boxes" [box, size] = .ok package ∧
        package.expand "Box" = .ok root ∧
        package.expand "Bad" = .error fault ∧
        Package.ofTexts "boxes" "example/boxes" [size, box] =
          .ok permuted ∧
        permuted.expand "Box" = .ok root ∧
        permuted.expand "Bad" = .error fault ∧
        Package.ofTexts "boxes" "example/boxes" [size, lid, box] =
          .ok extended ∧
        extended.expand "Box" = .ok root := by
  intro box size lid
  generalize shape :
    Package.ofTexts "boxes" "example/boxes" [box, size] = result
  generalize shape' :
    [lid].mapM (fun (path, text) => PackageFile.ofText path text) = result'
  have seen :
      (result.toOption.bind fun package =>
        result'.toOption.bind fun files =>
          (package.expand "Box").toOption.map fun _ =>
            ((package.expand "Bad").toOption.isNone,
              decide (package.constants.map (·.identifier.name)).Nodup,
              decide (package.Admits files))) =
        some (true, true, true) := by
    rw [← shape, ← shape']
    decide +kernel
  rcases Option.bind_eq_some_iff.mp seen with ⟨package, isLoaded, seen⟩
  rcases Option.bind_eq_some_iff.mp seen with ⟨files, isRead, seen⟩
  rcases Option.map_eq_some_iff.mp seen with ⟨root, isRoot, seen⟩
  simp only [Prod.mk.injEq, decide_eq_true_eq] at seen
  rcases seen with ⟨isBad, constants, admits⟩
  have loads := eq_ok_of_toOption isLoaded
  have expands := eq_ok_of_toOption isRoot
  rcases exists_error_of_toOption (Option.isNone_iff_eq_none.mp isBad) with
    ⟨fault, fails⟩
  have perm : ([size, lid] ++ [box]).Perm ([box] ++ [size, lid]) :=
    List.perm_append_comm
  rcases ofTexts_arranged (shape.trans loads) constants with
    ⟨inAnyOrder, withOthers⟩
  rcases inAnyOrder [size, box] (.swap _ _ _) with
    ⟨permuted, loads', same⟩
  rcases withOthers [lid] [size, lid, box] files
    (shape'.trans (eq_ok_of_toOption isRead)) admits perm with
    ⟨extended, loads'', again⟩
  exact ⟨package, permuted, extended, root, fault, loads, expands, fails,
    loads', (same _).trans expands, (same _).trans fails, loads'',
    again _ _ expands⟩

end Package

end GoUnion
