import GoUnion.Proofs.Places.Files
import GoUnion.Proofs.WellFormed.Expansion

/-!
# Packages that declare alike

Two packages declare alike if their files agree on everything but places and
the types that declared names stand for.  They give the same answers about
names: the scopes of their declarations agree, and where one is loaded the
other is.
-/

namespace GoUnion

open Reader (bind_eq_ok ok_bind map_eq_map_of_forall₂)

/-! ## Lists of related items -/

section Related

variable {α β : Type} {Related : α → β → Prop} {items : List α}
  {others : List β} {test : α → Bool} {test' : β → Bool}

theorem filter_related
    (related : List.Forall₂ Related items others)
    (same : ∀ item other, Related item other →
      test item = test' other) :
    List.Forall₂ Related (items.filter test) (others.filter test') := by
  induction related with
  | nil => exact .nil
  | @cons item other items others first _ ih =>
      rw [List.filter_cons, List.filter_cons, same item other first]
      split
      · exact .cons first ih
      · exact ih

theorem find?_related
    (related : List.Forall₂ Related items others)
    (same : ∀ item other, Related item other →
      test item = test' other) :
    Option.Rel Related (items.find? test) (others.find? test') := by
  induction related with
  | nil => exact .none
  | @cons item other items others first _ ih =>
      rw [List.find?_cons, List.find?_cons, same item other first]
      split
      · exact .some first
      · exact ih

theorem flatMap_related
    {γ δ : Type} {Related' : γ → δ → Prop} {expand : α → List γ}
    {expand' : β → List δ}
    (related : List.Forall₂ Related items others)
    (each : ∀ item other, Related item other →
      List.Forall₂ Related' (expand item) (expand' other)) :
    List.Forall₂ Related' (items.flatMap expand)
      (others.flatMap expand') := by
  induction related with
  | nil => exact .nil
  | @cons item other items others first _ ih =>
      rw [List.flatMap_cons, List.flatMap_cons]
      exact List.rel_append (each item other first) ih

end Related

/-! ## Files -/

/-- What a reference to a declared type depends on: its name and its parameters. -/
def TypeDeclaration.heading
    (declaration : TypeDeclaration) : String × List TypeParameterExpr :=
  (declaration.identifier.name, declaration.parameters.map (·.unplaced))

namespace PackageFile

/-- Two files that declare the same names. -/
structure Alike (file file' : PackageFile) : Prop where
  name :
    file.syntaxTree.package.name = file'.syntaxTree.package.name
  imports :
    file.syntaxTree.imports.map (·.unplaced) =
      file'.syntaxTree.imports.map (·.unplaced)
  types :
    file.syntaxTree.types.map (·.heading) =
      file'.syntaxTree.types.map (·.heading)
  constants :
    file.syntaxTree.constants.map (·.unplaced) =
      file'.syntaxTree.constants.map (·.unplaced)

theorem Alike.refl (file : PackageFile) : Alike file file :=
  ⟨rfl, rfl, rfl, rfl⟩

variable {file file' : PackageFile}

theorem binding?_unplaced (spec : ImportSpec) :
    binding? spec.unplaced = binding? spec := by
  rcases spec with ⟨identifier, path, span⟩
  cases identifier with
  | none => rfl
  | some identifier => rfl

/-- What a name is bound to depends on the imports without their places. -/
theorem importPath?_of_unplaced
    (same :
      file.syntaxTree.imports.map (·.unplaced) =
        file'.syntaxTree.imports.map (·.unplaced)) (name : String) :
    file.importPath? name = file'.importPath? name := by
  have bound (file : PackageFile) :
      file.syntaxTree.imports.filterMap binding? =
        (file.syntaxTree.imports.map (·.unplaced)).filterMap
          binding? := by
    rw [List.filterMap_map]
    congr 1
    funext spec
    exact (binding?_unplaced spec).symm
  rw [PackageFile.importPath?, PackageFile.importPath?, bound file,
    bound file', same]

theorem Alike.importPath?
    (alike : Alike file file') (name : String) :
    file.importPath? name = file'.importPath? name :=
  importPath?_of_unplaced alike.imports name

end PackageFile

/-- Two declarations that a reference cannot tell apart. -/
structure Declared.Alike (declared declared' : Declared) : Prop where
  file : PackageFile.Alike declared.file declared'.file
  heading :
    declared.declaration.heading = declared'.declaration.heading

namespace Declared.Alike

variable {declared declared' : Declared}

theorem name (alike : Declared.Alike declared declared') :
    declared.name = declared'.name :=
  congrArg Prod.fst alike.heading

theorem parameters (alike : Declared.Alike declared declared') :
    declared.declaration.parameters.map (·.unplaced) =
      declared'.declaration.parameters.map (·.unplaced) :=
  congrArg Prod.snd alike.heading

end Declared.Alike

/-- What agrees in a view of its elements is related one by one. -/
theorem forall₂_of_map_eq
    {α β : Type} {view : α → β} {items others : List α}
    (same : items.map view = others.map view) :
    List.Forall₂ (fun item other => view item = view other) items
      others := by
  have each : List.Forall₂ (· = ·) (items.map view) (others.map view) := by
    rw [same, List.forall₂_eq_eq_eq]
  rwa [List.forall₂_map_left_iff, List.forall₂_map_right_iff] at each

theorem PackageFile.Alike.declared
    {file file' : PackageFile} (alike : PackageFile.Alike file file') :
    List.Forall₂ Declared.Alike file.declared file'.declared := by
  have each := forall₂_of_map_eq alike.types
  have named :
      List.Forall₂
        (fun item other : TypeDeclaration => item.heading = other.heading)
        (file.syntaxTree.types.filter (·.identifier.name ≠ "_"))
        (file'.syntaxTree.types.filter (·.identifier.name ≠ "_")) := by
    refine filter_related each ?_
    intro declaration declaration' same
    have sameName :
        declaration.identifier.name = declaration'.identifier.name :=
      congrArg Prod.fst same
    rw [sameName]
  rw [PackageFile.declared, PackageFile.declared,
    List.forall₂_map_left_iff, List.forall₂_map_right_iff]
  exact named.imp fun _ _ same => ⟨alike, same⟩

/-- The constants that have a name agree where all constants do. -/
theorem PackageFile.constants_of_unplaced
    {file file' : PackageFile}
    (same :
      file.syntaxTree.constants.map (·.unplaced) =
        file'.syntaxTree.constants.map (·.unplaced)) :
    List.Forall₂
      (fun constant constant' : ConstantDeclaration =>
        constant.unplaced = constant'.unplaced)
      file.constants file'.constants := by
  refine filter_related (forall₂_of_map_eq same) ?_
  intro constant constant' same
  have sameName :
      constant.identifier.name = constant'.identifier.name :=
    congrArg (·.identifier.name) same
  rw [sameName]

/-! ## Packages -/

namespace Package

/-- Two packages that declare the same names in the same files. -/
structure Alike (package package' : Package) : Prop where
  path : package.path = package'.path
  files : List.Forall₂ PackageFile.Alike package.files package'.files

variable {package package' : Package}

theorem Alike.declared (alike : Alike package package') :
    List.Forall₂ Declared.Alike package.declared package'.declared :=
  flatMap_related alike.files fun _ _ => PackageFile.Alike.declared

theorem Alike.type? (alike : Alike package package') (name : String) :
    Option.Rel Declared.Alike (package.type? name)
      (package'.type? name) := by
  refine find?_related alike.declared ?_
  intro declared declared' same
  rw [same.name]

theorem Alike.typeCount (alike : Alike package package') :
    package.typeCount = package'.typeCount :=
  alike.declared.length_eq

/-- The value of a constant depends on the constants without their places. -/
theorem constant?_of_unplaced
    (constants :
      List.Forall₂
        (fun constant constant' : ConstantDeclaration =>
          constant.unplaced = constant'.unplaced)
        (package.files.flatMap (·.constants))
        (package'.files.flatMap (·.constants))) (name : String) :
    package.constant? name = package'.constant? name := by
  have found :
      Option.Rel
        (fun constant constant' : ConstantDeclaration =>
          constant.unplaced = constant'.unplaced)
        ((package.files.flatMap (·.constants)).reverse.find?
          (·.identifier.name = name))
        ((package'.files.flatMap (·.constants)).reverse.find?
          (·.identifier.name = name)) := by
    refine find?_related (List.rel_reverse constants) ?_
    intro constant constant' same
    have sameName :
        constant.identifier.name = constant'.identifier.name :=
      congrArg (·.identifier.name) same
    rw [sameName]
  rw [Package.constant?, Package.constant?]
  generalize List.find? _ _ = first at found ⊢
  generalize List.find? _ _ = second at found ⊢
  cases found with
  | none => rfl
  | some same => exact congrArg (fun c => some c.value) same

theorem Alike.constant?
    (alike : Alike package package') (name : String) :
    package.constant? name = package'.constant? name :=
  constant?_of_unplaced
    (flatMap_related alike.files
      fun _ _ alike => PackageFile.constants_of_unplaced alike.constants)
    name

end Package

/-! ## Scopes -/

section Scopes

variable {package package' : Package} {declared declared' : Declared}

theorem isParameter_of_unplaced
    {parameters parameters' : List TypeParameterExpr}
    (same :
      parameters.map (·.unplaced) = parameters'.map (·.unplaced))
    (name : String) :
    parameters.any (·.identifier.name = name) =
      parameters'.any (·.identifier.name = name) := by
  have asUnplaced (parameters : List TypeParameterExpr) :
      parameters.any (·.identifier.name = name) =
        (parameters.map (·.unplaced)).any (·.identifier.name = name) := by
    rw [List.any_map]
    rfl
  rw [asUnplaced, asUnplaced parameters', same]

theorem sameResult_denoteParameters
    {scope scope' : Scope} (agrees : scope.Agrees scope')
    {parameters parameters' : List TypeParameterExpr}
    (same :
      parameters.map (·.unplaced) = parameters'.map (·.unplaced)) :
    SameResult (denoteParameters scope parameters)
      (denoteParameters scope' parameters') := by
  induction parameters generalizing parameters' with
  | nil =>
      cases List.map_eq_nil_iff.mp same.symm
      exact .refl _
  | cons parameter parameters ih =>
      rcases List.map_eq_cons_iff.mp same.symm with
        ⟨parameter', rest', rfl, sameFirst, sameRest⟩
      rcases TypeParameterExpr.mk.inj sameFirst with
        ⟨sameIdentifier, sameConstraint⟩
      have sameName :
          parameter'.identifier.name = parameter.identifier.name :=
        (congrArg Identifier.name sameIdentifier :)
      rw [denoteParameters, denoteParameters, List.mapM_cons,
        List.mapM_cons, sameName]
      have first :=
        TypeExpr.denote_of_unplaced agrees sameConstraint.symm
      refine SameResult.bind ?_ fun value => ?_
      · exact first.bind fun _ => .refl _
      · exact SameResult.bind (ih sameRest.symm) fun _ => .refl _

/-- The scopes of alike declarations agree, if references carry the same. -/
theorem agrees_of_alike
    (alike : package.Alike package')
    (alikeDeclared : Declared.Alike declared declared')
    (carried carried' : Declared → Except LoadError (List TypeParameter))
    (same : ∀ other other', Declared.Alike other other' →
      SameResult (carried other) (carried' other')) :
    (Scope.mk package declared.file declared.declaration.parameters
        carried).Agrees
      (.mk package' declared'.file declared'.declaration.parameters
        carried') where
  path := alike.path
  isParameter := isParameter_of_unplaced alikeDeclared.parameters
  importPath? := alikeDeclared.file.importPath?
  constant? := alike.constant?
  declared name := by
    have found := alike.type? name
    show Option.Rel _ (package.type? name) (package'.type? name)
    generalize package.type? name = first at found ⊢
    generalize package'.type? name = second at found ⊢
    cases found with
    | none => exact .none
    | some alikeOther =>
        have count := congrArg List.length alikeOther.parameters
        rw [List.length_map, List.length_map] at count
        exact .some ⟨alikeOther.name, count, same _ _ alikeOther⟩

theorem shallow_agrees
    (alike : package.Alike package')
    (alikeDeclared : Declared.Alike declared declared') :
    (Scope.shallow package declared).Agrees
      (Scope.shallow package' declared') :=
  agrees_of_alike alike alikeDeclared _ _ fun _ _ _ => .refl _

theorem ofDeclared_agrees
    (alike : package.Alike package')
    (alikeDeclared : Declared.Alike declared declared') :
    (Scope.ofDeclared package declared).Agrees
      (Scope.ofDeclared package' declared') :=
  agrees_of_alike alike alikeDeclared _ _ fun _ _ alikeOther =>
    sameResult_denoteParameters (shallow_agrees alike alikeOther)
      alikeOther.parameters

end Scopes

/-! ## Loading -/

theorem firstRepeated?_alike
    {list list' : List Declared}
    (same : List.Forall₂ Declared.Alike list list')
    {seen : List String}
    (unique : Declared.firstRepeated? seen list = none) :
    Declared.firstRepeated? seen list' = none := by
  induction same generalizing seen with
  | nil => rfl
  | cons first _ ih =>
      rw [Declared.firstRepeated?] at unique ⊢
      rw [← first.name]
      split at unique
      case isTrue => cases unique
      case isFalse isNew =>
        rw [if_neg isNew]
        exact ih unique

theorem commonName_alike
    {directory name : String} {first first' : PackageFile}
    {files files' : List PackageFile}
    (sameFirst : PackageFile.Alike first first')
    (same : List.Forall₂ PackageFile.Alike files files')
    (common : Package.commonName directory first files = .ok name) :
    Package.commonName directory first' files' = .ok name := by
  rw [Package.commonName] at common ⊢
  have found :
      Option.Rel PackageFile.Alike
        (files.find? fun file =>
          file.syntaxTree.package.name ≠ first.syntaxTree.package.name)
        (files'.find? fun file =>
          file.syntaxTree.package.name ≠
            first'.syntaxTree.package.name) := by
    refine find?_related same ?_
    intro file file' alike
    rw [alike.name, sameFirst.name]
  generalize files.find? _ = other at common found
  generalize files'.find? _ = other' at found
  cases found with
  | none =>
      cases common
      exact congrArg Except.ok sameFirst.name.symm
  | some => cases common

/-- Files that declare alike make a package where the others do. -/
theorem ofFiles_alike
    {directory path : String} {files files' : List PackageFile}
    {package : Package}
    (loads : Package.ofFiles directory path files = .ok package)
    (same : List.Forall₂ PackageFile.Alike files files') :
    Package.ofFiles directory path files' =
        .ok ⟨package.name, path, files'⟩ ∧
      package = ⟨package.name, path, files⟩ := by
  cases same with
  | nil => cases loads
  | @cons first first' others others' sameFirst sameOthers =>
      rcases bind_eq_ok loads with ⟨name, common, loads⟩
      dsimp only at loads
      split at loads
      case h_2 => cases loads
      case h_1 unique =>
        cases loads
        have alike :
            Package.Alike ⟨name, path, first :: others⟩
              ⟨name, path, first' :: others'⟩ :=
          ⟨rfl, .cons sameFirst sameOthers⟩
        have unique' := firstRepeated?_alike alike.declared unique
        refine ⟨?_, rfl⟩
        rw [Package.ofFiles]
        dsimp only
        rw [commonName_alike sameFirst (.cons sameFirst sameOthers) common,
          ok_bind, unique']
        rfl

end GoUnion
