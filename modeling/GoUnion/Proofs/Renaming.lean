import GoUnion.Proofs.SyntaxEquality
import GoUnion.Proofs.NamedRoots
import GoUnion.Proofs.Qualifiers
import GoUnion.Proofs.Regeneration

/-!
# Renamed imports

An import may be given another local name, if every qualifier that mentions it
is renamed with it.  The new name must not be bound in the file; then every
qualifier that stood for a path stands for the same path, and whatever could be
expanded is expanded to the same.

The converse needs more.  A qualifier that is not bound has no meaning, but it
gets one if an import takes its name.  Where no qualifier of the file is the new
name, nothing else can be expanded than before.
-/

namespace GoUnion

open Reader (bind_eq_ok ok_bind map_eq_map_of_forall₂)
open Text (Span)

/-! ## Renaming in declarations -/

/-- A type parameter with renamed qualifiers. -/
def TypeParameterExpr.requalified
    (rename : String → String)
    (parameter : TypeParameterExpr) : TypeParameterExpr :=
  ⟨parameter.identifier, parameter.constraint.requalified rename⟩

/-- A declared type with renamed qualifiers. -/
def TypeDeclaration.requalified
    (rename : String → String)
    (declaration : TypeDeclaration) : TypeDeclaration :=
  ⟨declaration.identifier, declaration.parameters.map (·.requalified rename),
    declaration.isAlias, declaration.type.requalified rename⟩

@[simp]
theorem TypeParameterExpr.requalified_id (parameter : TypeParameterExpr) :
    parameter.requalified id = parameter := by
  rw [TypeParameterExpr.requalified, TypeExpr.requalified_id]

@[simp]
theorem TypeDeclaration.requalified_id (declaration : TypeDeclaration) :
    declaration.requalified id = declaration := by
  rw [TypeDeclaration.requalified, TypeExpr.requalified_id]
  simp

/-! ## Declarations that are mirrored -/

/-- Two declarations that are written alike up to places and qualifiers, where each qualifier of the
first one that stands for a path stands for it in the second one. -/
inductive Declared.MirroredBy (declared declared' : Declared) : Prop where
  | intro
      (written : TypeDeclaration) (rename rename' : String → String)
      (keeps :
        KeepsPaths declared.file declared'.file rename rename'
          written.pieces)
      (same :
        declared.declaration.unplaced = (written.requalified rename).unplaced)
      (same' :
        declared'.declaration.unplaced =
          (written.requalified rename').unplaced)

namespace Declared.MirroredBy

variable {declared declared' : Declared}

theorem refl (declared : Declared) : declared.MirroredBy declared :=
  .intro declared.declaration id id (.refl _ _) (by simp) (by simp)

theorem name (mirrored : declared.MirroredBy declared') :
    declared.name = declared'.name := by
  rcases mirrored with ⟨written, rename, rename', -, same, same'⟩
  have named := congrArg (·.identifier.name) same
  have named' := congrArg (·.identifier.name) same'
  exact named.trans named'.symm

/-- The parameters have the same names in the same order. -/
theorem parameterNames (mirrored : declared.MirroredBy declared') :
    declared.declaration.parameters.map (·.identifier.name) =
      declared'.declaration.parameters.map (·.identifier.name) := by
  rcases mirrored with ⟨written, rename, rename', -, same, same'⟩
  have names {declaration : TypeDeclaration} {rename : String → String}
      (same :
        declaration.unplaced = (written.requalified rename).unplaced) :
      declaration.parameters.map (·.identifier.name) =
        written.parameters.map (·.identifier.name) := by
    have views := congrArg
      (fun declaration => declaration.parameters.map (·.identifier.name))
      same
    simpa [TypeDeclaration.unplaced, TypeDeclaration.requalified,
      TypeParameterExpr.unplaced, TypeParameterExpr.requalified,
      Function.comp_def] using views
  exact (names same).trans (names same').symm

end Declared.MirroredBy

/-! ## Packages that are mirrored -/

/-- Two files that name the same package and declare alike, one by one. -/
structure PackageFile.MirroredBy (file file' : PackageFile) : Prop where
  name :
    file.syntaxTree.package.name = file'.syntaxTree.package.name
  declared :
    List.Forall₂ Declared.MirroredBy file.declared file'.declared
  constants :
    List.Forall₂
      (fun constant constant' : ConstantDeclaration =>
        constant.unplaced = constant'.unplaced)
      file.constants file'.constants

theorem PackageFile.MirroredBy.refl (file : PackageFile) :
    file.MirroredBy file where
  name := rfl
  declared := List.forall₂_same.mpr fun declared _ => .refl declared
  constants := List.forall₂_same.mpr fun _ _ => rfl

/-- Two packages with files that are mirrored one by one. -/
structure Package.MirroredBy (package package' : Package) : Prop where
  path : package'.path = package.path
  files : List.Forall₂ PackageFile.MirroredBy package.files package'.files

section Packages

variable {package package' : Package}

namespace Package.MirroredBy

theorem declared (mirrored : package.MirroredBy package') :
    List.Forall₂ Declared.MirroredBy package.declared package'.declared :=
  flatMap_related mirrored.files fun _ _ same => same.declared

theorem type? (mirrored : package.MirroredBy package') (name : String) :
    Option.Rel Declared.MirroredBy (package.type? name)
      (package'.type? name) := by
  refine find?_related mirrored.declared ?_
  intro declared declared' same
  rw [same.name]

theorem typeCount (mirrored : package.MirroredBy package') :
    package.typeCount = package'.typeCount :=
  mirrored.declared.length_eq

theorem constant?
    (mirrored : package.MirroredBy package') (name : String) :
    package'.constant? name = package.constant? name :=
  (Package.constant?_of_unplaced
    (flatMap_related mirrored.files fun _ _ same => same.constants)
    name).symm

/-- The scopes of mirrored declarations are mirrored, if references carry the same. -/
theorem scope
    {declared declared' : Declared}
    (mirrored : package.MirroredBy package')
    (mirrors : declared.MirroredBy declared')
    {carried carried' : Declared → Except LoadError (List TypeParameter)}
    (persists : ∀ other other', other.MirroredBy other' →
      Persists (carried other) (carried' other')) :
    (Scope.mk package declared.file declared.declaration.parameters
        carried).MirroredBy
      (.mk package' declared'.file declared'.declaration.parameters
        carried') where
  path := mirrored.path
  isParameter name := by
    have asNames (parameters : List TypeParameterExpr) :
        parameters.any (·.identifier.name = name) =
          (parameters.map (·.identifier.name)).any (· = name) := by
      rw [List.any_map]
      rfl
    rw [Scope.isParameter, Scope.isParameter, asNames, asNames,
      mirrors.parameterNames]
  constant? := mirrored.constant?
  declared name := by
    have found := mirrored.type? name
    show Option.Rel _ (package.type? name) (package'.type? name)
    generalize package.type? name = first at found ⊢
    generalize package'.type? name = second at found ⊢
    cases found with
    | none => exact .none
    | some mirrors' =>
        have count := congrArg List.length mirrors'.parameterNames
        rw [List.length_map, List.length_map] at count
        exact .some ⟨mirrors'.name.symm, count.symm, persists _ _ mirrors'⟩

end Package.MirroredBy

/-! ## Expanding -/

variable {declared declared' : Declared}

/-- The type of a declaration denotes what the type of the mirrored one denotes. -/
theorem Declared.MirroredBy.persists_type
    (mirrors : declared.MirroredBy declared') {scope scope' : Scope}
    (mirrored : scope.MirroredBy scope')
    (isFile : scope.file = declared.file)
    (isFile' : scope'.file = declared'.file) :
    Persists (declared.declaration.type.denote scope)
      (declared'.declaration.type.denote scope') := by
  rcases mirrors with ⟨written, rename, rename', keeps, same, same'⟩
  rw [← isFile, ← isFile', TypeDeclaration.pieces] at keeps
  exact TypeExpr.persists_of_requalified mirrored keeps.tail.right
    (congrArg TypeDeclaration.type same)
    (congrArg TypeDeclaration.type same')

/-- Type parameters that are written alike up to places and qualifiers denote the same. -/
theorem persists_parameters
    {scope scope' : Scope} (mirrored : scope.MirroredBy scope')
    {rename rename' : String → String}
    {written parameters parameters' : List TypeParameterExpr}
    (keeps :
      KeepsPaths scope.file scope'.file rename rename'
        (written.flatMap (·.pieces)))
    (same :
      parameters.map (·.unplaced) =
        written.map fun parameter => (parameter.requalified rename).unplaced)
    (same' :
      parameters'.map (·.unplaced) =
        written.map fun parameter =>
          (parameter.requalified rename').unplaced) :
    Persists (denoteParameters scope parameters)
      (denoteParameters scope' parameters') := by
  induction written generalizing parameters parameters' with
  | nil =>
      cases List.map_eq_nil_iff.mp same
      cases List.map_eq_nil_iff.mp same'
      exact .refl _
  | cons first written ih =>
      rcases List.map_eq_cons_iff.mp same with
        ⟨parameter, rest, rfl, sameFirst, sameRest⟩
      rcases List.map_eq_cons_iff.mp same' with
        ⟨parameter', rest', rfl, sameFirst', sameRest'⟩
      rw [List.flatMap_cons, TypeParameterExpr.pieces] at keeps
      have name : parameter.identifier.name = first.identifier.name :=
        (congrArg (·.identifier.name) sameFirst :)
      have name' : parameter'.identifier.name = first.identifier.name :=
        (congrArg (·.identifier.name) sameFirst' :)
      rw [denoteParameters, denoteParameters, List.mapM_cons,
        List.mapM_cons, name, name']
      have constraint := TypeExpr.persists_of_requalified mirrored
        keeps.left.tail (congrArg TypeParameterExpr.constraint sameFirst)
        (congrArg TypeParameterExpr.constraint sameFirst')
      apply (constraint.andThen _).bind
      intro value
      exact Persists.andThen (ih keeps.right sameRest sameRest') _

theorem Declared.MirroredBy.persists_parameters
    (mirrors : declared.MirroredBy declared') {scope scope' : Scope}
    (mirrored : scope.MirroredBy scope')
    (isFile : scope.file = declared.file)
    (isFile' : scope'.file = declared'.file) :
    Persists (denoteParameters scope declared.declaration.parameters)
      (denoteParameters scope' declared'.declaration.parameters) := by
  rcases mirrors with ⟨written, rename, rename', keeps, same, same'⟩
  rw [← isFile, ← isFile', TypeDeclaration.pieces] at keeps
  have parameters := congrArg TypeDeclaration.parameters same
  have parameters' := congrArg TypeDeclaration.parameters same'
  rw [TypeDeclaration.unplaced, TypeDeclaration.unplaced,
    TypeDeclaration.requalified] at parameters parameters'
  rw [List.map_map] at parameters parameters'
  exact GoUnion.persists_parameters mirrored keeps.tail.left parameters
    parameters'

namespace Package.MirroredBy

theorem shallow
    (mirrored : package.MirroredBy package')
    (mirrors : declared.MirroredBy declared') :
    (Scope.shallow package declared).MirroredBy
      (Scope.shallow package' declared') :=
  mirrored.scope mirrors fun _ _ _ => .refl _

theorem ofDeclared
    (mirrored : package.MirroredBy package')
    (mirrors : declared.MirroredBy declared') :
    (Scope.ofDeclared package declared).MirroredBy
      (Scope.ofDeclared package' declared') :=
  mirrored.scope mirrors fun _ _ mirrors' =>
    mirrors'.persists_parameters (mirrored.shallow mirrors') rfl rfl

end Package.MirroredBy

/-- Whether a type expression is a name, perhaps with a qualifier and type arguments. -/
def TypeExpr.isName : TypeExpr → Bool
  | .name .. => true
  | _ => false

theorem TypeExpr.isName_unplaced (expression : TypeExpr) :
    expression.unplaced.isName = expression.isName := by
  cases expression <;> rfl

theorem TypeExpr.isName_requalified
    (rename : String → String) (expression : TypeExpr) :
    (expression.requalified rename).isName = expression.isName := by
  cases expression <;> rfl

theorem SameResult.of_iff
    {α : Type} {first second : Except LoadError α}
    (same : ∀ value, first = .ok value ↔ second = .ok value) :
    SameResult first second := by
  cases first with
  | ok value => rw [(same value).mp rfl]; exact .refl _
  | error fault =>
      cases second with
      | error fault' => exact .errors _ _
      | ok value => cases (same value).mpr rfl

/-- A type that is not a name has the structure that it denotes. -/
theorem Package.underlying_literal
    (package : Package)
    (notName : declared.declaration.type.isName = false) (steps : Nat) :
    SameResult (package.underlying steps declared)
      (declared.declaration.type.denote
        (.ofDeclared package declared)) := by
  unfold Package.underlying
  dsimp only
  split
  case h_1 shape =>
    rw [shape] at notName
    cases notName
  case h_2 shape =>
    rw [shape] at notName
    cases notName
  case h_3 span fields shape =>
    rw [shape, TypeExpr.denote]
    exact (SameResult.of_iff fun _ => rootFields_eq_ok).bind
      fun _ => .refl _
  case h_4 => exact .refl _

/-- A name that differs from another one in its places only. -/
theorem TypeExpr.exists_of_unplaced_name
    {expression : TypeExpr} {span : Span} {qualifier : Option Identifier}
    {identifier : Identifier} {arguments : List TypeExpr}
    (same :
      expression.unplaced =
        (TypeExpr.name span qualifier identifier arguments).unplaced) :
    ∃ span' qualifier' identifier' arguments',
      expression = .name span' qualifier' identifier' arguments' ∧
        qualifier'.map (·.name) = qualifier.map (·.name) ∧
        identifier'.name = identifier.name ∧
        arguments'.length = arguments.length := by
  cases expression with
  | name span' qualifier' identifier' arguments' =>
      rw [TypeExpr.unplaced, TypeExpr.unplaced, TypeExpr.name.injEq] at same
      rcases same with ⟨-, sameQualifier, sameIdentifier, sameArguments⟩
      have owner := congrArg (Option.map (·.name)) sameQualifier
      rw [map_unplaced_name, map_unplaced_name] at owner
      have lengths := congrArg List.length sameArguments
      rw [unplacedAll_eq_map, unplacedAll_eq_map, List.length_map,
        List.length_map] at lengths
      exact ⟨span', qualifier', identifier', arguments', rfl, owner,
        (congrArg (·.name) sameIdentifier :), lengths⟩
  | _ => cases same

/-- A qualified name has a structure only if it is the pointer of `unsafe`. -/
theorem persists_underlying_qualified
    {span span' : Span} {owner owner' identifier identifier' : Identifier}
    {arguments arguments' : List TypeExpr}
    (shape :
      declared.declaration.type =
        .name span (some owner) identifier arguments)
    (shape' :
      declared'.declaration.type =
        .name span' (some owner') identifier' arguments')
    (sameName : identifier'.name = identifier.name)
    (paths : ∀ path, declared.file.importPath? owner.name = some path →
      declared'.file.importPath? owner'.name = some path) (steps : Nat) :
    Persists (package.underlying steps declared)
      (package'.underlying steps declared') := by
  unfold Package.underlying
  simp only [shape, shape', sameName]
  cases found : declared.file.importPath? owner.name with
  | none => exact .error _
  | some path =>
      rw [paths path found]
      dsimp only
      split
      · exact .refl _
      · exact .error _

/-- A name without a qualifier is followed where the mirrored one is. -/
theorem Package.MirroredBy.persists_underlying_plain
    (mirrored : package.MirroredBy package')
    (mirrors : declared.MirroredBy declared')
    {span span' : Span} {identifier identifier' : Identifier}
    {arguments arguments' : List TypeExpr}
    (shape : declared.declaration.type = .name span none identifier arguments)
    (shape' :
      declared'.declaration.type = .name span' none identifier' arguments')
    (sameName : identifier'.name = identifier.name)
    (sameLength : arguments'.length = arguments.length) {steps : Nat}
    (follows : ∀ fewer < steps, ∀ target target',
      target.MirroredBy target' →
        Persists (package.underlying fewer target)
          (package'.underlying fewer target')) :
    Persists (package.underlying steps declared)
      (package'.underlying steps declared') := by
  have inScope := mirrored.ofDeclared mirrors
  have denotes := mirrors.persists_type inScope rfl rfl
  have sameEmpty : arguments'.isEmpty = arguments.isEmpty := by
    rw [Bool.eq_iff_iff, List.isEmpty_iff_length_eq_zero,
      List.isEmpty_iff_length_eq_zero, sameLength]
  have found := mirrored.type? identifier.name
  unfold Package.underlying
  simp only [shape, shape', sameName, inScope.isParameter, sameEmpty]
  rw [shape, shape'] at denotes
  split
  case isTrue => exact .error _
  case isFalse =>
    generalize package.type? identifier.name = first at found ⊢
    generalize package'.type? identifier.name = second at found ⊢
    cases found with
    | some mirrors' =>
        dsimp only
        split
        case isTrue =>
          cases steps with
          | zero => exact .error _
          | succ steps =>
              exact follows steps (Nat.lt_succ_self _) _ _ mirrors'
        case isFalse => exact .error _
    | none =>
        dsimp only
        split
        · exact .refl _
        · split
          · exact .refl _
          · split
            · exact .error _
            · exact denotes

/-- What a declaration is followed to, the mirrored one is followed to. -/
theorem Package.MirroredBy.persists_underlying
    (mirrored : package.MirroredBy package')
    (mirrors : declared.MirroredBy declared') (steps : Nat) :
    Persists (package.underlying steps declared)
      (package'.underlying steps declared') := by
  induction steps using Nat.strongRecOn generalizing declared declared' with
  | ind steps ih =>
      have denotes := mirrors.persists_type (mirrored.ofDeclared mirrors)
        rfl rfl
      rcases id mirrors with ⟨written, rename, rename', keeps, same, same'⟩
      have type :
          declared.declaration.type.unplaced =
            (written.type.requalified rename).unplaced :=
        congrArg TypeDeclaration.type same
      have type' :
          declared'.declaration.type.unplaced =
            (written.type.requalified rename').unplaced :=
        congrArg TypeDeclaration.type same'
      have literal (notName : written.type.isName = false) :
          Persists (package.underlying steps declared)
            (package'.underlying steps declared') := by
        have isLiteral {expression : TypeExpr} {rename : String → String}
            (same :
              expression.unplaced =
                (written.type.requalified rename).unplaced) :
            expression.isName = false := by
          rw [← expression.isName_unplaced, same,
            TypeExpr.isName_unplaced, TypeExpr.isName_requalified, notName]
        have first := package.underlying_literal (isLiteral type) steps
        have second := package'.underlying_literal (isLiteral type') steps
        intro value succeeds
        exact second.symm.eq_ok (denotes value (first.eq_ok succeeds))
      cases written_shape : written.type with
      | name span qualifier identifier arguments =>
          rw [written_shape, TypeExpr.requalified] at type type'
          rcases TypeExpr.exists_of_unplaced_name type with
            ⟨_, owner, _, _, shape, sameOwner, sameName, sameLength⟩
          rcases TypeExpr.exists_of_unplaced_name type' with
            ⟨_, owner', _, _, shape', sameOwner', sameName', sameLength'⟩
          rw [length_requalifiedAll] at sameLength sameLength'
          cases qualifier with
          | none =>
              cases Option.map_eq_none_iff.mp sameOwner
              cases Option.map_eq_none_iff.mp sameOwner'
              exact mirrored.persists_underlying_plain mirrors shape shape'
                (sameName'.trans sameName.symm)
                (sameLength'.trans sameLength.symm)
                fun fewer less _ _ mirrors' => ih fewer less mirrors'
          | some qualifier =>
              rcases Option.map_eq_some_iff.mp sameOwner with
                ⟨owner, rfl, isOwner⟩
              rcases Option.map_eq_some_iff.mp sameOwner' with
                ⟨owner', rfl, isOwner'⟩
              refine persists_underlying_qualified shape shape'
                (sameName'.trans sameName.symm) ?_ steps
              rw [isOwner, isOwner']
              refine keeps (.type written.type) ?_ qualifier.name ?_
              · rw [TypeDeclaration.pieces]
                exact List.mem_cons_of_mem _
                  (List.mem_append_right _ written.type.mem_pieces)
              · rw [written_shape]
                rfl
      | _ => exact literal (by rw [written_shape]; rfl)

/-- Whatever is expanded in a package is expanded to the same in a package that mirrors it. -/
theorem Package.MirroredBy.expand
    (mirrored : package.MirroredBy package') {name : String}
    {root : NamedType} (expands : package.expand name = .ok root) :
    package'.expand name = .ok root := by
  have found := mirrored.type? name
  rw [Package.expand] at expands ⊢
  rw [mirrored.path, ← mirrored.typeCount]
  revert expands
  generalize package.type? name = first at found
  generalize package'.type? name = second at found
  cases found with
  | none =>
      intro fails
      cases fails
  | some mirrors =>
      apply (mirrors.persists_parameters (mirrored.ofDeclared mirrors) rfl
        rfl).bind
      intro parameters
      exact (mirrored.persists_underlying mirrors _).andThen _

end Packages

/-! ## Loading -/

/-- A package is loaded again from files that its files are mirrored by. -/
theorem Package.ofFiles_mirrored
    {directory path : String} {files files' : List PackageFile}
    {package : Package}
    (loads : Package.ofFiles directory path files = .ok package)
    (mirrored : List.Forall₂ PackageFile.MirroredBy files files') :
    ∃ package', Package.ofFiles directory path files' = .ok package' ∧
      package.MirroredBy package' ∧
        (List.Forall₂ PackageFile.MirroredBy files' files →
          package'.MirroredBy package) := by
  rcases ofFiles_eq_ok.mp loads with ⟨isSome, isPackage, sameName, nodup⟩
  have isPath : package.path = path := by rw [isPackage]
  have isFiles : package.files = files := by rw [isPackage]
  have mirrors : package.MirroredBy ⟨package.name, path, files'⟩ :=
    ⟨isPath.symm, isFiles ▸ mirrored⟩
  refine ⟨_, ofFiles_eq_ok.mpr ⟨?_, rfl, ?_, ?_⟩, mirrors,
    fun mirrored' => ⟨isPath, isFiles ▸ mirrored'⟩⟩
  · rintro rfl
    exact isSome (List.forall₂_nil_right_iff.mp mirrored)
  · intro file' isFile'
    rcases exists_of_forall₂ mirrored isFile' with ⟨file, isFile, same⟩
    exact same.name.symm.trans (sameName file isFile)
  · have names := map_eq_map_of_forall₂
      (mirrors.declared.imp fun _ _ same => same.name.symm)
    rwa [← names] at nodup

/-! ## Renaming an import -/

/-- What a qualifier becomes if an import is renamed. -/
def renamedTo (old new qualifier : String) : String :=
  if qualifier = old then new else qualifier

/-- An import that gets a new name if it binds the old one. -/
def ImportSpec.renamed (old new : String) (spec : ImportSpec) : ImportSpec :=
  if (PackageFile.binding? spec).map (·.1) = some old then
    ⟨some ⟨new, spec.span⟩, spec.path, spec.span⟩
  else spec

/-- A source file in which all imports that bind one name get another one, and all qualifiers that
mention them too. -/
def SourceFile.renamed (old new : String) (file : SourceFile) : SourceFile :=
  ⟨file.package, file.imports.map (·.renamed old new),
    file.types.map (·.requalified (renamedTo old new)), file.constants⟩

/-- The qualifiers of the names in a source file. -/
def SourceFile.qualifiers (file : SourceFile) : List String :=
  file.pieces.filterMap (·.qualifier?)

section Files

variable {old new : String} {file file' : PackageFile}

/-- Names are told apart after a renaming, if the new name is none of them. -/
theorem renamedTo_injective
    {first second : String} (firstOther : first ≠ new)
    (secondOther : second ≠ new)
    (same : renamedTo old new first = renamedTo old new second) :
    first = second := by
  rw [renamedTo, renamedTo] at same
  split at same
  case isTrue isFirst =>
    split at same
    case isTrue isSecond => rw [isFirst, isSecond]
    case isFalse => exact absurd same.symm secondOther
  case isFalse =>
    split at same
    case isTrue => exact absurd same firstOther
    case isFalse => exact same

theorem binding?_renamed
    (notBlank : new ≠ "_") (notDot : new ≠ ".") (spec : ImportSpec) :
    PackageFile.binding? (spec.renamed old new) =
      (PackageFile.binding? spec).map fun binding =>
        (renamedTo old new binding.1, binding.2) := by
  have path {binding : String × String}
      (binds : PackageFile.binding? spec = some binding) :
      binding.2 = spec.path := by
    rw [PackageFile.binding?] at binds
    split at binds
    case h_1 => rw [← Option.some.inj binds]
    case h_2 =>
      split at binds
      case isTrue => cases binds
      case isFalse => rw [← Option.some.inj binds]
  rw [ImportSpec.renamed]
  split
  case isTrue isOld =>
    rcases Option.map_eq_some_iff.mp isOld with ⟨binding, binds, isOld⟩
    rw [binds, Option.map_some, isOld, renamedTo, if_pos rfl, path binds,
      PackageFile.binding?]
    exact if_neg (not_or.mpr ⟨notBlank, notDot⟩)
  case isFalse notOld =>
    cases binds : PackageFile.binding? spec with
    | none => rfl
    | some binding =>
        have different : binding.1 ≠ old := by
          intro isOld
          rw [binds, Option.map_some, isOld] at notOld
          exact notOld rfl
        rw [Option.map_some, renamedTo, if_neg different]

theorem lookup_renamed
    {α : Type} {rename : String → String} {list : List (String × α)}
    {name : String}
    (apart : ∀ item ∈ list, rename item.1 = rename name → item.1 = name) :
    (list.map fun item => (rename item.1, item.2)).lookup (rename name) =
      list.lookup name := by
  induction list with
  | nil => rfl
  | cons item list ih =>
      have same :
          (rename name == rename item.1) = (name == item.1) := by
        rw [Bool.eq_iff_iff, beq_iff_eq, beq_iff_eq]
        constructor
        · intro same
          exact (apart item List.mem_cons_self same.symm).symm
        · exact congrArg rename
      have later := ih fun other isOther =>
        apart other (List.mem_cons_of_mem _ isOther)
      rw [List.map_cons, List.lookup_cons, List.lookup_cons, same, later]

/-- A renamed qualifier stands for the path that it stood for before. -/
theorem importPath?_renamed
    (notBlank : new ≠ "_") (notDot : new ≠ ".")
    (unbound : ∀ spec ∈ file.syntaxTree.imports, ∀ path,
      PackageFile.binding? spec ≠ some (new, path))
    (imports :
      file'.syntaxTree.imports.map (·.unplaced) =
        (file.syntaxTree.imports.map (·.renamed old new)).map (·.unplaced))
    {name : String} (different : name ≠ new) :
    file'.importPath? (renamedTo old new name) = file.importPath? name := by
  let renamed : PackageFile :=
    ⟨file.path, file.text, file.syntaxTree.renamed old new⟩
  have same : file'.importPath? (renamedTo old new name) =
      renamed.importPath? (renamedTo old new name) :=
    PackageFile.importPath?_of_unplaced imports _
  have bindings :
      renamed.syntaxTree.imports.filterMap PackageFile.binding? =
        (file.syntaxTree.imports.filterMap PackageFile.binding?).map
          fun binding => (renamedTo old new binding.1, binding.2) := by
    show (file.syntaxTree.imports.map _).filterMap _ = _
    rw [List.filterMap_map, List.map_filterMap]
    congr 1
    funext spec
    exact binding?_renamed notBlank notDot spec
  rw [same, PackageFile.importPath?, bindings, ← List.map_reverse,
    PackageFile.importPath?]
  apply lookup_renamed
  intro binding isBinding
  rcases List.mem_filterMap.mp (List.mem_reverse.mp isBinding) with
    ⟨spec, isSpec, binds⟩
  refine renamedTo_injective ?_ different
  intro isNew
  exact unbound spec isSpec binding.2 (by rw [binds, ← isNew])

/-- The new name is not bound before the renaming. -/
theorem importPath?_unbound
    (unbound : ∀ spec ∈ file.syntaxTree.imports, ∀ path,
      PackageFile.binding? spec ≠ some (new, path)) :
    file.importPath? new = none := by
  rw [PackageFile.importPath?, List.lookup_eq_none_iff]
  intro binding isBinding
  rcases List.mem_filterMap.mp (List.mem_reverse.mp isBinding) with
    ⟨spec, isSpec, binds⟩
  rw [bne_iff_ne]
  intro isNew
  exact unbound spec isSpec binding.2 (by rw [binds, isNew])

/-- Declarations that are written alike up to places and qualifiers are mirrored one by one. -/
theorem forall₂_mirrored
    {rename rename' : String → String}
    {written types types' : List TypeDeclaration}
    (keeps :
      KeepsPaths file file' rename rename' (written.flatMap (·.pieces)))
    (same :
      types.map (·.unplaced) =
        written.map fun declaration =>
          (declaration.requalified rename).unplaced)
    (same' :
      types'.map (·.unplaced) =
        written.map fun declaration =>
          (declaration.requalified rename').unplaced) :
    List.Forall₂
      (fun declaration declaration' =>
        Declared.MirroredBy ⟨file, declaration⟩ ⟨file', declaration'⟩)
      types types' := by
  induction written generalizing types types' with
  | nil =>
      cases List.map_eq_nil_iff.mp same
      cases List.map_eq_nil_iff.mp same'
      exact .nil
  | cons first written ih =>
      rcases List.map_eq_cons_iff.mp same with
        ⟨declaration, rest, rfl, sameFirst, sameRest⟩
      rcases List.map_eq_cons_iff.mp same' with
        ⟨declaration', rest', rfl, sameFirst', sameRest'⟩
      rw [List.flatMap_cons] at keeps
      exact .cons (.intro first rename rename' keeps.left sameFirst sameFirst')
        (ih keeps.right sameRest sameRest')

/-- Files that are written alike up to places and qualifiers are mirrored. -/
theorem PackageFile.mirroredBy_of_written
    {rename rename' : String → String} {written : List TypeDeclaration}
    (keeps :
      KeepsPaths file file' rename rename' (written.flatMap (·.pieces)))
    (name :
      file.syntaxTree.package.name = file'.syntaxTree.package.name)
    (types :
      file.syntaxTree.types.map (·.unplaced) =
        written.map fun declaration =>
          (declaration.requalified rename).unplaced)
    (types' :
      file'.syntaxTree.types.map (·.unplaced) =
        written.map fun declaration =>
          (declaration.requalified rename').unplaced)
    (constants :
      file.syntaxTree.constants.map (·.unplaced) =
        file'.syntaxTree.constants.map (·.unplaced)) :
    file.MirroredBy file' where
  name := name
  declared := by
    rw [PackageFile.declared, PackageFile.declared,
      List.forall₂_map_left_iff, List.forall₂_map_right_iff]
    refine filter_related (forall₂_mirrored keeps types types') ?_
    intro declaration declaration' mirrored
    have sameName :
        declaration.identifier.name = declaration'.identifier.name :=
      mirrored.name
    rw [sameName]
  constants := PackageFile.constants_of_unplaced constants

/-- A file is mirrored after a renaming; and before it as well, if no qualifier was the new name. -/
theorem PackageFile.mirroredBy_renamed
    (notBlank : new ≠ "_") (notDot : new ≠ ".")
    (unbound : ∀ spec ∈ file.syntaxTree.imports, ∀ path,
      PackageFile.binding? spec ≠ some (new, path))
    (renamed :
      file'.syntaxTree.unplaced =
        (file.syntaxTree.renamed old new).unplaced) :
    file.MirroredBy file' ∧
      (new ∉ file.syntaxTree.qualifiers → file'.MirroredBy file) := by
  have name :
      file'.syntaxTree.package.name = file.syntaxTree.package.name :=
    congrArg (·.package.name) renamed
  have imports :
      file'.syntaxTree.imports.map (·.unplaced) =
        (file.syntaxTree.imports.map (·.renamed old new)).map
          (·.unplaced) :=
    congrArg SourceFile.imports renamed
  have constants :
      file'.syntaxTree.constants.map (·.unplaced) =
        file.syntaxTree.constants.map (·.unplaced) :=
    congrArg SourceFile.constants renamed
  have types :
      file.syntaxTree.types.map (·.unplaced) =
        file.syntaxTree.types.map fun declaration =>
          (declaration.requalified id).unplaced := by
    simp only [TypeDeclaration.requalified_id]
  have types' :
      file'.syntaxTree.types.map (·.unplaced) =
        file.syntaxTree.types.map fun declaration =>
          (declaration.requalified (renamedTo old new)).unplaced := by
    have views :
        file'.syntaxTree.types.map (·.unplaced) =
          (file.syntaxTree.types.map
            (·.requalified (renamedTo old new))).map (·.unplaced) :=
      congrArg SourceFile.types renamed
    rw [views, List.map_map]
    rfl
  constructor
  · refine mirroredBy_of_written ?_ name.symm types types' constants.symm
    intro piece _ qualifier _ path found
    have different : qualifier ≠ new := by
      rintro rfl
      rw [id, importPath?_unbound unbound] at found
      cases found
    rw [importPath?_renamed notBlank notDot unbound imports different]
    exact found
  · intro unused
    refine mirroredBy_of_written ?_ name types' types constants
    intro piece isPiece qualifier isQualifier path found
    have different : qualifier ≠ new := by
      rintro rfl
      refine unused (List.mem_filterMap.mpr ⟨piece, ?_, isQualifier⟩)
      exact List.mem_cons_of_mem _ (List.mem_append_right _
        (List.mem_append_left _ isPiece))
    rw [importPath?_renamed notBlank notDot unbound imports different]
      at found
    exact found

/--
Import names are transparent.  Let a package be loaded, and let all imports in one of its files that
bind one name be renamed to another one, and all qualifiers with them.  If no import of the file
binds the new name, the package is loaded again, and every declaration that could be expanded is
expanded to the same.  If no qualifier in the file was the new name before, then no other
declaration can be expanded.
-/
theorem Package.ofTexts_renamed
    {directory path place : String} {text text' : List Char}
    {before after : List (String × List Char)} {package : Package}
    {tree tree' : SourceFile}
    (loads :
      Package.ofTexts directory path (before ++ (place, text) :: after) =
        .ok package)
    (parses : SourceFile.ofSource text = .ok tree)
    (parses' : SourceFile.ofSource text' = .ok tree')
    (renamed : tree'.unplaced = (tree.renamed old new).unplaced)
    (notBlank : new ≠ "_") (notDot : new ≠ ".")
    (unbound : ∀ spec ∈ tree.imports, ∀ path,
      PackageFile.binding? spec ≠ some (new, path)) :
    ∃ package',
      Package.ofTexts directory path (before ++ (place, text') :: after) =
          .ok package' ∧
        (∀ name root, package.expand name = .ok root →
          package'.expand name = .ok root) ∧
        (new ∉ tree.qualifiers → ∀ name root,
          package.expand name = .ok root ↔
            package'.expand name = .ok root) := by
  rcases bind_eq_ok loads with ⟨files, reads, loadsFiles⟩
  rw [List.mapM_append] at reads
  rcases bind_eq_ok reads with ⟨filesBefore, readsBefore, reads⟩
  rcases bind_eq_ok reads with ⟨own, readsOwn, yields⟩
  cases yields
  rw [List.mapM_cons] at readsOwn
  rcases bind_eq_ok readsOwn with ⟨file, readsFile, readsOwn⟩
  rcases bind_eq_ok readsOwn with ⟨filesAfter, readsAfter, yields⟩
  cases yields
  have ofText {text : List Char} {tree : SourceFile}
      (parses : SourceFile.ofSource text = .ok tree) :
      PackageFile.ofText place text = .ok ⟨place, text, tree⟩ := by
    rw [PackageFile.ofText, parses]
  obtain rfl : ⟨place, text, tree⟩ = file :=
    Except.ok.inj ((ofText parses).symm.trans readsFile)
  have same (files : List PackageFile) :
      List.Forall₂ PackageFile.MirroredBy files files :=
    List.forall₂_same.mpr fun file _ => .refl file
  let file : PackageFile := ⟨place, text, tree⟩
  let file' : PackageFile := ⟨place, text', tree'⟩
  have mirrors :
      file.MirroredBy file' ∧
        (new ∉ tree.qualifiers → file'.MirroredBy file) :=
    PackageFile.mirroredBy_renamed notBlank notDot unbound renamed
  rcases ofFiles_mirrored loadsFiles (List.rel_append (same filesBefore)
    (.cons mirrors.1 (same filesAfter))) with
    ⟨package', loads', mirrored, mirrored'⟩
  refine ⟨package', ?_, fun name root => mirrored.expand, ?_⟩
  · rw [Package.ofTexts, mapM_of_forall₂ (List.rel_append
      (mapM_eq_ok readsBefore) (.cons (ofText parses')
        (mapM_eq_ok readsAfter))), ok_bind]
    exact loads'
  · intro unused name root
    have back := mirrored' (List.rel_append (same filesBefore)
      (.cons (mirrors.2 unused) (same filesAfter)))
    exact ⟨mirrored.expand, back.expand⟩

end Files

/-- Two imports with one name are renamed, of which one has no name of its own.  Another file
imports something by that name too, and its declaration is followed into the renamed file. -/
theorem Package.ofTexts_renamed_imports :
    let text := ("package p\nimport a \"z\"\nimport \"a\"\n" ++
      "type D[T a.C] struct \x7b f *a.T \x7d\n").toList
    let text' := ("package p\nimport b \"z\"\nimport b \"a\"\n" ++
      "type D[T b.C] struct \x7b f *b.T \x7d\n").toList
    let other := ("e.go", "package p\nimport \"x/a\"\ntype E D\n".toList)
    ∃ package package' first second,
      Package.ofTexts "p" "x/p" [("d.go", text), other] = .ok package ∧
        Package.ofTexts "p" "x/p" [("d.go", text'), other] =
          .ok package' ∧
        package.expand "D" = .ok first ∧
        package.expand "E" = .ok second ∧
        ∀ name root,
          package.expand name = .ok root ↔
            package'.expand name = .ok root := by
  intro text text' other
  generalize shape : SourceFile.ofSource text = result
  generalize shape' : SourceFile.ofSource text' = result'
  generalize loaded :
    Package.ofTexts "p" "x/p" ([] ++ ("d.go", text) :: [other]) = loads
  have seen :
      (result.toOption.bind fun tree =>
        result'.toOption.bind fun tree' =>
          loads.toOption.bind fun package =>
            (package.expand "D").toOption.bind fun _ =>
              (package.expand "E").toOption.map fun _ =>
                (decide (tree'.unplaced = (tree.renamed "a" "b").unplaced),
                  decide ("b" ∈ tree.qualifiers),
                  tree.imports.all fun spec =>
                    (PackageFile.binding? spec).map (·.1) ≠ some "b")) =
        some (true, false, true) := by
    rw [← shape, ← shape', ← loaded]
    decide +kernel
  rcases Option.bind_eq_some_iff.mp seen with ⟨tree, isTree, seen⟩
  rcases Option.bind_eq_some_iff.mp seen with ⟨tree', isTree', seen⟩
  rcases Option.bind_eq_some_iff.mp seen with ⟨package, isLoaded, seen⟩
  rcases Option.bind_eq_some_iff.mp seen with ⟨first, isFirst, seen⟩
  rcases Option.map_eq_some_iff.mp seen with ⟨second, isSecond, seen⟩
  simp only [Prod.mk.injEq, decide_eq_true_eq, decide_eq_false_iff_not,
    List.all_eq_true] at seen
  rcases seen with ⟨renamed, unused, unbound⟩
  have unbound' : ∀ spec ∈ tree.imports, ∀ path,
      PackageFile.binding? spec ≠ some ("b", path) := by
    intro spec isSpec path binds
    exact unbound spec isSpec (by rw [binds]; rfl)
  have loads := loaded.trans (eq_ok_of_toOption isLoaded)
  rcases Package.ofTexts_renamed loads
    (shape.trans (eq_ok_of_toOption isTree))
    (shape'.trans (eq_ok_of_toOption isTree')) renamed (by decide)
    (by decide) unbound' with ⟨package', loads', -, exactly⟩
  exact ⟨package, package', first, second, loads, loads',
    eq_ok_of_toOption isFirst, eq_ok_of_toOption isSecond, exactly unused⟩

/-- A qualifier that is not bound gets a meaning if an import takes its name. -/
theorem Package.ofTexts_renamed_captures :
    let text := ("package p\nimport \"example/x\"\n" ++
      "type D struct \x7b f y.T \x7d\n").toList
    let text' := ("package p\nimport y \"example/x\"\n" ++
      "type D struct \x7b f y.T \x7d\n").toList
    ∃ tree tree' package package' fault root,
      SourceFile.ofSource text = .ok tree ∧
        SourceFile.ofSource text' = .ok tree' ∧
        tree'.unplaced = (tree.renamed "x" "y").unplaced ∧
        (∀ spec ∈ tree.imports, ∀ path,
          PackageFile.binding? spec ≠ some ("y", path)) ∧
        Package.ofTexts "p" "example/p" [("p.go", text)] = .ok package ∧
        Package.ofTexts "p" "example/p" [("p.go", text')] =
          .ok package' ∧
        package.expand "D" = .error fault ∧
        package'.expand "D" = .ok root := by
  intro text text'
  have seen :
      ((SourceFile.ofSource text).toOption.bind fun tree =>
        (SourceFile.ofSource text').toOption.bind fun tree' =>
          (Package.ofTexts "p" "example/p"
            [("p.go", text)]).toOption.bind fun package =>
            (Package.ofTexts "p" "example/p"
              [("p.go", text')]).toOption.bind fun package' =>
              (package'.expand "D").toOption.map fun _ =>
                (decide (tree'.unplaced = (tree.renamed "x" "y").unplaced),
                  tree.imports.all (fun spec =>
                    (PackageFile.binding? spec).map (·.1) ≠ some "y"),
                  (package.expand "D").toOption.isNone)) =
        some (true, true, true) := by
    decide +kernel
  rcases Option.bind_eq_some_iff.mp seen with ⟨tree, isTree, seen⟩
  rcases Option.bind_eq_some_iff.mp seen with ⟨tree', isTree', seen⟩
  rcases Option.bind_eq_some_iff.mp seen with ⟨package, isLoaded, seen⟩
  rcases Option.bind_eq_some_iff.mp seen with ⟨package', isLoaded', seen⟩
  rcases Option.map_eq_some_iff.mp seen with ⟨root, isRoot, seen⟩
  simp only [Prod.mk.injEq, decide_eq_true_eq, List.all_eq_true,
    Option.isNone_iff_eq_none] at seen
  rcases seen with ⟨renamed, unbound, fails⟩
  rcases exists_error_of_toOption fails with ⟨fault, fails⟩
  refine ⟨tree, tree', package, package', fault, root,
    eq_ok_of_toOption isTree, eq_ok_of_toOption isTree', renamed, ?_,
    eq_ok_of_toOption isLoaded, eq_ok_of_toOption isLoaded', fails,
    eq_ok_of_toOption isRoot⟩
  intro spec isSpec path binds
  exact unbound spec isSpec (by rw [binds]; rfl)

end GoUnion
