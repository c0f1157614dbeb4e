import GoUnion.Proofs.Scoping
import GoUnion.Proofs.Structures

/-!
# Declarations that name a type

A declaration may give another name instead of a structure.  Expanding it
follows that name, and a field of the declaration may mention the same name.
The two ways of reading a name are written apart from each other.  Expanding
asks for everything that a field asks for, with one exception: it does not
compare the number of type arguments with the number that the name takes.  So
what is expanded may be mentioned as a field type exactly if that number is
right.
-/

namespace GoUnion

open Reader (bind_eq_ok ok_bind)
open Text (Span)

/-- The number of type parameters of a type of the package; other names take none. -/
def Package.parameterCount (package : Package) (name : String) : Nat :=
  ((package.type? name).map (·.declaration.parameters.length)).getD 0

/-- The number of type arguments that a name takes, if the package can tell. -/
def Package.wantedArguments
    (package : Package) (qualifier : Option Identifier)
    (identifier : Identifier) : Nat :=
  match qualifier with
  | none => package.parameterCount identifier.name
  | some _ => 0

/-! ## Names as field types -/

section Fields

variable {scope : Scope} {identifier : Identifier} {count : Nat}
  {span : Span} {resolved : Scope.Resolved}

theorem universal?_predeclared :
    ∀ name ∈ Scope.predeclaredNames,
      Scope.universal? name = some (.named (.predeclared name)) := by
  intro name isPredeclared
  have none : BasicType.ofName? name = none := by
    revert isPredeclared
    revert name
    decide
  rw [Scope.universal?, none]
  exact if_pos (List.contains_iff_mem.mpr isPredeclared)

/-- A name that resolves without a qualifier has the arguments it takes. -/
theorem resolveLocal_count
    (notParameter : scope.isParameter identifier.name = false)
    (succeeds : scope.resolveLocal identifier count span = .ok resolved) :
    count = scope.package.parameterCount identifier.name := by
  simp only [Scope.resolveLocal, notParameter] at succeeds
  rw [if_neg Bool.false_ne_true] at succeeds
  rw [Package.parameterCount]
  split at succeeds
  case h_1 declared found =>
    rw [found]
    simp only [Scope.resolveDeclared] at succeeds
    split at succeeds
    case isTrue fits => exact fits.symm
    case isFalse =>
      split at succeeds
      · cases succeeds
      · cases succeeds
  case h_2 undeclared =>
    rw [undeclared]
    split at succeeds
    case h_1 =>
      split at succeeds
      case isTrue isNone => exact isNone
      case isFalse => cases succeeds
    case h_2 =>
      split at succeeds
      · cases succeeds
      · cases succeeds

/-- A name without arguments denotes what it resolves to. -/
theorem denote_of_resolve
    {qualifier : Option Identifier} {type : GoType}
    (resolves : scope.resolve qualifier identifier 0 span = .ok resolved)
    (yields : resolved [] = .ok type) :
    (TypeExpr.name span qualifier identifier []).denote scope =
      .ok type := by
  rw [TypeExpr.denote, List.length_nil, resolves, ok_bind, denoteAll,
    ok_bind]
  exact yields

end Fields

/-! ## Names as roots -/

section Roots

variable {package : Package} {declared : Declared} {span : Span}
  {identifier : Identifier} {arguments : List TypeExpr}

/-- What is known of a name that a declaration consists of, if the declaration is expanded. -/
inductive Declared.Follows
    (package : Package) (declared : Declared) (span : Span) :
    Option Identifier → Identifier → List TypeExpr → Prop where
  | pointer {qualifier identifier : Identifier}
      {arguments : List TypeExpr}
      (bound :
        declared.file.importPath? qualifier.name = some "unsafe")
      (isPointer : identifier.name = "Pointer") :
      Follows package declared span (some qualifier) identifier arguments
  | declared {identifier : Identifier} {target : Declared}
      (notParameter :
        (Scope.ofDeclared package declared).isParameter identifier.name =
          false)
      (found : package.type? identifier.name = some target) :
      Follows package declared span none identifier []
  | interface {identifier : Identifier} {arguments : List TypeExpr}
      (notParameter :
        (Scope.ofDeclared package declared).isParameter identifier.name =
          false)
      (undeclared : package.type? identifier.name = none)
      (isInterface : identifier.name ∈ Scope.predeclaredNames) :
      Follows package declared span none identifier arguments
  | denoted {identifier : Identifier} {arguments : List TypeExpr}
      {type : GoType}
      (notParameter :
        (Scope.ofDeclared package declared).isParameter identifier.name =
          false)
      (denotes :
        (TypeExpr.name span none identifier arguments).denote
          (Scope.ofDeclared package declared) = .ok type) :
      Follows package declared span none identifier arguments

theorem underlying_follows
    {qualifier : Option Identifier} {steps : Nat} {type : GoType}
    (shape :
      declared.declaration.type =
        .name span qualifier identifier arguments)
    (succeeds : package.underlying steps declared = .ok type) :
    declared.Follows package span qualifier identifier arguments := by
  unfold Package.underlying at succeeds
  cases qualifier with
  | some qualifier =>
      simp only [shape] at succeeds
      split at succeeds
      case h_1 => cases succeeds
      case h_2 path bound =>
        split at succeeds
        case isTrue isPointer =>
          exact .pointer (isPointer.1 ▸ bound) isPointer.2
        case isFalse => cases succeeds
  | none =>
      simp only [shape] at succeeds
      split at succeeds
      case isTrue => cases succeeds
      case isFalse notParameter =>
        rw [Bool.not_eq_true] at notParameter
        split at succeeds
        case h_1 target found =>
          split at succeeds
          case isTrue isEmpty =>
            rw [List.isEmpty_iff.mp isEmpty]
            exact .declared notParameter found
          case isFalse => cases succeeds
        case h_2 undeclared =>
          split at succeeds
          case isTrue isAny =>
            exact .interface notParameter undeclared (by rw [isAny]; decide)
          case isFalse =>
            split at succeeds
            case isTrue isError =>
              exact .interface notParameter undeclared (by rw [isError]; decide)
            case isFalse =>
              split at succeeds
              case isTrue => cases succeeds
              case isFalse => exact .denoted notParameter succeeds

/-- A name that is followed may be mentioned as well, if it has the arguments it takes. -/
theorem Declared.Follows.denotes
    {qualifier : Option Identifier}
    (follows :
      declared.Follows package span qualifier identifier arguments)
    (fits :
      arguments.length = package.wantedArguments qualifier identifier) :
    ∃ type, (TypeExpr.name span qualifier identifier arguments).denote
      (Scope.ofDeclared package declared) = .ok type := by
  cases follows with
  | @pointer qualifier _ _ bound isPointer =>
      rw [List.length_eq_zero_iff.mp fits]
      have resolves :
          (Scope.ofDeclared package declared).resolve (some qualifier)
              identifier 0 span =
            .ok (Scope.constant (.basic .unsafePointer)) := by
        have bound' :
            (Scope.ofDeclared package declared).file.importPath?
              qualifier.name = some "unsafe" := bound
        simp only [Scope.resolve, Scope.resolveImported, bound', isPointer]
        rfl
      exact ⟨_, denote_of_resolve resolves rfl⟩
  | @declared _ target notParameter found =>
      rw [Package.wantedArguments, Package.parameterCount, found] at fits
      have none : target.declaration.parameters = [] :=
        List.length_eq_zero_iff.mp fits.symm
      -- A declaration without parameters carries none, so its reference cannot fail.
      have found' :
          (Scope.ofDeclared package declared).package.type?
            identifier.name = some target := found
      have resolves :
          ∃ resolved,
            (Scope.ofDeclared package declared).resolve .none identifier 0
                span = .ok resolved ∧
              ∃ type, resolved [] = .ok type := by
        simp only [Scope.resolve, Scope.resolveLocal, notParameter, found',
          Scope.resolveDeclared, none]
        refine ⟨_, rfl, ?_⟩
        simp only [Scope.ofDeclared, none]
        exact ⟨_, rfl⟩
      rcases resolves with ⟨resolved, resolves, type, yields⟩
      exact ⟨type, denote_of_resolve resolves yields⟩
  | @interface _ _ notParameter undeclared isInterface =>
      rw [Package.wantedArguments, Package.parameterCount, undeclared]
        at fits
      rw [List.length_eq_zero_iff.mp fits]
      have undeclared' :
          (Scope.ofDeclared package declared).package.type?
            identifier.name = none := undeclared
      have resolves :
          (Scope.ofDeclared package declared).resolve none identifier 0
              span =
            .ok (Scope.constant
              (.named (.predeclared identifier.name))) := by
        simp only [Scope.resolve, Scope.resolveLocal, notParameter,
          undeclared', universal?_predeclared _ isInterface]
        rfl
      exact ⟨_, denote_of_resolve resolves rfl⟩
  | denoted _ denotes => exact ⟨_, denotes⟩

/-- A name that is both followed and mentioned has the arguments it takes. -/
theorem Declared.Follows.fits
    {qualifier : Option Identifier} {type : GoType}
    (follows :
      declared.Follows package span qualifier identifier arguments)
    (denotes :
      (TypeExpr.name span qualifier identifier arguments).denote
        (Scope.ofDeclared package declared) = .ok type) :
    arguments.length = package.wantedArguments qualifier identifier := by
  rw [TypeExpr.denote] at denotes
  rcases bind_eq_ok denotes with ⟨resolved, resolves, -⟩
  cases follows with
  | @pointer qualifier _ _ bound isPointer =>
      have bound' :
          (Scope.ofDeclared package declared).file.importPath?
            qualifier.name = some "unsafe" := bound
      simp only [Scope.resolve, Scope.resolveImported, bound'] at resolves
      rw [if_pos trivial] at resolves
      split at resolves
      case isTrue isPlain => exact isPlain.2
      case isFalse => cases resolves
  | declared notParameter _ | interface notParameter _ _
  | denoted notParameter _ =>
      exact resolveLocal_count notParameter resolves

end Roots

/--
What a declaration names may be mentioned as a field type of the same
declaration exactly if it has the number of type arguments that it takes.
Expanding the declaration checks everything else.
-/
theorem Package.expand_mentionable_iff
    {package : Package} {declared : Declared} {name : String}
    {span : Span} {qualifier : Option Identifier} {identifier : Identifier}
    {arguments : List TypeExpr} {root : NamedType}
    (found : package.type? name = some declared)
    (shape :
      declared.declaration.type =
        .name span qualifier identifier arguments)
    (expands : package.expand name = .ok root) :
    (∃ type, declared.declaration.type.denote
        (Scope.ofDeclared package declared) = .ok type) ↔
      arguments.length = package.wantedArguments qualifier identifier := by
  rw [Package.expand, found] at expands
  rcases bind_eq_ok expands with ⟨parameters, -, expands⟩
  rcases bind_eq_ok expands with ⟨type, succeeds, -⟩
  have follows := underlying_follows shape succeeds
  rw [shape]
  constructor
  · rintro ⟨_, denotes⟩
    exact follows.fits denotes
  · exact follows.denotes

theorem exists_error_of_toOption
    {ε α : Type} {result : Except ε α} (isNone : result.toOption = none) :
    ∃ fault, result = .error fault := by
  cases result with
  | error fault => exact ⟨fault, rfl⟩
  | ok value => cases isNone

theorem TypeExpr.exists_name
    {expression : TypeExpr}
    (isName : (expression matches .name ..) = true) :
    ∃ span qualifier identifier arguments,
      expression = .name span qualifier identifier arguments := by
  cases expression with
  | name span qualifier identifier arguments => exact ⟨_, _, _, _, rfl⟩
  | _ => cases isName

/-- A name for a struct that is not generic may be mentioned. -/
theorem Package.expand_mentionable_key :
    ∃ package declared root span identifier,
      Package.ofTexts "keys" "example/keys"
          [("key.go", ("package keys\n" ++
            "type Key struct \x7b a, b int \x7d\n" ++
            "type Other = Key\n").toList)] = .ok package ∧
        package.type? "Other" = some declared ∧
        declared.declaration.type = .name span none identifier [] ∧
        package.expand "Other" = .ok root ∧
        ∃ type, declared.declaration.type.denote
          (Scope.ofDeclared package declared) = .ok type := by
  generalize shape : Package.ofTexts _ _ _ = result
  have seen :
      (result.toOption.bind fun package =>
        (package.type? "Other").bind fun declared =>
          (package.expand "Other").toOption.map fun _ =>
            declared.declaration.type.bareName?.map fun identifier =>
              package.parameterCount identifier.name) =
        some (some 0) := by
    rw [← shape]
    decide +kernel
  rcases exists_expanded seen with
    ⟨package, declared, root, rfl, found, expands, seen⟩
  rcases Option.map_eq_some_iff.mp seen with ⟨identifier, isBare, takes⟩
  rcases TypeExpr.bareName?_eq_some isBare with ⟨span, isName⟩
  refine ⟨package, declared, root, span, identifier, rfl, found, isName,
    expands, ?_⟩
  exact (expand_mentionable_iff found isName expands).mpr takes.symm

/-- A generic type without arguments and the names of the universe with some can be followed, but
not mentioned. -/
theorem Package.expand_mentionable_generic :
    ∃ package,
      Package.ofTexts "pairs" "example/pairs"
          [("pair.go", ("package pairs\n" ++
            "import \"unsafe\"\n" ++
            "type Pair[T any] struct \x7b a, b T \x7d\n" ++
            "type Plain Pair\ntype Any any[int]\ntype Error = error[int]\n" ++
            "type Raw unsafe.Pointer[int]\n").toList)] = .ok package ∧
        ∀ name ∈ ["Plain", "Any", "Error", "Raw"],
          ∃ declared root fault, package.type? name = some declared ∧
            (∃ span qualifier identifier arguments,
              declared.declaration.type =
                .name span qualifier identifier arguments) ∧
            package.expand name = .ok root ∧
            declared.declaration.type.denote
              (Scope.ofDeclared package declared) = .error fault := by
  generalize shape : Package.ofTexts _ _ _ = result
  have seen :
      (result.toOption.map fun package =>
        ["Plain", "Any", "Error", "Raw"].map fun name =>
          (package.type? name).bind fun declared =>
            (package.expand name).toOption.map fun _ =>
              ((declared.declaration.type matches .name ..),
                (declared.declaration.type.denote
                  (Scope.ofDeclared package declared)).toOption.isNone)) =
        some (List.replicate 4 (some (true, true))) := by
    rw [← shape]
    decide +kernel
  rcases Option.map_eq_some_iff.mp seen with ⟨package, loads, seen⟩
  refine ⟨package, eq_ok_of_toOption loads, ?_⟩
  intro name isIn
  have isSeen := List.eq_of_mem_replicate
    (seen ▸ List.mem_map_of_mem isIn)
  rcases Option.bind_eq_some_iff.mp isSeen with ⟨declared, found, isSeen⟩
  rcases Option.map_eq_some_iff.mp isSeen with ⟨root, expands, isSeen⟩
  rcases Prod.mk.inj isSeen with ⟨isName, isNone⟩
  rcases exists_error_of_toOption (Option.isNone_iff_eq_none.mp isNone) with
    ⟨fault, fails⟩
  exact ⟨declared, root, fault, found, TypeExpr.exists_name isName,
    eq_ok_of_toOption expands, fails⟩

end GoUnion
