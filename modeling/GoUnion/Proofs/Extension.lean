import GoUnion.Proofs.Places
import GoUnion.Proofs.WellFormed.Denotation

/-!
# Extended packages

A package extends another one if it gives all the answers about names that the
other gives; it may give more.  Resolution asks for nothing else, so whatever is
expanded in a package is expanded to the same in every extension of it.  What
fails in a package may succeed in an extension.
-/

namespace GoUnion

open Reader (bind_eq_ok)
open Text (Span)

/-! ## Persistent results -/

/-- Whatever the first computation returns, the second one returns too. -/
def Persists {α : Type} (first second : Except LoadError α) : Prop :=
  ∀ value, first = .ok value → second = .ok value

namespace Persists

variable {α β : Type} {first second : Except LoadError α}

theorem refl (first : Except LoadError α) : Persists first first :=
  fun _ succeeds => succeeds

theorem error (fault : LoadError) : Persists (.error fault) second := by
  intro value succeeds
  cases succeeds

theorem bind
    {next next' : α → Except LoadError β}
    (persists : Persists first second)
    (each : ∀ value, Persists (next value) (next' value)) :
    Persists (first >>= next) (second >>= next') := by
  intro result succeeds
  rcases bind_eq_ok succeeds with ⟨value, yields, succeeds⟩
  rw [persists value yields]
  exact each value result succeeds

/-- A chain that goes on in the same way. -/
theorem andThen
    (persists : Persists first second) (next : α → Except LoadError β) :
    Persists (first >>= next) (second >>= next) :=
  persists.bind fun value => .refl (next value)

end Persists

/-! ## Extensions -/

/-- A package whose answers about names another package gives too.  A name of the universe is not
declared in the other package either. -/
structure Package.ExtendedBy (package package' : Package) : Prop where
  path : package'.path = package.path
  type? : ∀ name declared,
    package.type? name = some declared → package'.type? name = some declared
  universal : ∀ name type, package.type? name = none →
    Scope.universal? name = some type → package'.type? name = none
  constant? : ∀ name value,
    package.constant? name = some value →
      package'.constant? name = some value
  typeCount : package.typeCount ≤ package'.typeCount

/-- Scopes of the same declaration, in a package and in an extension of it. -/
structure Scope.ExtendedBy (scope scope' : Scope) : Prop where
  package : scope.package.ExtendedBy scope'.package
  file : scope'.file = scope.file
  parameters : scope'.parameters = scope.parameters
  carried : ∀ declared,
    Persists (scope.carried declared) (scope'.carried declared)

variable {scope scope' : Scope}

/-! ## Names -/

theorem persists_declared
    (extended : scope.ExtendedBy scope') (declared : Declared)
    (count : Nat) (span : Span) (arguments : List GoType) :
    Persists
      (scope.resolveDeclared declared count span >>= (· arguments))
      (scope'.resolveDeclared declared count span >>= (· arguments)) := by
  rw [Scope.resolveDeclared, Scope.resolveDeclared, extended.package.path]
  split
  case isTrue => exact (extended.carried declared).andThen _
  case isFalse =>
    split
    · exact .error _
    · exact .error _

theorem persists_local
    (extended : scope.ExtendedBy scope') (identifier : Identifier)
    (count : Nat) (span : Span) (arguments : List GoType) :
    Persists
      (scope.resolveLocal identifier count span >>= (· arguments))
      (scope'.resolveLocal identifier count span >>= (· arguments)) := by
  have parameter :
      scope'.isParameter identifier.name =
        scope.isParameter identifier.name := by
    rw [Scope.isParameter, Scope.isParameter, extended.parameters]
  rw [Scope.resolveLocal, Scope.resolveLocal, parameter,
    extended.package.path]
  split
  case isTrue =>
    split
    · exact .refl _
    · exact .error _
  case isFalse =>
    cases found : scope.package.type? identifier.name with
    | some declared =>
        rw [extended.package.type? _ declared found]
        exact persists_declared extended declared count span arguments
    | none =>
        dsimp only
        cases isUniversal : Scope.universal? identifier.name with
        | some type =>
            -- An extension declares no name of the universe, so the name keeps its meaning.
            rw [extended.package.universal _ type found isUniversal]
            dsimp only
            split
            · exact .refl _
            · exact .error _
        | none =>
            dsimp only
            split
            · exact .error _
            · exact .error _

/-- What a name stands for, it stands for in an extension. -/
theorem persists_resolve
    (extended : scope.ExtendedBy scope') (qualifier : Option Identifier)
    (identifier : Identifier) (count : Nat) (span : Span)
    (arguments : List GoType) :
    Persists
      (scope.resolve qualifier identifier count span >>= (· arguments))
      (scope'.resolve qualifier identifier count span >>=
        (· arguments)) := by
  cases qualifier with
  | none => exact persists_local extended identifier count span arguments
  | some qualifier =>
      rw [Scope.resolve, Scope.resolve, Scope.resolveImported,
        Scope.resolveImported, extended.file]
      split
      case h_1 => exact .error _
      case h_2 =>
        dsimp only
        split
        case isTrue =>
          split
          · exact .refl _
          · exact .error _
        case isFalse =>
          split
          · exact .refl _
          · exact .error _

theorem persists_arrayLength
    (extended : scope.ExtendedBy scope') (length : ArrayLength)
    (span : Span) :
    Persists (scope.arrayLength length span)
      (scope'.arrayLength length span) := by
  cases length with
  | literal value => exact .refl _
  | name identifier =>
      rw [Scope.arrayLength, Scope.arrayLength]
      cases found : scope.package.constant? identifier.name with
      | some value =>
          rw [extended.package.constant? _ value found]
          cases value with
          | integer number => exact .refl _
          | unknown => exact .error _
      | none => exact .error _
  | ellipsis => exact .error _
  | expression source => exact .error _

/-! ## Denotation -/

mutual

/-- What an expression denotes, it denotes in an extension. -/
theorem TypeExpr.persists_denote
    (extended : scope.ExtendedBy scope') : ∀ expression : TypeExpr,
      Persists (expression.denote scope) (expression.denote scope')
  | .name span qualifier identifier arguments => by
      intro type succeeds
      rw [TypeExpr.denote] at succeeds
      rcases bind_eq_ok succeeds with ⟨resolved, resolves, succeeds⟩
      rcases bind_eq_ok succeeds with ⟨types, denotes, yields⟩
      have names :=
        persists_resolve extended qualifier identifier arguments.length
          span types type
      rw [resolves] at names
      rcases bind_eq_ok (names yields) with
        ⟨resolved', resolves', yields'⟩
      have denotes' := persists_denoteAll extended arguments types denotes
      rw [TypeExpr.denote, resolves', denotes']
      exact yields'
  | .pointer _ element => by
      rw [TypeExpr.denote, TypeExpr.denote]
      exact (element.persists_denote extended).andThen _
  | .array span length element => by
      rw [TypeExpr.denote, TypeExpr.denote]
      apply (persists_arrayLength extended length span).bind
      intro value
      exact (element.persists_denote extended).andThen _
  | .slice _ element => by
      rw [TypeExpr.denote, TypeExpr.denote]
      exact (element.persists_denote extended).andThen _
  | .map _ key value => by
      rw [TypeExpr.denote, TypeExpr.denote]
      apply (key.persists_denote extended).bind
      intro keyType
      exact (value.persists_denote extended).andThen _
  | .channel _ direction element => by
      rw [TypeExpr.denote, TypeExpr.denote]
      exact (element.persists_denote extended).andThen _
  | .function _ type => by
      rw [TypeExpr.denote, TypeExpr.denote]
      exact (type.persists_denote extended).andThen _
  | .record _ fields => by
      rw [TypeExpr.denote, TypeExpr.denote]
      exact (persists_denoteFields extended fields).andThen _
  | .interface _ members => by
      rw [TypeExpr.denote, TypeExpr.denote]
      exact (persists_denoteMembers extended members).andThen _
  | .union _ terms => by
      rw [TypeExpr.denote, TypeExpr.denote]
      exact (persists_denoteTerms extended terms).andThen _

theorem persists_denoteAll
    (extended : scope.ExtendedBy scope') : ∀ types : List TypeExpr,
      Persists (denoteAll scope types) (denoteAll scope' types)
  | [] => .refl _
  | type :: types => by
      rw [denoteAll, denoteAll]
      apply (type.persists_denote extended).bind
      intro first
      exact (persists_denoteAll extended types).andThen _

theorem FunctionExpr.persists_denote
    (extended : scope.ExtendedBy scope') : ∀ type : FunctionExpr,
      Persists (type.denote scope) (type.denote scope')
  | ⟨parameters, results, variadic⟩ => by
      rw [FunctionExpr.denote, FunctionExpr.denote]
      apply (persists_denoteVariables extended variadic parameters).bind
      intro inputs
      exact (persists_denoteVariables extended false results).andThen _

theorem persists_denoteVariables
    (extended : scope.ExtendedBy scope') (variadic : Bool) :
      ∀ list : List ParameterExpr,
        Persists (denoteVariables scope variadic list)
          (denoteVariables scope' variadic list)
  | [] => .refl _
  | [⟨identifier, type⟩] => by
      rw [denoteVariables, denoteVariables]
      exact (type.persists_denote extended).andThen _
  | ⟨identifier, type⟩ :: ⟨identifier', type'⟩ :: rest => by
      rw [denoteVariables_cons_cons, denoteVariables_cons_cons]
      apply (type.persists_denote extended).bind
      intro first
      exact (persists_denoteVariables extended variadic
        (⟨identifier', type'⟩ :: rest)).andThen _

theorem persists_denoteFields
    (extended : scope.ExtendedBy scope') : ∀ fields : List FieldExpr,
      Persists (denoteFields scope fields) (denoteFields scope' fields)
  | [] => .refl _
  | ⟨identifier, type, tag, embedded⟩ :: fields => by
      rw [denoteFields, denoteFields]
      apply (type.persists_denote extended).bind
      intro first
      exact (persists_denoteFields extended fields).andThen _

theorem persists_denoteMembers
    (extended : scope.ExtendedBy scope') : ∀ members : List MemberExpr,
      Persists (denoteMembers scope members) (denoteMembers scope' members)
  | [] => .refl _
  | .method identifier type :: members => by
      rw [denoteMembers, denoteMembers]
      apply (type.persists_denote extended).bind
      intro signature
      exact (persists_denoteMembers extended members).andThen _
  | .embed type :: members => by
      rw [denoteMembers, denoteMembers]
      apply (type.persists_denote extended).bind
      intro first
      exact (persists_denoteMembers extended members).andThen _

theorem persists_denoteTerms
    (extended : scope.ExtendedBy scope') : ∀ terms : List TermExpr,
      Persists (denoteTerms scope terms) (denoteTerms scope' terms)
  | [] => .refl _
  | ⟨approximate, type⟩ :: terms => by
      rw [denoteTerms, denoteTerms]
      apply (type.persists_denote extended).bind
      intro first
      exact (persists_denoteTerms extended terms).andThen _

end

theorem persists_denoteParameters
    (extended : scope.ExtendedBy scope')
    (parameters : List TypeParameterExpr) :
    Persists (denoteParameters scope parameters)
      (denoteParameters scope' parameters) := by
  induction parameters with
  | nil => exact .refl _
  | cons parameter parameters ih =>
      rw [denoteParameters, denoteParameters, List.mapM_cons,
        List.mapM_cons]
      apply ((parameter.constraint.persists_denote extended).andThen _).bind
      intro first
      exact Persists.andThen ih _

/-! ## Expanding -/

section Packages

variable {package package' : Package}

namespace Package.ExtendedBy

theorem shallow
    (extended : package.ExtendedBy package') (declared : Declared) :
    (Scope.shallow package declared).ExtendedBy
      (Scope.shallow package' declared) where
  package := extended
  file := rfl
  parameters := rfl
  carried _ := .refl _

theorem ofDeclared
    (extended : package.ExtendedBy package') (declared : Declared) :
    (Scope.ofDeclared package declared).ExtendedBy
      (Scope.ofDeclared package' declared) where
  package := extended
  file := rfl
  parameters := rfl
  carried other := persists_denoteParameters (extended.shallow other) _

end Package.ExtendedBy

theorem persists_rootFields
    (extended : scope.ExtendedBy scope') (index : Nat)
    (fields : List FieldExpr) :
    Persists (scope.rootFields index fields)
      (scope'.rootFields index fields) := by
  rw [Persists]
  intro value succeeds
  rw [rootFields_eq_ok] at succeeds ⊢
  exact persists_denoteFields extended fields value succeeds

/-- A name that nothing declares denotes nothing. -/
theorem denote_undefined
    {span : Span} {identifier : Identifier} {arguments : List TypeExpr}
    (notParameter : ¬ scope.isParameter identifier.name = true)
    (undeclared : scope.package.type? identifier.name = none)
    (notUniversal : Scope.universal? identifier.name = none) :
    ∃ fault,
      (TypeExpr.name span none identifier arguments).denote scope =
        .error fault := by
  rw [TypeExpr.denote, Scope.resolve, Scope.resolveLocal,
    if_neg notParameter, undeclared, notUniversal]
  dsimp only
  split
  · exact ⟨_, rfl⟩
  · exact ⟨_, rfl⟩

/-- A declaration is followed in an extension where it is in the package. -/
theorem persists_underlying
    (extended : package.ExtendedBy package') {steps steps' : Nat}
    (atMost : steps ≤ steps') (declared : Declared) :
    Persists (package.underlying steps declared)
      (package'.underlying steps' declared) := by
  -- Running out of steps is a failure, and nothing has to persist of a failure; so the
  -- extension may take more steps, as it does when it declares more types.
  induction steps using Nat.strongRecOn generalizing steps' declared with
  | ind steps ih =>
      have extendedScope := extended.ofDeclared declared
      have denotes :=
        declared.declaration.type.persists_denote extendedScope
      have parameter (name : String) :
          (Scope.ofDeclared package' declared).isParameter name =
            (Scope.ofDeclared package declared).isParameter name := rfl
      unfold Package.underlying
      dsimp only
      split
      case h_1 =>
        split
        · exact .error _
        · split
          · exact .refl _
          · exact .error _
      case h_2 span identifier arguments shape =>
        rw [parameter]
        split
        case isTrue => exact .error _
        case isFalse notParameter =>
          cases found : package.type? identifier.name with
          | some target =>
              rw [extended.type? _ target found]
              dsimp only
              split
              case isTrue =>
                cases steps with
                | zero => exact .error _
                | succ steps =>
                    obtain ⟨more, rfl⟩ :
                        ∃ more, steps' = more + 1 :=
                      ⟨steps' - 1, by omega⟩
                    exact ih steps (Nat.lt_succ_self _)
                      (Nat.le_of_succ_le_succ atMost) target
              case isFalse => exact .error _
          | none =>
              cases isUniversal : Scope.universal? identifier.name with
              | some type =>
                  rw [extended.universal _ type found isUniversal]
                  dsimp only
                  split
                  · exact .refl _
                  · split
                    · exact .refl _
                    · split
                      · exact .error _
                      · exact denotes
              | none =>
                  -- The extension may declare this name, but here it fails.
                  have notAny : identifier.name ≠ "any" := by
                    intro isAny
                    rw [isAny] at isUniversal
                    cases isUniversal
                  have notError : identifier.name ≠ "error" := by
                    intro isError
                    rw [isError] at isUniversal
                    cases isUniversal
                  rcases denote_undefined notParameter found isUniversal
                    with ⟨fault, fails⟩
                  dsimp only
                  rw [if_neg notAny, if_neg notError, shape, fails]
                  split
                  · exact .error _
                  · exact .error _
      case h_3 span fields shape =>
        exact (persists_rootFields extendedScope 0 fields).andThen _
      case h_4 => exact denotes

/-- Whatever is expanded in a package is expanded to the same in an extension. -/
theorem Package.ExtendedBy.expand
    (extended : package.ExtendedBy package') {name : String}
    {root : NamedType} (expands : package.expand name = .ok root) :
    package'.expand name = .ok root := by
  rw [Package.expand] at expands ⊢
  cases found : package.type? name with
  | none =>
      rw [found] at expands
      cases expands
  | some declared =>
      rw [found] at expands
      rw [extended.type? name declared found, extended.path]
      revert expands
      apply (persists_denoteParameters (extended.ofDeclared declared)
        _).bind
      intro parameters
      exact (persists_underlying extended extended.typeCount
        declared).andThen _

/-- A struct that is loaded is a declaration that is expanded. -/
theorem Package.expand_of_loadRecord
    {name : String} {root : NamedType}
    (loads : package.loadRecord name = .ok root) :
    package.expand name = .ok root := by
  rcases bind_eq_ok loads with ⟨type, expands, isRecord⟩
  split at isRecord
  case isTrue =>
    cases isRecord
    exact expands
  case isFalse => cases isRecord

theorem Package.ExtendedBy.loadRecord
    (extended : package.ExtendedBy package') {name : String}
    {root : NamedType} (loads : package.loadRecord name = .ok root) :
    package'.loadRecord name = .ok root := by
  rcases bind_eq_ok loads with ⟨type, expands, isRecord⟩
  rw [Package.loadRecord, extended.expand expands]
  exact isRecord

end Packages

end GoUnion
