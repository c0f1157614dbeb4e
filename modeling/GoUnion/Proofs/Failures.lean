import GoUnion.Proofs.Places
import GoUnion.Proofs.Positions

/-!
# Errors of resolution

Resolution fails at a piece of the expression that it resolves: at a name, at a
type, or inside the parameters that a reference carries.  Which errors these can
be is asked in several ways.  What holds of the errors that a scope gives at the
pieces of an expression holds of every error of what the expression denotes.

A scope never finds that declarations go round in a circle: references are not
followed here.
-/

namespace GoUnion

/-! ## Errors of a kind -/

/-- A computation that fails with errors of a kind only. -/
def FailsOnly
    {α : Type} (allowed : LoadError → Prop)
    (result : Except LoadError α) : Prop :=
  ∀ error, result = .error error → allowed error

namespace FailsOnly

variable {α β : Type} {allowed : LoadError → Prop}

theorem ok (value : α) : FailsOnly allowed (.ok value) := by
  intro error fails
  cases fails

theorem error
    {fault : LoadError} (isAllowed : allowed fault) :
    FailsOnly allowed (.error fault : Except LoadError α) := by
  intro error fails
  cases fails
  exact isAllowed

theorem bind
    {first : Except LoadError α} {next : α → Except LoadError β}
    (fails : FailsOnly allowed first)
    (each : ∀ value, first = .ok value → FailsOnly allowed (next value)) :
    FailsOnly allowed (first >>= next) := by
  cases first with
  | error fault => exact error (fails fault rfl)
  | ok value => exact each value rfl

/-- A chain of which only the first part can fail. -/
theorem andReturn
    {first : Except LoadError α} {wrap : α → β}
    (fails : FailsOnly allowed first) :
    FailsOnly allowed (do return wrap (← first)) :=
  fails.bind fun value _ => ok (wrap value)

theorem mapM
    {list : List α} {next : α → Except LoadError β}
    (each : ∀ value ∈ list, FailsOnly allowed (next value)) :
    FailsOnly allowed (list.mapM next) := by
  induction list with
  | nil => exact ok []
  | cons value list ih =>
      rw [List.mapM_cons]
      have later := ih fun value isIn =>
        each value (List.mem_cons_of_mem _ isIn)
      exact (each value List.mem_cons_self).bind fun _ _ => later.andReturn

end FailsOnly

/-! ## Pieces -/

/-- Pieces of which each is as it should be. -/
def AllPieces (proper : Piece → Prop) (pieces : List Piece) : Prop :=
  ∀ piece ∈ pieces, proper piece

namespace AllPieces

variable {proper : Piece → Prop} {piece : Piece}
  {pieces more : List Piece}

theorem head (all : AllPieces proper (piece :: pieces)) : proper piece :=
  all piece List.mem_cons_self

theorem tail (all : AllPieces proper (piece :: pieces)) :
    AllPieces proper pieces :=
  fun piece isIn => all piece (List.mem_cons_of_mem _ isIn)

theorem left (all : AllPieces proper (pieces ++ more)) :
    AllPieces proper pieces :=
  fun piece isIn => all piece (List.mem_append_left _ isIn)

theorem right (all : AllPieces proper (pieces ++ more)) :
    AllPieces proper more :=
  fun piece isIn => all piece (List.mem_append_right _ isIn)

end AllPieces

/-! ## Scopes that give errors of a kind -/

/-- The identifier of a name that does not resolve. -/
def UnknownName.identifier : UnknownName → String
  | .plain name | .inUnsafe name | .unexported _ name => name

/-- Whether a construct is a chain of declarations that was followed for too long. -/
def Construct.isRecursion : Construct → Bool
  | .recursiveType _ => true
  | _ => false

/-- A scope whose errors at proper pieces are of a kind, and in which references carry parameters
that fail with errors of that kind only. -/
structure Scope.Confines
    (scope : Scope) (allowed : LoadError → Prop) (proper : Piece → Prop) :
    Prop where
  unsupported {piece : Piece} {construct : Construct} :
    proper piece → construct.isRecursion = false →
      allowed (scope.unsupported construct piece.span)
  arity {piece : Piece} (fault : ArityFault) :
    proper piece → allowed (scope.arity fault piece.span)
  undefined {identifier : Identifier} {unknown : UnknownName} :
    proper (.identifier identifier) →
      unknown.identifier = identifier.name →
        allowed (scope.undefined unknown identifier.span)
  carried {declared : Declared} :
    declared ∈ scope.package.declared →
      FailsOnly allowed (scope.carried declared)

variable {scope : Scope} {allowed : LoadError → Prop}
  {proper : Piece → Prop}

/-! ## Names -/

/-- A name that resolves to what fails with errors of a kind only, or that is such an error. -/
def ResolvesOnly
    (allowed : LoadError → Prop) : Except LoadError Scope.Resolved → Prop
  | .error error => allowed error
  | .ok resolved => ∀ arguments, FailsOnly allowed (resolved arguments)

theorem ResolvesOnly.apply
    {allowed : LoadError → Prop} {name : Except LoadError Scope.Resolved}
    {arguments : Except LoadError (List GoType)}
    (resolves : ResolvesOnly allowed name)
    (fails : FailsOnly allowed arguments) :
    FailsOnly allowed (do
      let resolved ← name
      resolved (← arguments)) := by
  cases name with
  | error fault => exact .error resolves
  | ok resolved => exact fails.bind fun values _ => resolves values

section Names

variable (confines : scope.Confines allowed proper)
include confines

theorem resolvesOnly_declared
    {declared : Declared} {piece : Piece}
    (isDeclared : declared ∈ scope.package.declared)
    (isPiece : proper piece) (count : Nat) :
    ResolvesOnly allowed
      (scope.resolveDeclared declared count piece.span) := by
  unfold Scope.resolveDeclared
  dsimp only
  split
  case isTrue =>
    intro arguments
    exact (confines.carried isDeclared).andReturn
  case isFalse =>
    split
    · exact confines.arity _ isPiece
    · exact confines.arity _ isPiece

theorem resolvesOnly_local
    {identifier : Identifier} {piece : Piece}
    (isName : proper (.identifier identifier)) (isPiece : proper piece)
    (count : Nat) :
    ResolvesOnly allowed
      (scope.resolveLocal identifier count piece.span) := by
  unfold Scope.resolveLocal
  dsimp only
  split
  case isTrue =>
    split
    · exact fun _ => .ok _
    · exact confines.unsupported isPiece rfl
  case isFalse =>
    split
    case h_1 declared found =>
      exact resolvesOnly_declared confines
        (List.mem_of_find?_eq_some found) isPiece count
    case h_2 =>
      split
      case h_1 =>
        split
        · exact fun _ => .ok _
        · exact confines.arity _ isPiece
      case h_2 =>
        split
        · exact confines.unsupported isPiece rfl
        · exact confines.undefined isName rfl

theorem resolvesOnly_imported
    {qualifier identifier : Identifier}
    (isQualifier : proper (.identifier qualifier))
    (isName : proper (.identifier identifier)) (count : Nat) :
    ResolvesOnly allowed
      (scope.resolveImported qualifier identifier count) := by
  unfold Scope.resolveImported
  split
  case h_1 => exact confines.undefined isQualifier rfl
  case h_2 =>
    dsimp only
    split
    case isTrue =>
      split
      · exact fun _ => .ok _
      · exact confines.undefined isName rfl
    case isFalse =>
      split
      · exact fun _ => .ok _
      · exact confines.undefined isName rfl

theorem resolvesOnly_resolve
    {qualifier : Option Identifier} {identifier : Identifier}
    {piece : Piece}
    (isQualifier :
      AllPieces proper (qualifier.toList.map .identifier))
    (isName : proper (.identifier identifier)) (isPiece : proper piece)
    (count : Nat) :
    ResolvesOnly allowed
      (scope.resolve qualifier identifier count piece.span) := by
  cases qualifier with
  | none => exact resolvesOnly_local confines isName isPiece count
  | some qualifier =>
      exact resolvesOnly_imported confines isQualifier.head isName count

theorem failsOnly_arrayLength
    {length : ArrayLength} {piece : Piece}
    (all : AllPieces proper length.pieces) (isPiece : proper piece) :
    FailsOnly allowed (scope.arrayLength length piece.span) := by
  cases length with
  | literal value => exact .ok value
  | name identifier =>
      rw [Scope.arrayLength]
      split
      · exact .ok _
      · exact .error (confines.unsupported isPiece rfl)
      · exact .error (confines.undefined all.head rfl)
  | ellipsis => exact .error (confines.unsupported isPiece rfl)
  | expression source => exact .error (confines.unsupported isPiece rfl)

end Names

/-! ## Denotation -/

mutual

/-- An expression whose pieces are proper fails to denote a type at one of them only. -/
theorem TypeExpr.failsOnly_denote
    (confines : scope.Confines allowed proper) : ∀ expression : TypeExpr,
      AllPieces proper expression.pieces →
        FailsOnly allowed (expression.denote scope)
  | .name span qualifier identifier arguments, all => by
      rw [TypeExpr.pieces] at all
      rw [TypeExpr.denote]
      exact (resolvesOnly_resolve confines all.tail.left
        all.tail.right.head all.head _).apply
          (failsOnly_denoteAll confines arguments all.tail.right.tail)
  | .pointer _ element, all => by
      rw [TypeExpr.pieces] at all
      rw [TypeExpr.denote]
      exact (element.failsOnly_denote confines all.tail).andReturn
  | .array span length element, all => by
      rw [TypeExpr.pieces] at all
      rw [TypeExpr.denote]
      apply (failsOnly_arrayLength confines all.tail.left
        all.head).bind
      intro value _
      exact (element.failsOnly_denote confines all.tail.right).andReturn
  | .slice _ element, all => by
      rw [TypeExpr.pieces] at all
      rw [TypeExpr.denote]
      exact (element.failsOnly_denote confines all.tail).andReturn
  | .map _ key value, all => by
      rw [TypeExpr.pieces] at all
      rw [TypeExpr.denote]
      apply (key.failsOnly_denote confines all.tail.left).bind
      intro keyType _
      exact (value.failsOnly_denote confines all.tail.right).andReturn
  | .channel _ direction element, all => by
      rw [TypeExpr.pieces] at all
      rw [TypeExpr.denote]
      exact (element.failsOnly_denote confines all.tail).andReturn
  | .function _ type, all => by
      rw [TypeExpr.pieces] at all
      rw [TypeExpr.denote]
      exact (type.failsOnly_denote confines all.tail).andReturn
  | .record _ fields, all => by
      rw [TypeExpr.pieces] at all
      rw [TypeExpr.denote]
      exact (failsOnly_denoteFields confines fields all.tail).andReturn
  | .interface _ members, all => by
      rw [TypeExpr.pieces] at all
      rw [TypeExpr.denote]
      exact (failsOnly_denoteMembers confines members all.tail).bind
        fun _ _ => .ok _
  | .union _ terms, all => by
      rw [TypeExpr.pieces] at all
      rw [TypeExpr.denote]
      exact (failsOnly_denoteTerms confines terms all.tail).andReturn

theorem failsOnly_denoteAll
    (confines : scope.Confines allowed proper) : ∀ types : List TypeExpr,
      AllPieces proper (piecesOfTypes types) →
        FailsOnly allowed (denoteAll scope types)
  | [], _ => .ok []
  | type :: types, all => by
      rw [piecesOfTypes] at all
      rw [denoteAll]
      apply (type.failsOnly_denote confines all.left).bind
      intro first _
      exact (failsOnly_denoteAll confines types all.right).andReturn

theorem FunctionExpr.failsOnly_denote
    (confines : scope.Confines allowed proper) : ∀ type : FunctionExpr,
      AllPieces proper type.pieces →
        FailsOnly allowed (type.denote scope)
  | ⟨parameters, results, variadic⟩, all => by
      rw [FunctionExpr.pieces] at all
      rw [FunctionExpr.denote]
      apply (failsOnly_denoteVariables confines variadic parameters
        all.left).bind
      intro denoted _
      exact (failsOnly_denoteVariables confines false results
        all.right).andReturn

theorem failsOnly_denoteVariables
    (confines : scope.Confines allowed proper) (variadic : Bool) :
      ∀ list : List ParameterExpr,
        AllPieces proper (piecesOfVariables list) →
          FailsOnly allowed (denoteVariables scope variadic list)
  | [], _ => .ok []
  | [⟨identifier, type⟩], all => by
      rw [piecesOfVariables] at all
      rw [denoteVariables]
      exact (type.failsOnly_denote confines all.left.right).andReturn
  | ⟨identifier, type⟩ :: ⟨identifier', type'⟩ :: rest, all => by
      rw [piecesOfVariables] at all
      rw [denoteVariables_cons_cons]
      apply (type.failsOnly_denote confines all.left.right).bind
      intro first _
      exact (failsOnly_denoteVariables confines variadic
        (⟨identifier', type'⟩ :: rest) all.right).andReturn

theorem failsOnly_denoteFields
    (confines : scope.Confines allowed proper) : ∀ fields : List FieldExpr,
      AllPieces proper (piecesOfFields fields) →
        FailsOnly allowed (denoteFields scope fields)
  | [], _ => .ok []
  | ⟨identifier, type, tag, embedded⟩ :: fields, all => by
      rw [piecesOfFields] at all
      rw [denoteFields]
      apply (type.failsOnly_denote confines all.left.tail).bind
      intro first _
      exact (failsOnly_denoteFields confines fields all.right).andReturn

theorem failsOnly_denoteMembers
    (confines : scope.Confines allowed proper) : ∀ members : List MemberExpr,
      AllPieces proper (piecesOfMembers members) →
        FailsOnly allowed (denoteMembers scope members)
  | [], _ => .ok _
  | .method identifier type :: members, all => by
      rw [piecesOfMembers] at all
      rw [denoteMembers]
      apply (type.failsOnly_denote confines all.left.tail).bind
      intro signature _
      exact (failsOnly_denoteMembers confines members all.right).bind
        fun _ _ => .ok _
  | .embed type :: members, all => by
      rw [piecesOfMembers] at all
      rw [denoteMembers]
      apply (type.failsOnly_denote confines all.left).bind
      intro first _
      exact (failsOnly_denoteMembers confines members all.right).bind
        fun _ _ => .ok _

theorem failsOnly_denoteTerms
    (confines : scope.Confines allowed proper) : ∀ terms : List TermExpr,
      AllPieces proper (piecesOfTerms terms) →
        FailsOnly allowed (denoteTerms scope terms)
  | [], _ => .ok []
  | ⟨approximate, type⟩ :: terms, all => by
      rw [piecesOfTerms] at all
      rw [denoteTerms]
      apply (type.failsOnly_denote confines all.left).bind
      intro first _
      exact (failsOnly_denoteTerms confines terms all.right).andReturn

end

theorem failsOnly_denoteParameters
    (confines : scope.Confines allowed proper) {parameters : List TypeParameterExpr}
    (all : AllPieces proper (parameters.flatMap (·.pieces))) :
    FailsOnly allowed (denoteParameters scope parameters) := by
  apply FailsOnly.mapM
  intro parameter isIn
  have own : AllPieces proper parameter.pieces :=
    fun piece isPiece =>
      all piece (List.mem_flatMap.mpr ⟨parameter, isIn, isPiece⟩)
  exact (parameter.constraint.failsOnly_denote confines own.tail).andReturn

/-- The fields of the declaration that was asked for fail as their types do, but for saying in which
field that was. -/
theorem failsOnly_rootFields
    (confines : scope.Confines allowed proper)
    (inField : ∀ error index name, allowed error →
      allowed (Scope.inField index name error))
    {fields : List FieldExpr} (index : Nat)
    (all : AllPieces proper (piecesOfFields fields)) :
    FailsOnly allowed (scope.rootFields index fields) := by
  induction fields generalizing index with
  | nil => exact .ok []
  | cons field fields ih =>
      rw [piecesOfFields_eq_flatMap, List.flatMap_cons,
        ← piecesOfFields_eq_flatMap] at all
      have own := field.type.failsOnly_denote confines all.left.tail
      rw [Scope.rootFields]
      split
      case h_1 fault fails =>
        exact .error (inField fault index _ (own fault fails))
      case h_2 =>
        exact (ih (index + 1) all.right).andReturn

end GoUnion
