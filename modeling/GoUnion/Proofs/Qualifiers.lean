import GoUnion.Proofs.Extension
import GoUnion.Proofs.Positions

/-!
# Expressions with other qualifiers

A qualifier is looked up in the imports of its file, and stands for the path of
a package.  Nothing else depends on how it is written.  So an expression that is
written with other qualifiers denotes the same, if every qualifier of it stands
for the path that the other one stands for.
-/

namespace GoUnion

open Reader (bind_eq_ok)
open Text (Span)

/-! ## Renaming qualifiers -/

/-- An identifier with another name. -/
def Identifier.renamed
    (rename : String → String) (identifier : Identifier) : Identifier :=
  ⟨rename identifier.name, identifier.span⟩

mutual

/-- A type expression with renamed qualifiers. -/
def TypeExpr.requalified (rename : String → String) : TypeExpr → TypeExpr
  | .name span qualifier identifier arguments =>
    .name span (qualifier.map (·.renamed rename)) identifier
      (requalifiedAll rename arguments)
  | .pointer span element => .pointer span (element.requalified rename)
  | .array span length element =>
    .array span length (element.requalified rename)
  | .slice span element => .slice span (element.requalified rename)
  | .map span key value =>
    .map span (key.requalified rename) (value.requalified rename)
  | .channel span direction element =>
    .channel span direction (element.requalified rename)
  | .function span type => .function span (type.requalified rename)
  | .record span fields => .record span (requalifiedFields rename fields)
  | .interface span members =>
    .interface span (requalifiedMembers rename members)
  | .union span terms => .union span (requalifiedTerms rename terms)

/-- Some type expressions with renamed qualifiers. -/
def requalifiedAll (rename : String → String) :
    List TypeExpr → List TypeExpr
  | [] => []
  | type :: types => type.requalified rename :: requalifiedAll rename types

/-- The type of a function with renamed qualifiers. -/
def FunctionExpr.requalified (rename : String → String) :
    FunctionExpr → FunctionExpr
  | ⟨parameters, results, variadic⟩ =>
    ⟨requalifiedVariables rename parameters,
      requalifiedVariables rename results, variadic⟩

/-- Parameters or results with renamed qualifiers. -/
def requalifiedVariables (rename : String → String) :
    List ParameterExpr → List ParameterExpr
  | [] => []
  | ⟨identifier, type⟩ :: rest =>
    ⟨identifier, type.requalified rename⟩ ::
      requalifiedVariables rename rest

/-- The fields of a struct with renamed qualifiers. -/
def requalifiedFields (rename : String → String) :
    List FieldExpr → List FieldExpr
  | [] => []
  | ⟨identifier, type, tag, embedded⟩ :: fields =>
    ⟨identifier, type.requalified rename, tag, embedded⟩ ::
      requalifiedFields rename fields

/-- The elements of an interface with renamed qualifiers. -/
def requalifiedMembers (rename : String → String) :
    List MemberExpr → List MemberExpr
  | [] => []
  | .method identifier type :: members =>
    .method identifier (type.requalified rename) ::
      requalifiedMembers rename members
  | .embed type :: members =>
    .embed (type.requalified rename) :: requalifiedMembers rename members

/-- The terms of a union with renamed qualifiers. -/
def requalifiedTerms (rename : String → String) :
    List TermExpr → List TermExpr
  | [] => []
  | ⟨approximate, type⟩ :: terms =>
    ⟨approximate, type.requalified rename⟩ :: requalifiedTerms rename terms

end

@[simp]
theorem length_requalifiedAll
    (rename : String → String) (types : List TypeExpr) :
    (requalifiedAll rename types).length = types.length := by
  induction types with
  | nil => rfl
  | cons type types ih => rw [requalifiedAll, List.length_cons, ih]; rfl

mutual

/-- Nothing changes if every qualifier keeps its name. -/
@[simp]
theorem TypeExpr.requalified_id : ∀ expression : TypeExpr,
    expression.requalified id = expression
  | .name _ qualifier _ arguments => by
      have same : qualifier.map (·.renamed id) = qualifier :=
        Option.map_id'
      rw [TypeExpr.requalified, same, requalifiedAll_id arguments]
  | .pointer _ element | .array _ _ element | .slice _ element
  | .channel _ _ element => by rw [TypeExpr.requalified, element.requalified_id]
  | .map _ key value => by
      rw [TypeExpr.requalified, key.requalified_id, value.requalified_id]
  | .function _ type => by rw [TypeExpr.requalified, type.requalified_id]
  | .record _ fields => by
      rw [TypeExpr.requalified, requalifiedFields_id fields]
  | .interface _ members => by
      rw [TypeExpr.requalified, requalifiedMembers_id members]
  | .union _ terms => by rw [TypeExpr.requalified, requalifiedTerms_id terms]

theorem requalifiedAll_id : ∀ types : List TypeExpr,
    requalifiedAll id types = types
  | [] => rfl
  | type :: types => by
      rw [requalifiedAll, type.requalified_id, requalifiedAll_id types]

theorem FunctionExpr.requalified_id : ∀ type : FunctionExpr,
    type.requalified id = type
  | ⟨parameters, results, _⟩ => by
      rw [FunctionExpr.requalified, requalifiedVariables_id parameters,
        requalifiedVariables_id results]

theorem requalifiedVariables_id : ∀ list : List ParameterExpr,
    requalifiedVariables id list = list
  | [] => rfl
  | ⟨_, type⟩ :: rest => by
      rw [requalifiedVariables, type.requalified_id,
        requalifiedVariables_id rest]

theorem requalifiedFields_id : ∀ fields : List FieldExpr,
    requalifiedFields id fields = fields
  | [] => rfl
  | ⟨_, type, _, _⟩ :: fields => by
      rw [requalifiedFields, type.requalified_id,
        requalifiedFields_id fields]

theorem requalifiedMembers_id : ∀ members : List MemberExpr,
    requalifiedMembers id members = members
  | [] => rfl
  | .method _ type :: members => by
      rw [requalifiedMembers, type.requalified_id,
        requalifiedMembers_id members]
  | .embed type :: members => by
      rw [requalifiedMembers, type.requalified_id,
        requalifiedMembers_id members]

theorem requalifiedTerms_id : ∀ terms : List TermExpr,
    requalifiedTerms id terms = terms
  | [] => rfl
  | ⟨_, type⟩ :: terms => by
      rw [requalifiedTerms, type.requalified_id, requalifiedTerms_id terms]

end

/-! ## Qualifiers that keep their paths -/

/-- The qualifier of a piece that is a qualified name. -/
def Piece.qualifier? : Piece → Option String
  | .type (.name _ (some qualifier) _ _) => some qualifier.name
  | _ => none

/-- What the qualifiers of some pieces stand for under one renaming, they stand for in another
file under another renaming. -/
def KeepsPaths
    (file file' : PackageFile) (rename rename' : String → String)
    (pieces : List Piece) : Prop :=
  ∀ piece ∈ pieces, ∀ qualifier ∈ piece.qualifier?, ∀ path,
    file.importPath? (rename qualifier) = some path →
      file'.importPath? (rename' qualifier) = some path

namespace KeepsPaths

variable {file file' : PackageFile} {rename rename' : String → String}
  {piece : Piece} {pieces more : List Piece}

theorem tail
    (keeps : KeepsPaths file file' rename rename' (piece :: pieces)) :
    KeepsPaths file file' rename rename' pieces :=
  fun piece isIn => keeps piece (List.mem_cons_of_mem _ isIn)

theorem left
    (keeps : KeepsPaths file file' rename rename' (pieces ++ more)) :
    KeepsPaths file file' rename rename' pieces :=
  fun piece isIn => keeps piece (List.mem_append_left _ isIn)

theorem right
    (keeps : KeepsPaths file file' rename rename' (pieces ++ more)) :
    KeepsPaths file file' rename rename' more :=
  fun piece isIn => keeps piece (List.mem_append_right _ isIn)

theorem refl (file : PackageFile) (pieces : List Piece) :
    KeepsPaths file file rename rename pieces :=
  fun _ _ _ _ _ found => found

end KeepsPaths

/-! ## Scopes that are mirrored -/

/-- Two declarations that a reference cannot tell apart.  What a reference to the first one
carries, a reference to the second one carries too. -/
structure Scope.MirrorsDeclared
    (scope scope' : Scope) (declared declared' : Declared) : Prop where
  name : declared'.name = declared.name
  count :
    declared'.declaration.parameters.length =
      declared.declaration.parameters.length
  carried : Persists (scope.carried declared) (scope'.carried declared')

/-- A scope whose answers about names another scope gives too, the ones about qualifiers apart. -/
structure Scope.MirroredBy (scope scope' : Scope) : Prop where
  path : scope'.package.path = scope.package.path
  isParameter : ∀ name, scope'.isParameter name = scope.isParameter name
  constant? : ∀ name,
    scope'.package.constant? name = scope.package.constant? name
  declared : ∀ name, Option.Rel (scope.MirrorsDeclared scope')
    (scope.package.type? name) (scope'.package.type? name)

variable {scope scope' : Scope} {rename rename' : String → String}

namespace Scope.MirroredBy

theorem persists_declared
    (mirrored : scope.MirroredBy scope') {declared declared' : Declared}
    (mirrors : scope.MirrorsDeclared scope' declared declared')
    (count : Nat) (span : Span) (arguments : List GoType) :
    Persists
      (scope.resolveDeclared declared count span >>= (· arguments))
      (scope'.resolveDeclared declared' count span >>= (· arguments)) := by
  rw [Scope.resolveDeclared, Scope.resolveDeclared, mirrors.count,
    mirrors.name, mirrored.path]
  split
  case isTrue => exact mirrors.carried.andThen _
  case isFalse =>
    split
    · exact .error _
    · exact .error _

theorem persists_local
    (mirrored : scope.MirroredBy scope') (identifier : Identifier)
    (count : Nat) (span : Span) (arguments : List GoType) :
    Persists
      (scope.resolveLocal identifier count span >>= (· arguments))
      (scope'.resolveLocal identifier count span >>= (· arguments)) := by
  rw [Scope.resolveLocal, Scope.resolveLocal, mirrored.isParameter,
    mirrored.path]
  split
  case isTrue =>
    split
    · exact .refl _
    · exact .error _
  case isFalse =>
    have found := mirrored.declared identifier.name
    generalize scope.package.type? identifier.name = first at found
    generalize scope'.package.type? identifier.name = second at found
    cases found with
    | some mirrors =>
        exact mirrored.persists_declared mirrors count span arguments
    | none =>
        dsimp only
        split
        case h_1 =>
          split
          · exact .refl _
          · exact .error _
        case h_2 =>
          split
          · exact .error _
          · exact .error _

/-- A qualified name stands for the same where its qualifiers stand for the same path. -/
theorem persists_imported
    {owner owner' : Identifier}
    (paths : ∀ path, scope.file.importPath? owner.name = some path →
      scope'.file.importPath? owner'.name = some path)
    (identifier : Identifier) (count : Nat) (arguments : List GoType) :
    Persists
      (scope.resolveImported owner identifier count >>= (· arguments))
      (scope'.resolveImported owner' identifier count >>=
        (· arguments)) := by
  rw [Scope.resolveImported, Scope.resolveImported]
  cases found : scope.file.importPath? owner.name with
  | none => exact .error _
  | some path =>
      rw [paths path found]
      dsimp only
      split
      case isTrue =>
        split
        · exact .refl _
        · exact .error _
      case isFalse =>
        split
        · exact .refl _
        · exact .error _

/-- A name stands for the same with renamed qualifiers that keep their paths. -/
theorem persists_resolve
    (mirrored : scope.MirroredBy scope') (qualifier : Option Identifier)
    (paths : ∀ owner ∈ qualifier, ∀ path,
      scope.file.importPath? (rename owner.name) = some path →
        scope'.file.importPath? (rename' owner.name) = some path)
    (identifier : Identifier) (count : Nat) (span : Span)
    (arguments : List GoType) :
    Persists
      (scope.resolve (qualifier.map (·.renamed rename)) identifier count
        span >>= (· arguments))
      (scope'.resolve (qualifier.map (·.renamed rename')) identifier count
        span >>= (· arguments)) := by
  cases qualifier with
  | none => exact mirrored.persists_local identifier count span arguments
  | some owner =>
      exact persists_imported (paths owner rfl) identifier count arguments

theorem persists_arrayLength
    (mirrored : scope.MirroredBy scope') (length : ArrayLength)
    (span : Span) :
    Persists (scope.arrayLength length span)
      (scope'.arrayLength length span) := by
  cases length with
  | literal value => exact .refl _
  | name identifier =>
      rw [Scope.arrayLength, Scope.arrayLength, mirrored.constant?]
      split
      · exact .refl _
      · exact .error _
      · exact .error _
  | ellipsis => exact .error _
  | expression source => exact .error _

end Scope.MirroredBy

/-! ## Denotation -/

mutual

/-- What an expression denotes, it denotes with renamed qualifiers that keep their paths. -/
theorem TypeExpr.persists_requalified
    (mirrored : scope.MirroredBy scope') : ∀ expression : TypeExpr,
      KeepsPaths scope.file scope'.file rename rename' expression.pieces →
        Persists ((expression.requalified rename).denote scope)
          ((expression.requalified rename').denote scope')
  | .name span qualifier identifier arguments, keeps => by
      rw [TypeExpr.pieces] at keeps
      have paths : ∀ owner ∈ qualifier, ∀ path,
          scope.file.importPath? (rename owner.name) = some path →
            scope'.file.importPath? (rename' owner.name) = some path := by
        rintro owner rfl
        exact keeps _ List.mem_cons_self owner.name rfl
      intro type succeeds
      rw [TypeExpr.requalified, TypeExpr.denote,
        length_requalifiedAll] at succeeds ⊢
      rcases bind_eq_ok succeeds with ⟨resolved, resolves, succeeds⟩
      rcases bind_eq_ok succeeds with ⟨types, denotes, yields⟩
      have names := mirrored.persists_resolve qualifier paths identifier
        arguments.length span types type
      rw [resolves] at names
      rcases bind_eq_ok (names yields) with
        ⟨resolved', resolves', yields'⟩
      rw [resolves', persists_requalifiedAll mirrored arguments
        keeps.tail.right.tail types denotes]
      exact yields'
  | .pointer _ element, keeps => by
      rw [TypeExpr.requalified, TypeExpr.requalified, TypeExpr.denote,
        TypeExpr.denote]
      rw [TypeExpr.pieces] at keeps
      exact (element.persists_requalified mirrored keeps.tail).andThen _
  | .array span length element, keeps => by
      rw [TypeExpr.requalified, TypeExpr.requalified, TypeExpr.denote,
        TypeExpr.denote]
      rw [TypeExpr.pieces] at keeps
      apply (mirrored.persists_arrayLength length span).bind
      intro value
      exact (element.persists_requalified mirrored keeps.tail.right).andThen
        _
  | .slice _ element, keeps => by
      rw [TypeExpr.requalified, TypeExpr.requalified, TypeExpr.denote,
        TypeExpr.denote]
      rw [TypeExpr.pieces] at keeps
      exact (element.persists_requalified mirrored keeps.tail).andThen _
  | .map _ key value, keeps => by
      rw [TypeExpr.requalified, TypeExpr.requalified, TypeExpr.denote,
        TypeExpr.denote]
      rw [TypeExpr.pieces] at keeps
      apply (key.persists_requalified mirrored keeps.tail.left).bind
      intro keyType
      exact (value.persists_requalified mirrored keeps.tail.right).andThen _
  | .channel _ direction element, keeps => by
      rw [TypeExpr.requalified, TypeExpr.requalified, TypeExpr.denote,
        TypeExpr.denote]
      rw [TypeExpr.pieces] at keeps
      exact (element.persists_requalified mirrored keeps.tail).andThen _
  | .function _ type, keeps => by
      rw [TypeExpr.requalified, TypeExpr.requalified, TypeExpr.denote,
        TypeExpr.denote]
      rw [TypeExpr.pieces] at keeps
      exact (type.persists_requalified mirrored keeps.tail).andThen _
  | .record _ fields, keeps => by
      rw [TypeExpr.requalified, TypeExpr.requalified, TypeExpr.denote,
        TypeExpr.denote]
      rw [TypeExpr.pieces] at keeps
      exact (persists_requalifiedFields mirrored fields keeps.tail).andThen
        _
  | .interface _ members, keeps => by
      rw [TypeExpr.requalified, TypeExpr.requalified, TypeExpr.denote,
        TypeExpr.denote]
      rw [TypeExpr.pieces] at keeps
      exact (persists_requalifiedMembers mirrored members
        keeps.tail).andThen _
  | .union _ terms, keeps => by
      rw [TypeExpr.requalified, TypeExpr.requalified, TypeExpr.denote,
        TypeExpr.denote]
      rw [TypeExpr.pieces] at keeps
      exact (persists_requalifiedTerms mirrored terms keeps.tail).andThen _

theorem persists_requalifiedAll
    (mirrored : scope.MirroredBy scope') : ∀ types : List TypeExpr,
      KeepsPaths scope.file scope'.file rename rename'
          (piecesOfTypes types) →
        Persists (denoteAll scope (requalifiedAll rename types))
          (denoteAll scope' (requalifiedAll rename' types))
  | [], _ => .refl _
  | type :: types, keeps => by
      rw [requalifiedAll, requalifiedAll, denoteAll, denoteAll]
      rw [piecesOfTypes] at keeps
      apply (type.persists_requalified mirrored keeps.left).bind
      intro first
      exact (persists_requalifiedAll mirrored types keeps.right).andThen _

theorem FunctionExpr.persists_requalified
    (mirrored : scope.MirroredBy scope') : ∀ type : FunctionExpr,
      KeepsPaths scope.file scope'.file rename rename' type.pieces →
        Persists ((type.requalified rename).denote scope)
          ((type.requalified rename').denote scope')
  | ⟨parameters, results, variadic⟩, keeps => by
      rw [FunctionExpr.requalified, FunctionExpr.requalified,
        FunctionExpr.denote, FunctionExpr.denote]
      rw [FunctionExpr.pieces] at keeps
      apply (persists_requalifiedVariables mirrored variadic parameters
        keeps.left).bind
      intro inputs
      exact (persists_requalifiedVariables mirrored false results
        keeps.right).andThen _

theorem persists_requalifiedVariables
    (mirrored : scope.MirroredBy scope') (variadic : Bool) :
      ∀ list : List ParameterExpr,
        KeepsPaths scope.file scope'.file rename rename'
            (piecesOfVariables list) →
          Persists
            (denoteVariables scope variadic
              (requalifiedVariables rename list))
            (denoteVariables scope' variadic
              (requalifiedVariables rename' list))
  | [], _ => .refl _
  | [⟨identifier, type⟩], keeps => by
      rw [requalifiedVariables, requalifiedVariables, requalifiedVariables,
        requalifiedVariables, denoteVariables, denoteVariables]
      rw [piecesOfVariables] at keeps
      exact (type.persists_requalified mirrored keeps.left.right).andThen _
  | ⟨identifier, type⟩ :: ⟨identifier', type'⟩ :: rest, keeps => by
      rw [piecesOfVariables] at keeps
      have later := persists_requalifiedVariables mirrored variadic
        (⟨identifier', type'⟩ :: rest) keeps.right
      rw [requalifiedVariables, requalifiedVariables] at later
      rw [requalifiedVariables, requalifiedVariables, requalifiedVariables,
        requalifiedVariables, denoteVariables_cons_cons,
        denoteVariables_cons_cons]
      apply (type.persists_requalified mirrored keeps.left.right).bind
      intro first
      exact later.andThen _

theorem persists_requalifiedFields
    (mirrored : scope.MirroredBy scope') : ∀ fields : List FieldExpr,
      KeepsPaths scope.file scope'.file rename rename'
          (piecesOfFields fields) →
        Persists (denoteFields scope (requalifiedFields rename fields))
          (denoteFields scope' (requalifiedFields rename' fields))
  | [], _ => .refl _
  | ⟨identifier, type, tag, embedded⟩ :: fields, keeps => by
      rw [requalifiedFields, requalifiedFields, denoteFields, denoteFields]
      rw [piecesOfFields] at keeps
      apply (type.persists_requalified mirrored keeps.left.tail).bind
      intro first
      exact (persists_requalifiedFields mirrored fields
        keeps.right).andThen _

theorem persists_requalifiedMembers
    (mirrored : scope.MirroredBy scope') : ∀ members : List MemberExpr,
      KeepsPaths scope.file scope'.file rename rename'
          (piecesOfMembers members) →
        Persists (denoteMembers scope (requalifiedMembers rename members))
          (denoteMembers scope' (requalifiedMembers rename' members))
  | [], _ => .refl _
  | .method identifier type :: members, keeps => by
      rw [requalifiedMembers, requalifiedMembers, denoteMembers,
        denoteMembers]
      rw [piecesOfMembers] at keeps
      apply (type.persists_requalified mirrored keeps.left.tail).bind
      intro signature
      exact (persists_requalifiedMembers mirrored members
        keeps.right).andThen _
  | .embed type :: members, keeps => by
      rw [requalifiedMembers, requalifiedMembers, denoteMembers,
        denoteMembers]
      rw [piecesOfMembers] at keeps
      apply (type.persists_requalified mirrored keeps.left).bind
      intro first
      exact (persists_requalifiedMembers mirrored members
        keeps.right).andThen _

theorem persists_requalifiedTerms
    (mirrored : scope.MirroredBy scope') : ∀ terms : List TermExpr,
      KeepsPaths scope.file scope'.file rename rename'
          (piecesOfTerms terms) →
        Persists (denoteTerms scope (requalifiedTerms rename terms))
          (denoteTerms scope' (requalifiedTerms rename' terms))
  | [], _ => .refl _
  | ⟨approximate, type⟩ :: terms, keeps => by
      rw [requalifiedTerms, requalifiedTerms, denoteTerms, denoteTerms]
      rw [piecesOfTerms] at keeps
      apply (type.persists_requalified mirrored keeps.left).bind
      intro first
      exact (persists_requalifiedTerms mirrored terms keeps.right).andThen _

end

/-- Expressions that are written alike up to places and qualifiers denote the same. -/
theorem TypeExpr.persists_of_requalified
    (mirrored : scope.MirroredBy scope') {written type type' : TypeExpr}
    (keeps :
      KeepsPaths scope.file scope'.file rename rename' written.pieces)
    (same : type.unplaced = (written.requalified rename).unplaced)
    (same' : type'.unplaced = (written.requalified rename').unplaced) :
    Persists (type.denote scope) (type'.denote scope') := by
  intro value succeeds
  have first := TypeExpr.denote_of_unplaced (.refl scope) same
  have second := TypeExpr.denote_of_unplaced (.refl scope') same'
  have denotes := first.eq_ok succeeds
  exact second.symm.eq_ok
    (written.persists_requalified mirrored keeps value denotes)

end GoUnion
