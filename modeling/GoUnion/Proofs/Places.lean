import GoUnion.Resolution

/-!
# Expressions without their places

Where an expression stands in a source file, and the text of an array length
that is not evaluated, are kept for messages only.  An expression denotes the
same type without them, in every scope that gives the same answers about names.
-/

namespace GoUnion

open Text (Span)

/-! ## Leaving places out -/

/-- An identifier without its place. -/
def Identifier.unplaced (identifier : Identifier) : Identifier :=
  ⟨identifier.name, default⟩

/-- The length of an array without its place. -/
def ArrayLength.unplaced : ArrayLength → ArrayLength
  | .literal length => .literal length
  | .name identifier => .name identifier.unplaced
  | .ellipsis => .ellipsis
  | .expression _ => .expression ""

mutual

/-- A type expression without its places. -/
def TypeExpr.unplaced : TypeExpr → TypeExpr
  | .name _ qualifier identifier arguments =>
    .name default (qualifier.map (·.unplaced)) identifier.unplaced
      (unplacedAll arguments)
  | .pointer _ element => .pointer default element.unplaced
  | .array _ length element =>
    .array default length.unplaced element.unplaced
  | .slice _ element => .slice default element.unplaced
  | .map _ key value => .map default key.unplaced value.unplaced
  | .channel _ direction element =>
    .channel default direction element.unplaced
  | .function _ type => .function default type.unplaced
  | .record _ fields => .record default (unplacedFields fields)
  | .interface _ members => .interface default (unplacedMembers members)
  | .union _ terms => .union default (unplacedTerms terms)

/-- Some type expressions without their places. -/
def unplacedAll : List TypeExpr → List TypeExpr
  | [] => []
  | type :: types => type.unplaced :: unplacedAll types

/-- The type of a function without its places. -/
def FunctionExpr.unplaced : FunctionExpr → FunctionExpr
  | ⟨parameters, results, variadic⟩ =>
    ⟨unplacedVariables parameters, unplacedVariables results, variadic⟩

/-- Parameters or results without their places. -/
def unplacedVariables : List ParameterExpr → List ParameterExpr
  | [] => []
  | ⟨identifier, type⟩ :: rest =>
    ⟨identifier.map (·.unplaced), type.unplaced⟩ :: unplacedVariables rest

/-- The fields of a struct without their places. -/
def unplacedFields : List FieldExpr → List FieldExpr
  | [] => []
  | ⟨identifier, type, tag, embedded⟩ :: fields =>
    ⟨identifier.unplaced, type.unplaced, tag, embedded⟩ ::
      unplacedFields fields

/-- The elements of an interface without their places. -/
def unplacedMembers : List MemberExpr → List MemberExpr
  | [] => []
  | .method identifier type :: members =>
    .method identifier.unplaced type.unplaced :: unplacedMembers members
  | .embed type :: members =>
    .embed type.unplaced :: unplacedMembers members

/-- The terms of a union without their places. -/
def unplacedTerms : List TermExpr → List TermExpr
  | [] => []
  | ⟨approximate, type⟩ :: terms =>
    ⟨approximate, type.unplaced⟩ :: unplacedTerms terms

end

/-- A type parameter without its places. -/
def TypeParameterExpr.unplaced
    (parameter : TypeParameterExpr) : TypeParameterExpr :=
  ⟨parameter.identifier.unplaced, parameter.constraint.unplaced⟩

/-- A parameter without its places. -/
def ParameterExpr.unplaced (parameter : ParameterExpr) : ParameterExpr :=
  ⟨parameter.identifier.map (·.unplaced), parameter.type.unplaced⟩

/-- A field without its places. -/
def FieldExpr.unplaced (field : FieldExpr) : FieldExpr :=
  ⟨field.identifier.unplaced, field.type.unplaced, field.tag,
    field.embedded⟩

/-- An element of an interface without its places. -/
def MemberExpr.unplaced : MemberExpr → MemberExpr
  | .method identifier type => .method identifier.unplaced type.unplaced
  | .embed type => .embed type.unplaced

/-- A term of a union without its places. -/
def TermExpr.unplaced (term : TermExpr) : TermExpr :=
  ⟨term.approximate, term.type.unplaced⟩

@[simp]
theorem unplaced_name (identifier : Identifier) :
    identifier.unplaced.name = identifier.name := rfl

@[simp]
theorem map_unplaced_name (identifier : Option Identifier) :
    (identifier.map (·.unplaced)).map (·.name) =
      identifier.map (·.name) := by
  cases identifier with
  | none => rfl
  | some identifier => rfl

@[simp]
theorem unplacedAll_eq_map (types : List TypeExpr) :
    unplacedAll types = types.map (·.unplaced) := by
  induction types with
  | nil => rfl
  | cons type types ih => rw [unplacedAll, ih, List.map_cons]

@[simp]
theorem unplacedVariables_eq_map (list : List ParameterExpr) :
    unplacedVariables list = list.map (·.unplaced) := by
  induction list with
  | nil => rfl
  | cons parameter list ih =>
      rcases parameter with ⟨identifier, type⟩
      rw [unplacedVariables, ih, List.map_cons]
      rfl

@[simp]
theorem unplacedFields_eq_map (fields : List FieldExpr) :
    unplacedFields fields = fields.map (·.unplaced) := by
  induction fields with
  | nil => rfl
  | cons field fields ih =>
      rcases field with ⟨identifier, type, tag, embedded⟩
      rw [unplacedFields, ih, List.map_cons]
      rfl

@[simp]
theorem unplacedMembers_eq_map (members : List MemberExpr) :
    unplacedMembers members = members.map (·.unplaced) := by
  induction members with
  | nil => rfl
  | cons member members ih =>
      cases member with
      | method identifier type =>
          rw [unplacedMembers, ih, List.map_cons]
          rfl
      | embed type =>
          rw [unplacedMembers, ih, List.map_cons]
          rfl

@[simp]
theorem unplacedTerms_eq_map (terms : List TermExpr) :
    unplacedTerms terms = terms.map (·.unplaced) := by
  induction terms with
  | nil => rfl
  | cons term terms ih =>
      rcases term with ⟨approximate, type⟩
      rw [unplacedTerms, ih, List.map_cons]
      rfl

/-! ## The same results -/

/-- Two computations return the same, or both fail. -/
def SameResult {α : Type} (first second : Except LoadError α) : Prop :=
  first.toOption = second.toOption

namespace SameResult

variable {α β : Type} {first second : Except LoadError α}

theorem refl (first : Except LoadError α) : SameResult first first :=
  rfl

theorem eq_ok
    (same : SameResult first second) {value : α}
    (succeeds : first = .ok value) :
    second = .ok value := by
  subst succeeds
  cases second with
  | error fault => cases same
  | ok other =>
      cases same
      rfl

theorem symm (same : SameResult first second) : SameResult second first :=
  Eq.symm same

theorem errors (fault fault' : LoadError) :
    SameResult (.error fault : Except LoadError α) (.error fault') :=
  rfl

theorem bind
    {next next' : α → Except LoadError β}
    (same : SameResult first second)
    (each : ∀ value, SameResult (next value) (next' value)) :
    SameResult (first >>= next) (second >>= next') := by
  cases first with
  | error fault =>
      cases second with
      | error fault' => rfl
      | ok value => cases same
  | ok value =>
      cases second with
      | error fault => cases same
      | ok other =>
          cases same
          exact each value

end SameResult

/-! ## Scopes that agree -/

/-- Two declarations that a reference cannot tell apart. -/
structure Scope.SameDeclared
    (scope scope' : Scope) (declared declared' : Declared) : Prop where
  name : declared.name = declared'.name
  count :
    declared.declaration.parameters.length =
      declared'.declaration.parameters.length
  carried : SameResult (scope.carried declared) (scope'.carried declared')

/-- Two scopes that give the same answers about names. -/
structure Scope.Agrees (scope scope' : Scope) : Prop where
  path : scope.package.path = scope'.package.path
  isParameter : ∀ name, scope.isParameter name = scope'.isParameter name
  importPath? : ∀ name,
    scope.file.importPath? name = scope'.file.importPath? name
  constant? : ∀ name,
    scope.package.constant? name = scope'.package.constant? name
  declared : ∀ name, Option.Rel (scope.SameDeclared scope')
    (scope.package.type? name) (scope'.package.type? name)

variable {scope scope' : Scope}

theorem sameResult_declared
    {declared declared' : Declared}
    (same : scope.SameDeclared scope' declared declared')
    (path : scope.package.path = scope'.package.path)
    (count : Nat) (span span' : Span) (arguments : List GoType) :
    SameResult
      (scope.resolveDeclared declared count span >>= (· arguments))
      (scope'.resolveDeclared declared' count span' >>= (· arguments)) := by
  rw [Scope.resolveDeclared, Scope.resolveDeclared]
  rw [same.count]
  split
  case isTrue =>
    show SameResult (scope.carried declared >>= _)
      (scope'.carried declared' >>= _)
    apply same.carried.bind
    intro parameters
    rw [same.name, path]
    rfl
  case isFalse =>
    split
    · exact .errors _ _
    · exact .errors _ _

theorem sameResult_local
    (agrees : scope.Agrees scope') {identifier identifier' : Identifier}
    (same : identifier.name = identifier'.name) (count : Nat)
    (span span' : Span) (arguments : List GoType) :
    SameResult
      (scope.resolveLocal identifier count span >>= (· arguments))
      (scope'.resolveLocal identifier' count span' >>= (· arguments)) := by
  rw [Scope.resolveLocal, Scope.resolveLocal]
  rw [← same, ← agrees.isParameter, ← agrees.path]
  split
  case isTrue =>
    split
    · exact .refl _
    · exact .errors _ _
  case isFalse =>
    have found := agrees.declared identifier.name
    generalize scope.package.type? identifier.name = first at found
    generalize scope'.package.type? identifier.name = second at found
    cases found with
    | some related =>
        exact sameResult_declared related agrees.path count span span'
          arguments
    | none =>
        dsimp only
        split
        case h_1 =>
          split
          · exact .refl _
          · exact .errors _ _
        case h_2 =>
          split
          all_goals
            split
            · exact .errors _ _
            · exact .errors _ _

theorem sameResult_imported
    (agrees : scope.Agrees scope')
    {owner owner' identifier identifier' : Identifier}
    (sameOwner : owner.name = owner'.name)
    (same : identifier.name = identifier'.name) (count : Nat)
    (arguments : List GoType) :
    SameResult
      (scope.resolveImported owner identifier count >>= (· arguments))
      (scope'.resolveImported owner' identifier' count >>=
        (· arguments)) := by
  rw [Scope.resolveImported, Scope.resolveImported]
  rw [← sameOwner, ← agrees.importPath?, ← same]
  split
  case h_1 => exact .errors _ _
  case h_2 path found =>
    dsimp only
    split
    case isTrue =>
      split
      · exact .refl _
      · exact .errors _ _
    case isFalse =>
      split
      · exact .refl _
      · exact .errors _ _

/-- A name stands for the same in scopes that agree. -/
theorem sameResult_resolve
    (agrees : scope.Agrees scope')
    {owner owner' : Option Identifier} {identifier identifier' : Identifier}
    (sameOwner : owner.map (·.name) = owner'.map (·.name))
    (same : identifier.name = identifier'.name) (count : Nat)
    (span span' : Span) (arguments : List GoType) :
    SameResult
      (scope.resolve owner identifier count span >>= (· arguments))
      (scope'.resolve owner' identifier' count span' >>=
        (· arguments)) := by
  cases owner with
  | none =>
      cases owner' with
      | none =>
          exact sameResult_local agrees same count span span' arguments
      | some => cases sameOwner
  | some owner =>
      cases owner' with
      | none => cases sameOwner
      | some owner' =>
          exact sameResult_imported agrees (Option.some.inj sameOwner)
            same count arguments

theorem sameResult_arrayLength
    (agrees : scope.Agrees scope') (length : ArrayLength)
    (span span' : Span) :
    SameResult (scope.arrayLength length span)
      (scope'.arrayLength length.unplaced span') := by
  cases length with
  | literal value => exact .refl _
  | name identifier =>
      rw [ArrayLength.unplaced, Scope.arrayLength, Scope.arrayLength]
      rw [unplaced_name, ← agrees.constant?]
      split
      · exact .refl _
      · exact .errors _ _
      · exact .errors _ _
  | ellipsis => exact .errors _ _
  | expression text => exact .errors _ _

/-! ## Denotation -/

theorem parameterName_unplaced (identifier : Option Identifier) :
    parameterName (identifier.map (·.unplaced)) =
      parameterName identifier := by
  cases identifier with
  | none => rfl
  | some identifier => rfl

theorem denoteVariables_cons_cons
    (scope : Scope) (variadic : Bool) (identifier : Option Identifier)
    (type : TypeExpr) (second : ParameterExpr)
    (rest : List ParameterExpr) :
    denoteVariables scope variadic
      (⟨identifier, type⟩ :: second :: rest) = do
        let type ← type.denote scope
        return ⟨parameterName identifier, type⟩ ::
          (← denoteVariables scope variadic (second :: rest)) := by
  rw [denoteVariables]
  simp

mutual

/-- An expression denotes the same without its places, in scopes that agree. -/
theorem TypeExpr.sameResult_denote
    (agrees : scope.Agrees scope') : ∀ expression : TypeExpr,
      SameResult (expression.denote scope)
        (expression.unplaced.denote scope')
  | .name span qualifier identifier arguments => by
      have same := sameResult_denoteAll agrees arguments
      rw [TypeExpr.unplaced, TypeExpr.denote, TypeExpr.denote,
        unplacedAll_eq_map, List.length_map, ← unplacedAll_eq_map]
      have names :=
        sameResult_resolve agrees
          (map_unplaced_name qualifier).symm
          (unplaced_name identifier).symm arguments.length span default
      generalize scope.resolve qualifier identifier arguments.length span =
        first at names
      generalize scope'.resolve (qualifier.map (·.unplaced))
        identifier.unplaced arguments.length default = second at names
      generalize denoteAll scope arguments = inner at same
      generalize denoteAll scope' (unplacedAll arguments) = inner' at same
      cases inner with
      | error fault =>
          cases inner' with
          | error fault' =>
              cases first <;> cases second <;> exact .errors _ _
          | ok => cases same
      | ok values =>
          cases inner' with
          | error => cases same
          | ok values' =>
              cases same
              exact names values
  | .pointer _ element => by
      rw [TypeExpr.unplaced, TypeExpr.denote, TypeExpr.denote]
      exact (element.sameResult_denote agrees).bind fun _ => .refl _
  | .array span length element => by
      rw [TypeExpr.unplaced, TypeExpr.denote, TypeExpr.denote]
      apply (sameResult_arrayLength agrees length span default).bind
      intro length
      exact (element.sameResult_denote agrees).bind fun _ => .refl _
  | .slice _ element => by
      rw [TypeExpr.unplaced, TypeExpr.denote, TypeExpr.denote]
      exact (element.sameResult_denote agrees).bind fun _ => .refl _
  | .map _ key value => by
      rw [TypeExpr.unplaced, TypeExpr.denote, TypeExpr.denote]
      apply (key.sameResult_denote agrees).bind
      intro key
      exact (value.sameResult_denote agrees).bind fun _ => .refl _
  | .channel _ direction element => by
      rw [TypeExpr.unplaced, TypeExpr.denote, TypeExpr.denote]
      exact (element.sameResult_denote agrees).bind fun _ => .refl _
  | .function _ type => by
      rw [TypeExpr.unplaced, TypeExpr.denote, TypeExpr.denote]
      exact (type.sameResult_denote agrees).bind fun _ => .refl _
  | .record _ fields => by
      rw [TypeExpr.unplaced, TypeExpr.denote, TypeExpr.denote]
      exact (sameResult_denoteFields agrees fields).bind fun _ => .refl _
  | .interface _ members => by
      rw [TypeExpr.unplaced, TypeExpr.denote, TypeExpr.denote]
      exact (sameResult_denoteMembers agrees members).bind fun _ => .refl _
  | .union _ terms => by
      rw [TypeExpr.unplaced, TypeExpr.denote, TypeExpr.denote]
      exact (sameResult_denoteTerms agrees terms).bind fun _ => .refl _

theorem sameResult_denoteAll
    (agrees : scope.Agrees scope') : ∀ types : List TypeExpr,
      SameResult (denoteAll scope types)
        (denoteAll scope' (unplacedAll types))
  | [] => .refl _
  | type :: types => by
      rw [unplacedAll, denoteAll, denoteAll]
      apply (type.sameResult_denote agrees).bind
      intro first
      exact (sameResult_denoteAll agrees types).bind fun _ => .refl _

theorem FunctionExpr.sameResult_denote
    (agrees : scope.Agrees scope') : ∀ type : FunctionExpr,
      SameResult (type.denote scope) (type.unplaced.denote scope')
  | ⟨parameters, results, variadic⟩ => by
      rw [FunctionExpr.unplaced, FunctionExpr.denote, FunctionExpr.denote]
      apply (sameResult_denoteVariables agrees variadic parameters).bind
      intro parameters
      exact (sameResult_denoteVariables agrees false results).bind
        fun _ => .refl _

theorem sameResult_denoteVariables
    (agrees : scope.Agrees scope') (variadic : Bool) :
      ∀ list : List ParameterExpr,
        SameResult (denoteVariables scope variadic list)
          (denoteVariables scope' variadic (unplacedVariables list))
  | [] => .refl _
  | [⟨identifier, type⟩] => by
      rw [unplacedVariables, unplacedVariables, denoteVariables,
        denoteVariables, parameterName_unplaced]
      exact (type.sameResult_denote agrees).bind fun _ => .refl _
  | ⟨identifier, type⟩ :: ⟨identifier', type'⟩ :: rest => by
      have later := sameResult_denoteVariables agrees variadic
        (⟨identifier', type'⟩ :: rest)
      rw [unplacedVariables] at later
      rw [unplacedVariables, unplacedVariables, denoteVariables_cons_cons,
        denoteVariables_cons_cons, parameterName_unplaced]
      apply (type.sameResult_denote agrees).bind
      intro type
      exact later.bind fun _ => .refl _

theorem sameResult_denoteFields
    (agrees : scope.Agrees scope') : ∀ fields : List FieldExpr,
      SameResult (denoteFields scope fields)
        (denoteFields scope' (unplacedFields fields))
  | [] => .refl _
  | ⟨identifier, type, tag, embedded⟩ :: fields => by
      rw [unplacedFields, denoteFields, denoteFields]
      apply (type.sameResult_denote agrees).bind
      intro type
      exact (sameResult_denoteFields agrees fields).bind fun _ => .refl _

theorem sameResult_denoteMembers
    (agrees : scope.Agrees scope') : ∀ members : List MemberExpr,
      SameResult (denoteMembers scope members)
        (denoteMembers scope' (unplacedMembers members))
  | [] => .refl _
  | .method identifier type :: members => by
      rw [unplacedMembers, denoteMembers, denoteMembers]
      apply (type.sameResult_denote agrees).bind
      intro signature
      exact (sameResult_denoteMembers agrees members).bind fun _ => .refl _
  | .embed type :: members => by
      rw [unplacedMembers, denoteMembers, denoteMembers]
      apply (type.sameResult_denote agrees).bind
      intro type
      exact (sameResult_denoteMembers agrees members).bind fun _ => .refl _

theorem sameResult_denoteTerms
    (agrees : scope.Agrees scope') : ∀ terms : List TermExpr,
      SameResult (denoteTerms scope terms)
        (denoteTerms scope' (unplacedTerms terms))
  | [] => .refl _
  | ⟨approximate, type⟩ :: terms => by
      rw [unplacedTerms, denoteTerms, denoteTerms]
      apply (type.sameResult_denote agrees).bind
      intro type
      exact (sameResult_denoteTerms agrees terms).bind fun _ => .refl _

end

theorem Scope.Agrees.refl (scope : Scope) : scope.Agrees scope where
  path := rfl
  isParameter _ := rfl
  importPath? _ := rfl
  constant? _ := rfl
  declared name := by
    cases scope.package.type? name with
    | none => exact .none
    | some declared => exact .some ⟨rfl, rfl, .refl _⟩

/-- Expressions that differ in their places only denote the same, in scopes that agree. -/
theorem TypeExpr.denote_of_unplaced
    (agrees : scope.Agrees scope') {expression expression' : TypeExpr}
    (same : expression.unplaced = expression'.unplaced) :
    SameResult (expression.denote scope) (expression'.denote scope') := by
  have first := expression.sameResult_denote agrees
  have second := expression'.sameResult_denote (.refl scope')
  rw [same] at first
  exact first.trans second.symm

end GoUnion
