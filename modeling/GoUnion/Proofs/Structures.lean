import GoUnion.Proofs.Failures

/-!
# Structures of declarations

A declaration either only names another declaration of its package, and has the
structure of that one, or it has a structure of its own.  Its own structure is
what its type expression denotes, except for a struct, whose fields say in which
of them an error arose, and for a name, which has to be one of the few that
stand for a structure.
-/

namespace GoUnion

open Reader (bind_eq_ok)

/-! ## Structures without a declaration -/

namespace Scope

/-- The structure that a name of another package stands for. -/
def foreignStructure
    (scope : Scope) (span : Text.Span) (qualifier identifier : Identifier) :
    Except LoadError GoType :=
  match scope.file.importPath? qualifier.name with
  | none => .error (scope.undefined (.plain qualifier.name) qualifier.span)
  | some path =>
    if path = "unsafe" ∧ identifier.name = "Pointer" then
      .ok (.basic .unsafePointer)
    else
      .error (scope.unsupported
        (.foreignUnderlying qualifier.name identifier.name) span)

/-- The structure that an unqualified name stands for if it is not followed.  Of the names of the
universe that are no basic types, two have a structure. -/
def localStructure
    (scope : Scope) (span : Text.Span) (identifier : Identifier)
    (arguments : List TypeExpr) : Except LoadError GoType :=
  let name := identifier.name
  if scope.isParameter name then
    .error (scope.unsupported (.parameterUnderlying name) span)
  else if (scope.package.type? name).isSome then
    .error (scope.unsupported (.instantiatedUnderlying name) span)
  else if name = "any" then .ok (.interface [] [])
  else if name = "error" then .ok errorInterface
  else if name = "comparable" then
    .error (scope.unsupported .comparable span)
  else (TypeExpr.name span none identifier arguments).denote scope

/-- The structure that a type expression stands for if no declaration is followed. -/
def structureOf (scope : Scope) : TypeExpr → Except LoadError GoType
  | .name span (some qualifier) identifier _ =>
    scope.foreignStructure span qualifier identifier
  | .name span none identifier arguments =>
    scope.localStructure span identifier arguments
  | .record _ fields => do return .record (← scope.rootFields 0 fields)
  | type => type.denote scope

variable {scope : Scope} {allowed : LoadError → Prop}
  {proper : Piece → Prop}

/-- A structure fails with errors of a kind only, if saying in which field an error arose leaves
that kind as it is. -/
theorem failsOnly_structureOf
    (confines : scope.Confines allowed proper)
    (inField : ∀ error index name, allowed error →
      allowed (inField index name error))
    {type : TypeExpr} (all : AllPieces proper type.pieces) :
    FailsOnly allowed (scope.structureOf type) := by
  have denotes := type.failsOnly_denote confines all
  unfold structureOf
  split
  case h_1 span qualifier identifier arguments =>
    rw [TypeExpr.pieces] at all
    rw [foreignStructure]
    split
    case h_1 => exact .error (confines.undefined all.tail.head rfl)
    case h_2 =>
      split
      · exact .ok _
      · exact .error (confines.unsupported all.head rfl)
  case h_2 span identifier arguments =>
    rw [TypeExpr.pieces] at all
    have fails {construct : Construct}
        (isOther : construct.isRecursion = false) :
        FailsOnly allowed
          (.error (scope.unsupported construct span) :
            Except LoadError GoType) :=
      .error (confines.unsupported all.head isOther)
    unfold localStructure
    dsimp only
    split
    · exact fails rfl
    · split
      · exact fails rfl
      · split
        · exact .ok _
        · split
          · exact .ok _
          · split
            · exact fails rfl
            · exact denotes
  case h_3 span fields =>
    rw [TypeExpr.pieces] at all
    exact (failsOnly_rootFields confines inField 0 all.tail).andReturn
  case h_4 => exact denotes

end Scope

/-! ## Structures that do not go round in a circle -/

/-- Whether an error is that declarations go round in a circle. -/
def LoadError.isRecursion : LoadError → Bool
  | .unsupported construct _ _ => construct.isRecursion
  | _ => false

namespace Scope

theorem isRecursion_inField
    (error : LoadError) (index : Nat) (name : String)
    (isOther : error.isRecursion = false) :
    (inField index name error).isRecursion = false := by
  unfold inField
  split
  case h_1 => exact isOther
  case h_2 => exact isOther

/-- A scope does not follow declarations, so it cannot find that they go round in a circle. -/
theorem confines_isRecursion
    {scope : Scope}
    (carried : ∀ declared ∈ scope.package.declared,
      FailsOnly (·.isRecursion = false) (scope.carried declared)) :
    scope.Confines (·.isRecursion = false) fun _ => True where
  unsupported _ isOther := isOther
  arity _ _ := rfl
  undefined _ _ := rfl
  carried := carried _

theorem confines_ofDeclared
    (package : Package) (declared : Declared) :
    (ofDeclared package declared).Confines (·.isRecursion = false)
      fun _ => True := by
  refine confines_isRecursion fun other _ => ?_
  have shallow :
      (Scope.shallow package other).Confines (·.isRecursion = false)
        fun _ => True :=
    confines_isRecursion fun _ _ => .ok []
  exact failsOnly_denoteParameters shallow fun _ _ => trivial

/-- A type expression is no recursive type if it is not followed. -/
theorem failsOnly_structureOf_ofDeclared
    (package : Package) (declared : Declared) (type : TypeExpr) :
    FailsOnly (·.isRecursion = false)
      ((ofDeclared package declared).structureOf type) :=
  failsOnly_structureOf (confines_ofDeclared package declared)
    isRecursion_inField fun _ _ => trivial

end Scope

/-! ## Declarations that name another one -/

/-- The identifier that a type expression consists of. -/
def TypeExpr.bareName? : TypeExpr → Option Identifier
  | .name _ none identifier [] => some identifier
  | _ => none

theorem TypeExpr.bareName?_eq_some
    {expression : TypeExpr} {identifier : Identifier}
    (isBare : expression.bareName? = some identifier) :
    ∃ span, expression = .name span none identifier [] := by
  unfold bareName? at isBare
  split at isBare
  case h_1 span _ =>
    cases isBare
    exact ⟨span, rfl⟩
  case h_2 => cases isBare

namespace Package

variable {package : Package} {declared target : Declared}

/-- The declaration of the package that a declaration only names. -/
def next? (package : Package) (declared : Declared) : Option Declared :=
  declared.declaration.type.bareName?.bind fun identifier =>
    if (Scope.ofDeclared package declared).isParameter identifier.name then
      none
    else package.type? identifier.name

theorem next?_eq_some
    (names : package.next? declared = some target) :
    ∃ span identifier,
      declared.declaration.type = .name span none identifier [] ∧
        (Scope.ofDeclared package declared).isParameter identifier.name =
          false ∧
        package.type? identifier.name = some target := by
  rcases Option.bind_eq_some_iff.mp names with ⟨identifier, isBare, names⟩
  rcases TypeExpr.bareName?_eq_some isBare with ⟨span, shape⟩
  split at names
  case isTrue => cases names
  case isFalse notParameter =>
    exact ⟨span, identifier, shape, Bool.eq_false_iff.mpr notParameter, names⟩

/-- What is named is declared in the package. -/
theorem mem_declared_of_next?
    (names : package.next? declared = some target) :
    target ∈ package.declared := by
  rcases next?_eq_some names with ⟨_, _, -, -, found⟩
  exact List.mem_of_find?_eq_some found

/-- A declaration that is named goes by its name in the package. -/
theorem type?_of_next?
    (names : package.next? declared = some target) :
    package.type? target.name = some target := by
  rcases next?_eq_some names with ⟨_, identifier, -, -, found⟩
  have sameName : target.name = identifier.name := by
    simpa using List.find?_some found
  rwa [sameName]

/-- A declaration that names another one has the structure of the other. -/
theorem underlying_next?
    (names : package.next? declared = some target) (steps : Nat) :
    package.underlying (steps + 1) declared =
      package.underlying steps target := by
  rcases next?_eq_some names with
    ⟨span, identifier, shape, notParameter, found⟩
  rw [Package.underlying]
  simp only [shape, notParameter, found]
  rfl

/-- A declaration that names another one has no structure if it may not be followed. -/
theorem underlying_next?_zero
    (names : package.next? declared = some target) :
    package.underlying 0 declared =
      .error (.unsupported (.recursiveType declared.name) none
        (declared.file.locate declared.declaration.type.span)) := by
  rcases next?_eq_some names with
    ⟨span, identifier, shape, notParameter, found⟩
  rw [Package.underlying]
  simp only [shape, notParameter, found]
  rfl

/-- A declaration that names no other one has its own structure, however many declarations may be
followed. -/
theorem underlying_of_next?_eq_none
    (isLast : package.next? declared = none) (steps : Nat) :
    package.underlying steps declared =
      (Scope.ofDeclared package declared).structureOf
        declared.declaration.type := by
  rw [Package.underlying]
  cases shape : declared.declaration.type with
  | name span qualifier identifier arguments =>
      cases qualifier with
      | some qualifier => rfl
      | none =>
          rw [Scope.structureOf, Scope.localStructure]
          dsimp only
          split
          case isTrue => rfl
          case isFalse notParameter =>
            have lookup :
                (Scope.ofDeclared package declared).package.type?
                  identifier.name = package.type? identifier.name := rfl
            rw [lookup]
            cases found : package.type? identifier.name with
            | some target =>
                have instantiated : arguments.isEmpty = false := by
                  rw [Bool.eq_false_iff]
                  intro isEmpty
                  rw [next?, shape, List.isEmpty_iff.mp isEmpty,
                    TypeExpr.bareName?, Option.bind_some,
                    if_neg notParameter, found] at isLast
                  cases isLast
                rw [Option.isSome_some, if_pos rfl]
                dsimp only
                rw [instantiated, if_neg Bool.false_ne_true]
            | none => rw [Option.isSome_none, if_neg Bool.false_ne_true]
  | record span fields => rfl
  | _ => rfl

end Package

end GoUnion
