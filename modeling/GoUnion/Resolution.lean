import GoUnion.GoType
import GoUnion.Package

/-!
# Resolution

Resolving the names of a declaration.  Only the declaration that was asked for
is expanded; every other declared type becomes a reference, so declarations
that refer to themselves denote finite types.

A reference to a generic type of the same package carries its declared type
parameters.  Their constraints are resolved one level down only: references
inside them carry none, which bounds the work for constraints that refer back
to the declaration.
-/

namespace GoUnion

open Text (Span)

/-- What the names of a type expression are resolved against: the package, the file of the
expression, the type parameters in scope, and the parameters that a reference to a declaration
of the package carries. -/
structure Scope where
  package : Package
  file : PackageFile
  parameters : List TypeParameterExpr
  carried : Declared → Except LoadError (List TypeParameter)

namespace Scope

/-- Whether a name is a type parameter. -/
def isParameter (scope : Scope) (name : String) : Bool :=
  scope.parameters.any (·.identifier.name = name)

/-- The error for a name that does not resolve. -/
def undefined (scope : Scope) (name : UnknownName) (span : Span) : LoadError :=
  .undefined name (scope.file.locate span)

/-- The error for an unsupported construct. -/
def unsupported (scope : Scope) (construct : Construct) (span : Span) : LoadError :=
  .unsupported construct none (scope.file.locate span)

/-- The error for type arguments that do not fit. -/
def arity (scope : Scope) (fault : ArityFault) (span : Span) : LoadError :=
  .typeArguments fault (scope.file.locate span)

/-- What a name stands for once its type arguments are known. -/
abbrev Resolved : Type := List GoType → Except LoadError GoType

/-- A name that takes no type arguments. -/
def constant (type : GoType) : Resolved := fun _ => .ok type

/-- A name of the package, which needs as many arguments as it has parameters. -/
def resolveDeclared (scope : Scope) (declared : Declared) (count : Nat) (span : Span) :
    Except LoadError Resolved :=
  let want := declared.declaration.parameters.length
  if want = count then
    .ok fun arguments => do
      let parameters ← scope.carried declared
      return .named ⟨declared.name, scope.package.path, none, parameters, arguments⟩
  else if count = 0 then .error (scope.arity (.uninstantiated declared.name) span)
  else .error (scope.arity (.wrongCount declared.name count want) span)

/-- The predeclared names that are not basic types. -/
def predeclaredNames : List String := ["any", "error", "comparable"]

/-- A name of the universe. -/
def universal? (name : String) : Option GoType :=
  match BasicType.ofName? name with
  | some type => some (.basic type)
  | none =>
    if predeclaredNames.contains name then some (.named (.predeclared name)) else none

/-- An unqualified name: a type parameter, else a type of the package, else one of the
universe. -/
def resolveLocal (scope : Scope) (identifier : Identifier) (count : Nat) (span : Span) :
    Except LoadError Resolved :=
  let name := identifier.name
  if scope.isParameter name then
    if count = 0 then .ok (constant (.named (.reference name scope.package.path)))
    else .error (scope.unsupported (.parameterInstantiation name) span)
  else
    match scope.package.type? name with
    | some declared => scope.resolveDeclared declared count span
    | none =>
      match universal? name with
      | some type =>
        if count = 0 then .ok (constant type)
        else .error (scope.arity (.notGeneric name) span)
      | none =>
        if scope.file.hasDotImport then .error (scope.unsupported (.dotImport name) span)
        else .error (scope.undefined (.plain name) identifier.span)

/-- A qualified name.  Other packages are not loaded, so a reference into one carries no type
parameters. -/
def resolveImported (scope : Scope) (qualifier identifier : Identifier) (count : Nat) :
    Except LoadError Resolved :=
  match scope.file.importPath? qualifier.name with
  | none => .error (scope.undefined (.plain qualifier.name) qualifier.span)
  | some path =>
    let name := identifier.name
    if path = "unsafe" then
      if name = "Pointer" ∧ count = 0 then .ok (constant (.basic .unsafePointer))
      else .error (scope.undefined (.inUnsafe name) identifier.span)
    else if Name.isExported name then
      .ok fun arguments => .ok (.named ⟨name, path, none, [], arguments⟩)
    else .error (scope.undefined (.unexported qualifier.name name) identifier.span)

/-- A name with or without a qualifier. -/
def resolve (scope : Scope) (qualifier : Option Identifier) (identifier : Identifier)
    (count : Nat) (span : Span) : Except LoadError Resolved :=
  match qualifier with
  | none => scope.resolveLocal identifier count span
  | some qualifier => scope.resolveImported qualifier identifier count

/-- The length of an array type. -/
def arrayLength (scope : Scope) (length : ArrayLength) (span : Span) :
    Except LoadError UInt64 :=
  match length with
  | .literal value => .ok value
  | .name identifier =>
    match scope.package.constant? identifier.name with
    | some (.integer value) => .ok value
    | some .unknown => .error (scope.unsupported (.unevaluatedLength identifier.name) span)
    | none => .error (scope.undefined (.plain identifier.name) identifier.span)
  | .ellipsis => .error (scope.unsupported .ellipsisLength span)
  | .expression text => .error (scope.unsupported (.expressionLength text) span)

end Scope

/-- The name of a parameter, empty if it has none. -/
def parameterName (identifier : Option Identifier) : String :=
  (identifier.map (·.name)).getD ""

mutual

/-- The type that an expression denotes. -/
def TypeExpr.denote (scope : Scope) : TypeExpr → Except LoadError GoType
  | .name span qualifier identifier arguments => do
    let resolved ← scope.resolve qualifier identifier arguments.length span
    resolved (← denoteAll scope arguments)
  | .pointer _ element => do return .pointer (← element.denote scope)
  | .array span length element => do
    let length ← scope.arrayLength length span
    return .array length (← element.denote scope)
  | .slice _ element => do return .slice (← element.denote scope)
  | .map _ key value => do
    let key ← key.denote scope
    return .map key (← value.denote scope)
  | .channel _ direction element => do return .channel direction (← element.denote scope)
  | .function _ type => do return .function (← type.denote scope)
  | .record _ fields => do return .record (← denoteFields scope fields)
  | .interface _ members => do
    let (methods, embeds) ← denoteMembers scope members
    return .interface methods embeds
  | .union _ terms => do return .union (← denoteTerms scope terms)

/-- The types that some expressions denote. -/
def denoteAll (scope : Scope) : List TypeExpr → Except LoadError (List GoType)
  | [] => .ok []
  | type :: types => do
    let first ← type.denote scope
    return first :: (← denoteAll scope types)

/-- The type of a function. -/
def FunctionExpr.denote (scope : Scope) : FunctionExpr → Except LoadError Signature
  | ⟨parameters, results, variadic⟩ => do
    let parameters ← denoteVariables scope variadic parameters
    let results ← denoteVariables scope false results
    return .plain parameters results variadic

/-- Parameters or results.  The last parameter of a variadic function becomes a slice. -/
def denoteVariables (scope : Scope) (variadic : Bool) :
    List ParameterExpr → Except LoadError (List Variable)
  | [] => .ok []
  | [⟨identifier, type⟩] => do
    let type ← type.denote scope
    return [⟨parameterName identifier, if variadic then .slice type else type⟩]
  | ⟨identifier, type⟩ :: rest => do
    let type ← type.denote scope
    return ⟨parameterName identifier, type⟩ :: (← denoteVariables scope variadic rest)

/-- The fields of a struct. -/
def denoteFields (scope : Scope) : List FieldExpr → Except LoadError (List Field)
  | [] => .ok []
  | ⟨identifier, type, tag, embedded⟩ :: fields => do
    let type ← type.denote scope
    return ⟨identifier.name, type, tag, embedded⟩ :: (← denoteFields scope fields)

/-- The methods and the embedded types of an interface. -/
def denoteMembers (scope : Scope) :
    List MemberExpr → Except LoadError (List Method × List GoType)
  | [] => .ok ([], [])
  | .method identifier type :: members => do
    let signature ← type.denote scope
    let (methods, embeds) ← denoteMembers scope members
    return (⟨identifier.name, signature⟩ :: methods, embeds)
  | .embed type :: members => do
    let type ← type.denote scope
    let (methods, embeds) ← denoteMembers scope members
    return (methods, type :: embeds)

/-- The terms of a union. -/
def denoteTerms (scope : Scope) : List TermExpr → Except LoadError (List UnionMember)
  | [] => .ok []
  | ⟨approximate, type⟩ :: terms => do
    let type ← type.denote scope
    return ⟨approximate, type⟩ :: (← denoteTerms scope terms)

end

/-- The type parameters of a declaration. -/
def denoteParameters (scope : Scope) (parameters : List TypeParameterExpr) :
    Except LoadError (List TypeParameter) :=
  parameters.mapM fun parameter => do
    return ⟨parameter.identifier.name, ← parameter.constraint.denote scope⟩

namespace Scope

/-- The scope inside the constraints of a referenced declaration: references carry no type
parameters. -/
def shallow (package : Package) (declared : Declared) : Scope where
  package := package
  file := declared.file
  parameters := declared.declaration.parameters
  carried := fun _ => .ok []

/-- The scope of a declaration: a reference carries the declared type parameters. -/
def ofDeclared (package : Package) (declared : Declared) : Scope where
  package := package
  file := declared.file
  parameters := declared.declaration.parameters
  carried := fun other =>
    denoteParameters (shallow package other) other.declaration.parameters

/-- Say in which field an unsupported construct stands, unless that is known. -/
def inField (index : Nat) (name : String) : LoadError → LoadError
  | .unsupported construct none location =>
    .unsupported construct (some ⟨index, name⟩) location
  | error => error

/-- The fields of the declaration that was asked for, from an index on. -/
def rootFields (scope : Scope) (index : Nat) : List FieldExpr → Except LoadError (List Field)
  | [] => .ok []
  | field :: fields =>
    match field.type.denote scope with
    | .error error => .error (inField index field.identifier.name error)
    | .ok type => do
      return ⟨field.identifier.name, type, field.tag, field.embedded⟩ ::
        (← rootFields scope (index + 1) fields)

/-- The structure of the predeclared type `error`. -/
def errorInterface : GoType :=
  .interface [⟨"Error", .plain [] [⟨"", .basic .string⟩] false⟩] []

end Scope

namespace Package

/-- The structure that a declaration denotes.  Declarations that only name another declaration of
the package are followed to a type literal, at most the given number of times. -/
def underlying (package : Package) (steps : Nat) (declared : Declared) :
    Except LoadError GoType :=
  let scope := Scope.ofDeclared package declared
  let type := declared.declaration.type
  match type with
  | .name span (some qualifier) identifier _ =>
    match declared.file.importPath? qualifier.name with
    | none => .error (scope.undefined (.plain qualifier.name) qualifier.span)
    | some path =>
      if path = "unsafe" ∧ identifier.name = "Pointer" then .ok (.basic .unsafePointer)
      else
        .error (scope.unsupported (.foreignUnderlying qualifier.name identifier.name) span)
  | .name span none identifier arguments =>
    let name := identifier.name
    if scope.isParameter name then .error (scope.unsupported (.parameterUnderlying name) span)
    else
      match package.type? name with
      | some target =>
        if arguments.isEmpty then
          match steps with
          | 0 => .error (scope.unsupported (.recursiveType declared.name) span)
          | steps + 1 => package.underlying steps target
        else .error (scope.unsupported (.instantiatedUnderlying name) span)
      | none =>
        if name = "any" then .ok (.interface [] [])
        else if name = "error" then .ok Scope.errorInterface
        else if name = "comparable" then .error (scope.unsupported .comparable span)
        else type.denote scope
  | .record _ fields => do return .record (← scope.rootFields 0 fields)
  | _ => type.denote scope

/-- The declaration of a name with its structure. -/
def expand (package : Package) (name : String) : Except LoadError NamedType :=
  match package.type? name with
  | none => .error (.notFound name package.path)
  | some declared => do
    let scope := Scope.ofDeclared package declared
    let parameters ← denoteParameters scope declared.declaration.parameters
    let underlying ← package.underlying package.typeCount declared
    return ⟨name, package.path, some underlying, parameters, []⟩

/-- The declaration of a name, which must denote a struct. -/
def loadRecord (package : Package) (name : String) : Except LoadError NamedType := do
  let type ← package.expand name
  if type.fields?.isSome then return type
  else
    let kind := (type.underlying.map (·.kindName)).getD "unknown type"
    throw (.notARecord ⟨type.name, type.package, kind⟩)

end Package

end GoUnion
