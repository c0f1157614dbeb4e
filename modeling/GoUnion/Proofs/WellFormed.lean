import GoUnion.GoType
import GoUnion.Proofs.Lexing.Names
import Mathlib.Data.List.Basic

/-!
# Well-formed types

What holds of every type that resolution produces.  References carry no
structure, and what they carry of type parameters is one level deep.  Function
types have no receiver and no type parameters, name all of their parameters or
none, and spread a last slice only.  Unions stand where a type set may stand.
An embedded field goes by the name of its type.  Whatever has a name has one that
the scanner reads as an identifier.

The predicate goes down through all parts of a type.  Two things depend on
where a type stands: whether it is inside the type parameters that a reference
carries, and whether it may be a type set.
-/

namespace GoUnion

open Lexeme (IsName)

/-- Whether a type set may stand in a place. -/
inductive TypePlace where
  /-- A type-parameter constraint, or an embedded element of an interface. -/
  | typeSet
  /-- Any other place. -/
  | plain
  deriving DecidableEq

/-- All variables of a list have names, or none has. -/
def NamesAgree (list : List Variable) : Prop :=
  (∀ item ∈ list, item.name = "") ∨ ∀ item ∈ list, item.name ≠ ""

/-- The last variable of a list is a slice. -/
def EndsWithSlice (list : List Variable) : Prop :=
  ∃ front name element, list = front ++ [⟨name, .slice element⟩]

/-- The name that a type goes by without a qualifier, if it is declared or predeclared. -/
def GoType.ownName? : GoType → Option String
  | .named reference => some reference.name
  | .basic .unsafePointer => some "Pointer"
  | .basic type => some type.name
  | _ => none

/-- An embedded type goes by its own name or by that of the type it points to. -/
def EmbeddedAs (name : String) (type : GoType) : Prop :=
  type.ownName? = some name ∨
    ∃ element, type = .pointer element ∧ element.ownName? = some name

mutual

/-- A well-formed type.  The flag says whether it stands inside the type parameters of a reference. -/
inductive WellFormed : Bool → TypePlace → GoType → Prop where
  | basic {inside : Bool} {place : TypePlace} {type : BasicType} :
      WellFormed inside place (.basic type)
  | named {inside : Bool} {place : TypePlace} {name package : String}
      {parameters : List TypeParameter} {arguments : List GoType}
      (isName : IsName name)
      (shallow : inside = true → parameters = [])
      (constraints : ∀ parameter ∈ parameters,
        WellFormed true .typeSet parameter.constraint)
      (applied : ∀ argument ∈ arguments, WellFormed inside .plain argument) :
      WellFormed inside place
        (.named ⟨name, package, none, parameters, arguments⟩)
  | pointer {inside : Bool} {place : TypePlace} {element : GoType}
      (inner : WellFormed inside .plain element) :
      WellFormed inside place (.pointer element)
  | array {inside : Bool} {place : TypePlace} {length : UInt64}
      {element : GoType}
      (inner : WellFormed inside .plain element) :
      WellFormed inside place (.array length element)
  | slice {inside : Bool} {place : TypePlace} {element : GoType}
      (inner : WellFormed inside .plain element) :
      WellFormed inside place (.slice element)
  | map {inside : Bool} {place : TypePlace} {key value : GoType}
      (innerKey : WellFormed inside .plain key)
      (innerValue : WellFormed inside .plain value) :
      WellFormed inside place (.map key value)
  | channel {inside : Bool} {place : TypePlace}
      {direction : ChannelDirection} {element : GoType}
      (inner : WellFormed inside .plain element) :
      WellFormed inside place (.channel direction element)
  | function {inside : Bool} {place : TypePlace} {signature : Signature}
      (inner : WellFormedSignature inside signature) :
      WellFormed inside place (.function signature)
  | record {inside : Bool} {place : TypePlace} {fields : List Field}
      (names : ∀ field ∈ fields, IsName field.name)
      (inner : ∀ field ∈ fields, WellFormed inside .plain field.type)
      (embedded : ∀ field ∈ fields,
        field.embedded = true → EmbeddedAs field.name field.type) :
      WellFormed inside place (.record fields)
  | interface {inside : Bool} {place : TypePlace} {methods : List Method}
      {embeds : List GoType}
      (names : ∀ method ∈ methods, IsName method.name)
      (signatures : ∀ method ∈ methods,
        WellFormedSignature inside method.signature)
      (inner : ∀ type ∈ embeds, WellFormed inside .typeSet type) :
      WellFormed inside place (.interface methods embeds)
  | union {inside : Bool} {members : List UnionMember}
      (inner : ∀ member ∈ members, WellFormed inside .plain member.type)
      (proper : 2 ≤ members.length ∨
        ∃ member, members = [member] ∧ member.approximate = true) :
      WellFormed inside .typeSet (.union members)

/-- A well-formed function type. -/
inductive WellFormedSignature : Bool → Signature → Prop where
  | plain {inside variadic : Bool} {parameters results : List Variable}
      (innerParameters : ∀ parameter ∈ parameters,
        WellFormed inside .plain parameter.type)
      (innerResults : ∀ result ∈ results,
        WellFormed inside .plain result.type)
      (parametersAgree : NamesAgree parameters)
      (resultsAgree : NamesAgree results)
      (parameterNames : ∀ parameter ∈ parameters,
        parameter.name ≠ "" → IsName parameter.name)
      (resultNames : ∀ result ∈ results,
        result.name ≠ "" → IsName result.name)
      (spreads : variadic = true → EndsWithSlice parameters) :
      WellFormedSignature inside
        ⟨none, [], parameters, results, [], variadic⟩

end

/-- A well-formed declaration, which is the one reference that carries its structure. -/
structure NamedType.WellFormedRoot (root : NamedType) : Prop where
  structured : ∃ type,
    root.underlying = some type ∧ WellFormed false .plain type
  names : ∀ parameter ∈ root.parameters, IsName parameter.name
  constraints : ∀ parameter ∈ root.parameters,
    WellFormed false .typeSet parameter.constraint
  applied : ∀ argument ∈ root.arguments, WellFormed false .plain argument

/-- A type set has no type set among its members. -/
theorem WellFormed.not_union
    {inside : Bool} {type : GoType}
    (wellFormed : WellFormed inside .plain type)
    (members : List UnionMember) :
    type ≠ .union members := by
  rintro rfl
  cases wellFormed

/-- What is well-formed in any place is so where a type set may stand. -/
theorem WellFormed.typeSet
    {inside : Bool} {type : GoType}
    (wellFormed : WellFormed inside .plain type) :
    WellFormed inside .typeSet type := by
  cases wellFormed with
  | basic => exact .basic
  | named isName shallow constraints applied =>
      exact .named isName shallow constraints applied
  | pointer inner => exact .pointer inner
  | array inner => exact .array inner
  | slice inner => exact .slice inner
  | map innerKey innerValue => exact .map innerKey innerValue
  | channel inner => exact .channel inner
  | function inner => exact .function inner
  | record names inner embedded => exact .record names inner embedded
  | interface names signatures inner =>
      exact .interface names signatures inner

end GoUnion
