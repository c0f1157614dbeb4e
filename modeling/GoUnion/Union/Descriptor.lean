import GoUnion.GoType
import GoUnion.LoadError

/-!
# Union descriptors

A union has one variant for each field of the struct it is made from, in the
order of the fields.
-/

namespace GoUnion

/-- The variants of a union and the declaration they come from. -/
structure UnionDescriptor where
  name : String
  package : String
  parameters : List TypeParameter
  variants : List Field

namespace UnionDescriptor

/-- The union of a declared type, whose structure must be that of a struct. -/
def ofNamed (type : NamedType) : Except NotARecord UnionDescriptor :=
  match type.fields? with
  | some fields => .ok ⟨type.name, type.package, type.parameters, fields⟩
  | none =>
    let kind := (type.underlying.map (·.kindName)).getD "type without structure"
    .error ⟨type.name, type.package, kind⟩

/-- The names of the variants. -/
def variantNames (descriptor : UnionDescriptor) : List String :=
  descriptor.variants.map (·.name)

/-- Whether the union has type parameters. -/
def isGeneric (descriptor : UnionDescriptor) : Bool :=
  !descriptor.parameters.isEmpty

end UnionDescriptor

end GoUnion
