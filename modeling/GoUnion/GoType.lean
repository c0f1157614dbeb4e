import GoUnion.TypeExpr
import GoUnion.Name

/-!
# Types

Types after their names are resolved.  A declared type is a reference by name
and package path; only the declaration that was asked for also carries its
structure, which keeps declarations that refer to themselves finite.  The
spelling of the source is kept, so `byte` and `uint8` are different here.
-/

namespace GoUnion

/-- The predeclared types without structure, and the one such type of package `unsafe`. -/
inductive BasicType where
  | bool | string
  | int | int8 | int16 | int32 | int64
  | uint | uint8 | uint16 | uint32 | uint64 | uintptr
  | float32 | float64 | complex64 | complex128
  | byte | rune
  | unsafePointer
  deriving DecidableEq, Repr

namespace BasicType

/-- The types that a name alone denotes. -/
def predeclared : List BasicType :=
  [.bool, .string, .int, .int8, .int16, .int32, .int64, .uint, .uint8, .uint16, .uint32,
   .uint64, .uintptr, .float32, .float64, .complex64, .complex128, .byte, .rune]

/-- The name of a basic type as it is written. -/
def name : BasicType → String
  | .bool => "bool"
  | .string => "string"
  | .int => "int"
  | .int8 => "int8"
  | .int16 => "int16"
  | .int32 => "int32"
  | .int64 => "int64"
  | .uint => "uint"
  | .uint8 => "uint8"
  | .uint16 => "uint16"
  | .uint32 => "uint32"
  | .uint64 => "uint64"
  | .uintptr => "uintptr"
  | .float32 => "float32"
  | .float64 => "float64"
  | .complex64 => "complex64"
  | .complex128 => "complex128"
  | .byte => "byte"
  | .rune => "rune"
  | .unsafePointer => "unsafe.Pointer"

/-- The basic type that a name denotes. -/
def ofName? (name : String) : Option BasicType :=
  predeclared.find? (·.name == name)

/-- Whether the type is another name for a basic type. -/
def isAlias : BasicType → Bool
  | .byte | .rune => true
  | _ => false

/-- Whether naming the type takes an import of package `unsafe`. -/
def needsUnsafe : BasicType → Bool
  | .unsafePointer => true
  | _ => false

end BasicType

mutual

/-- A type. -/
inductive GoType where
  | basic (type : BasicType)
  | named (reference : NamedType)
  | pointer (element : GoType)
  | array (length : UInt64) (element : GoType)
  | slice (element : GoType)
  | map (key value : GoType)
  | channel (direction : ChannelDirection) (element : GoType)
  | function (signature : Signature)
  | record (fields : List Field)
  | interface (methods : List Method) (embeds : List GoType)
  | union (members : List UnionMember)

/-- A declared type, with the path of its package; the path of the universe is empty.  The
structure is present only in the declaration that was asked for. -/
structure NamedType where
  name : String
  package : String
  underlying : Option GoType
  parameters : List TypeParameter
  arguments : List GoType

/-- A type parameter and its constraint. -/
structure TypeParameter where
  name : String
  constraint : GoType

/-- A parameter or result of a function; its name may be empty. -/
structure Variable where
  name : String
  type : GoType

/-- A field of a struct.  An embedded field goes by the name of its type. -/
structure Field where
  name : String
  type : GoType
  tag : Option String
  embedded : Bool

/-- The type of a function.  The last parameter of a variadic function is a slice. -/
structure Signature where
  receiver : Option Variable
  receiverParameters : List TypeParameter
  parameters : List Variable
  results : List Variable
  typeParameters : List TypeParameter
  variadic : Bool

/-- A method of an interface. -/
structure Method where
  name : String
  signature : Signature

/-- A term of a union. -/
structure UnionMember where
  approximate : Bool
  type : GoType

end

namespace GoType

/-- The kind of a type, as messages name it. -/
def kindName : GoType → String
  | .basic _ => "basic type"
  | .named _ => "named type"
  | .pointer _ => "pointer"
  | .array .. => "array"
  | .slice _ => "slice"
  | .map .. => "map"
  | .channel .. => "channel"
  | .function _ => "function"
  | .record _ => "struct"
  | .interface .. => "interface"
  | .union _ => "union"

/-- The fields of a struct. -/
def fields? : GoType → Option (List Field)
  | .record fields => some fields
  | _ => none

end GoType

namespace NamedType

/-- A reference without type parameters and arguments. -/
def reference (name package : String) : NamedType :=
  ⟨name, package, none, [], []⟩

/-- A predeclared name such as `error` or `any`. -/
def predeclared (name : String) : NamedType :=
  reference name ""

/-- Whether the type belongs to no package. -/
def isPredeclared (type : NamedType) : Bool :=
  type.package = ""

/-- Whether the type is visible outside its package. -/
def isExported (type : NamedType) : Bool :=
  Name.isExported type.name

/-- The fields of the structure, if it is that of a struct. -/
def fields? (type : NamedType) : Option (List Field) :=
  type.underlying.bind GoType.fields?

end NamedType

namespace Signature

/-- A function type with parameters and results only. -/
def plain (parameters results : List Variable) (variadic : Bool) : Signature :=
  ⟨none, [], parameters, results, [], variadic⟩

end Signature

end GoUnion
