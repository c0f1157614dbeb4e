import GoUnion.Name
import GoUnion.Union.Source

/-!
# Generation

Checking a request, planning names and imports, and writing the file.
-/

namespace GoUnion

/-- What a name of the configuration is for. -/
inductive NameRole where
  | type
  | package
  deriving DecidableEq, Repr

/-- A role as it stands in a message. -/
def NameRole.describe : NameRole → String
  | .type => "type name"
  | .package => "package name"

/-- The causes for which no union can be made from a struct. -/
inductive SynthesisError where
  | blankVariant (union : String) (index : Nat)
  | duplicateVariant (union name : String)
  | noVariants (union : String)
  | unexported (type : HiddenType)
  | invalidName (name : String) (role : NameRole)
  deriving DecidableEq, Repr

/-- The wording of a cause. -/
def SynthesisError.message : SynthesisError → String
  | .blankVariant union index =>
    s!"field {index} of {union} is blank; blank fields cannot become variants"
  | .duplicateVariant union name => s!"{union} declares field {name} more than once"
  | .noVariants union =>
    s!"{union} has no fields, so there is no first variant to make the default"
  | .unexported type =>
    s!"{type.owner} uses {type.type}, which is unexported and cannot be named from package " ++
      type.package
  | .invalidName name role => s!"`{name}` is not a valid {role.describe}"

/-- Everything that can go wrong between a request and the text it asks for. -/
inductive GenerateError where
  | load (error : LoadError)
  | notARecord (error : NotARecord)
  | synthesis (error : SynthesisError)
  deriving DecidableEq, Repr

namespace GenerateError

/-- The wording of an error. -/
def message : GenerateError → String
  | .load error => error.message
  | .notARecord error => error.message
  | .synthesis error => error.message

/-- The location of an error, if it has one. -/
def location? : GenerateError → Option Text.Location
  | .load error => error.location?
  | _ => none

end GenerateError

namespace UnionDescriptor

/-- Check a name of the configuration. -/
def checkName (name : String) (role : NameRole) : Except SynthesisError Unit :=
  if Name.isIdentifier name ∧ name ≠ "_" then .ok ()
  else .error (.invalidName name role)

/-- Check the names of the variants from an index on, given the names before it. -/
def checkVariants (union : String) (seen : List String) (index : Nat) :
    List String → Except SynthesisError Unit
  | [] => .ok ()
  | name :: names =>
    if name = "_" then .error (.blankVariant union index)
    else if seen.contains name then .error (.duplicateVariant union name)
    else checkVariants union (name :: seen) (index + 1) names

/-- Check that a union can be made under a configuration. -/
def check (descriptor : UnionDescriptor) (config : OutputConfig) : Except SynthesisError Unit := do
  checkName config.typeName .type
  checkName config.package .package
  checkVariants descriptor.name [] 0 descriptor.variantNames
  if config.features.defaulting && descriptor.variants.isEmpty then
    throw (.noVariants descriptor.name)

/-- The import path of the package that the union is generated into. -/
def destination (descriptor : UnionDescriptor) (config : OutputConfig) : String :=
  config.packagePath.getD descriptor.package

/-- The names that the generated code has to mention. -/
def reservedNames (imports : ImportPlan) (config : OutputConfig) : List String :=
  config.typeName :: UnionSource.discriminantType config.typeName :: imports.reserved

/-- The source of the union under a configuration. -/
def source (descriptor : UnionDescriptor) (config : OutputConfig) :
    Except SynthesisError UnionSource := do
  descriptor.check config
  match ImportPlan.collect descriptor (descriptor.destination config) with
  | .error type => throw (.unexported type)
  | .ok imports =>
    let plan := NamePlan.resolve descriptor.variantNames config.features
      (reservedNames imports config)
    return ⟨descriptor, plan, imports, config⟩

end UnionDescriptor

namespace NamedType

/-- The text of the union of a declared struct. -/
def generate (type : NamedType) (config : OutputConfig) : Except GenerateError String :=
  match UnionDescriptor.ofNamed type with
  | .error error => .error (.notARecord error)
  | .ok descriptor =>
    match descriptor.source config with
    | .error error => .error (.synthesis error)
    | .ok source => .ok source.text

end NamedType

end GoUnion
