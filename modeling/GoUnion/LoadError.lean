import GoUnion.SyntaxError
import GoUnion.Build.Header
import GoUnion.Text.Location

/-!
# Load errors

Everything that can go wrong between a request and the resolved type it asks
for: reading files, finding the module, reading the package, and resolving the
names of a declaration.  Errors about a piece of source text carry its
location.
-/

namespace GoUnion

open Text (Location)

/-- Why a file or directory could not be read or written. -/
inductive FileFault where
  | notFound
  | notDirectory
  | isDirectory
  | nameTooLong
  | nulByte
  | notText
  | notPermitted
  | noSpace
  deriving DecidableEq, Repr

/-- The wording of a file fault. -/
def FileFault.message : FileFault → String
  | .notFound => "No such file or directory (os error 2)"
  | .notDirectory => "Not a directory (os error 20)"
  | .isDirectory => "Is a directory (os error 21)"
  | .nameTooLong => "File name too long (os error 36)"
  | .nulByte => "file name contained an unexpected NUL byte"
  | .notText => "stream did not contain valid UTF-8"
  | .notPermitted => "Permission denied (os error 13)"
  | .noSpace => "No space left on device (os error 28)"

/-- A declaration that is no struct, where a struct was asked for. -/
structure NotARecord where
  name : String
  package : String
  kind : String
  deriving DecidableEq, Repr

/-- The wording for a declaration that is no struct. -/
def NotARecord.message (error : NotARecord) : String :=
  s!"{error.package}.{error.name} is a {error.kind}, not a struct"

/-- The struct field that an error is about. -/
structure FieldReference where
  index : Nat
  name : String
  deriving DecidableEq, Repr

/-- A field reference as it stands in a message. -/
def FieldReference.describe (field : FieldReference) : String :=
  s!"field {field.index} (`{field.name}`)"

/-- A name that does not resolve. -/
inductive UnknownName where
  | plain (name : String)
  | inUnsafe (name : String)
  | unexported (qualifier name : String)
  deriving DecidableEq, Repr

/-- An unknown name as it stands in a message. -/
def UnknownName.describe : UnknownName → String
  | .plain name => name
  | .inUnsafe name => s!"unsafe.{name}"
  | .unexported qualifier name => s!"{qualifier}.{name} (name not exported by package)"

/-- A use of type arguments that does not fit the type they are given to. -/
inductive ArityFault where
  | uninstantiated (name : String)
  | wrongCount (name : String) (have_ want : Nat)
  | notGeneric (name : String)
  deriving DecidableEq, Repr

/-- The wording of an arity fault. -/
def ArityFault.message : ArityFault → String
  | .uninstantiated name => s!"cannot use generic type {name} without instantiation"
  | .wrongCount name have_ want =>
    s!"wrong number of type arguments for {name}: have {have_}, want {want}"
  | .notGeneric name => s!"{name} is not a generic type"

/-- A construct that is valid but not supported. -/
inductive Construct where
  | foreignUnderlying (qualifier name : String)
  | parameterUnderlying (name : String)
  | instantiatedUnderlying (name : String)
  | recursiveType (name : String)
  | comparable
  | parameterInstantiation (name : String)
  | dotImport (name : String)
  | unevaluatedLength (name : String)
  | ellipsisLength
  | expressionLength (text : String)
  deriving DecidableEq, Repr

/-- A construct as it stands in a message. -/
def Construct.describe : Construct → String
  | .foreignUnderlying qualifier name =>
    s!"underlying type `{qualifier}.{name}` declared in another package"
  | .parameterUnderlying name => s!"type parameter `{name}` as underlying type"
  | .instantiatedUnderlying name => s!"instantiated type `{name}` as underlying type"
  | .recursiveType name => s!"invalid recursive type `{name}`"
  | .comparable => "`comparable` outside a constraint"
  | .parameterInstantiation name => s!"instantiation of type parameter `{name}`"
  | .dotImport name => s!"identifier `{name}` from a dot import"
  | .unevaluatedLength name =>
    s!"array length `{name}` (only literal and iota constants are evaluated)"
  | .ellipsisLength => "array length `[...]`"
  | .expressionLength text => s!"array length `{text}`"

/-- The causes of load errors. -/
inductive LoadError where
  | unreadable (path : String) (fault : FileFault)
  | noModule (directory : String)
  | badModule (path : String)
  | malformed (location : Location) (fault : SyntaxFault)
  | badConstraint (location : Location) (fault : Build.ConstraintFault)
  | emptyPackage (directory : String)
  | packageMismatch (directory first firstFile second secondFile : String)
  | sourceNotInPackage (file directory : String)
  | redeclared (name : String) (location : Location)
  | undefined (name : UnknownName) (location : Location)
  | typeArguments (fault : ArityFault) (location : Location)
  | notFound (name package : String)
  | unsupported (construct : Construct) (field : Option FieldReference) (location : Location)
  | notARecord (error : NotARecord)
  deriving DecidableEq, Repr

namespace LoadError

/-- The location of an error, if it is about a piece of source text. -/
def location? : LoadError → Option Location
  | .malformed location _ | .badConstraint location _ | .redeclared _ location
  | .undefined _ location | .typeArguments _ location | .unsupported _ _ location =>
    some location
  | _ => none

/-- The wording of an error, without its location. -/
def headline : LoadError → String
  | .unreadable path fault => s!"failed to read {path}: {fault.message}"
  | .noModule directory => s!"no go.mod found in {directory} or any parent directory"
  | .badModule path => s!"{path}: malformed go.mod: missing module directive"
  | .malformed _ fault => s!"syntax error: {fault.message}"
  | .badConstraint _ fault => s!"invalid build constraint: {fault.message}"
  | .emptyPackage directory => s!"{directory}: no Go source files"
  | .packageMismatch directory first firstFile second secondFile =>
    s!"found packages {first} ({firstFile}) and {second} ({secondFile}) in {directory}"
  | .sourceNotInPackage file directory => s!"{file} is not part of the package in {directory}"
  | .redeclared name _ => s!"{name} redeclared in this package"
  | .undefined name _ => s!"undefined: {name.describe}"
  | .typeArguments fault _ => fault.message
  | .notFound name package => s!"type {name} not found in package {package}"
  | .unsupported construct _ _ => s!"unsupported {construct.describe}"
  | .notARecord error => error.message

/-- What a message adds about the field an error arose in. -/
def fieldSuffix : LoadError → String
  | .unsupported _ (some field) _ => s!" in {field.describe}"
  | _ => ""

/-- The whole message of an error, opened by its location. -/
def message (error : LoadError) : String :=
  match error.location? with
  | some location => s!"{location.render}: {error.headline}{error.fieldSuffix}"
  | none => error.headline

end LoadError

end GoUnion
