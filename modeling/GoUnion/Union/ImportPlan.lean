import GoUnion.GoType.Spelling
import GoUnion.GoType.Traversal
import GoUnion.Text.Escaped
import GoUnion.Union.Descriptor
import GoUnion.Union.FreeName

/-!
# Import plans

The packages that a generated file imports and the local names it gives them.
A reference is foreign if it has to be qualified: it is neither predeclared,
nor declared in the destination package, nor a type parameter of the union.
Every package of a foreign reference is imported, and so is `unsafe` where its
pointer occurs.
-/

namespace GoUnion

/-- Insert a text into an ascending list of texts, unless it is there. -/
def insertOrdered (text : String) : List String → List String
  | [] => [text]
  | first :: rest =>
    if text = first then first :: rest
    else if text < first then text :: first :: rest
    else first :: insertOrdered text rest

/-- The texts of a list in ascending order, each once. -/
def ordered : List String → List String
  | [] => []
  | text :: texts => insertOrdered text (ordered texts)

/-- A reference to a type that cannot be named from the destination. -/
structure HiddenType where
  owner : String
  type : String
  package : String
  deriving DecidableEq, Repr

/-- The imports of a generated file. -/
structure ImportPlan where
  destination : String
  source : String
  parameters : List String
  /-- The local names of the imported paths, in the order of the paths. -/
  names : List (String × String)
  /-- The identifiers that are written without a qualifier, in order. -/
  bare : List String
  deriving DecidableEq, Repr

namespace ImportPlan

/-- The path of package `unsafe`, which keeps its name. -/
def unsafePath : String := "unsafe"

/-- Whether a reference is a type parameter of the declaration in a package. -/
def isParameter (source : String) (parameters : List String) (type : NamedType) : Bool :=
  type.package = source && type.arguments.isEmpty && parameters.contains type.name

/-- Whether a reference has to be qualified. -/
def isForeign (destination source : String) (parameters : List String) (type : NamedType) :
    Bool :=
  !(type.isPredeclared || type.package = destination || isParameter source parameters type)

/-- The paths that a type inside a type makes necessary. -/
def pathsOf (foreign : NamedType → Bool) : GoType → List String
  | .basic type => if type.needsUnsafe then [unsafePath] else []
  | .named type => if foreign type then [type.package] else []
  | _ => []

/-- The identifiers that a type inside a type has written without a qualifier. -/
def bareOf (foreign : NamedType → Bool) : GoType → List String
  | .basic type => if type.needsUnsafe then [] else [type.name]
  | .named type => if foreign type then [] else [type.name]
  | _ => []

/-- The first foreign reference of a type that is not exported. -/
def hidden? (foreign : NamedType → Bool) (type : GoType) : Option NamedType :=
  type.references.find? fun reference => foreign reference && !reference.isExported

/-- The types that a generated file spells, each with the name of its owner in messages. -/
def spelled (descriptor : UnionDescriptor) : List (String × GoType) :=
  descriptor.parameters.map (fun parameter =>
      (s!"type parameter `{parameter.name}`", parameter.constraint)) ++
    descriptor.variants.map fun variant => (s!"variant `{variant.name}`", variant.type)

/-- Local names for some paths, each taken before the next is chosen. -/
def nameAll (taken : List String) : List String → List (String × String)
  | [] => []
  | path :: paths =>
    if path = unsafePath then (path, unsafePath) :: nameAll taken paths
    else
      let name := freeNumbered taken (Name.ofImportPath path)
      (path, name) :: nameAll (name :: taken) paths

/-- The imports of a union that is generated into a package. -/
def collect (descriptor : UnionDescriptor) (destination : String) :
    Except HiddenType ImportPlan :=
  let parameters := descriptor.parameters.map (·.name)
  let foreign := isForeign destination descriptor.package parameters
  let owners := spelled descriptor
  match owners.findSome? fun (owner, type) => (hidden? foreign type).map (owner, ·) with
  | some (owner, type) => .error ⟨owner, type.spell .fullPath, destination⟩
  | none =>
    let nodes := owners.flatMap fun (_, type) => type.nodes
    let paths := ordered (nodes.flatMap (pathsOf foreign))
    let bare := ordered (nodes.flatMap (bareOf foreign) ++ parameters)
    let taken := if paths.contains unsafePath then unsafePath :: bare else bare
    .ok ⟨destination, descriptor.package, parameters, nameAll taken paths, bare⟩

/-- Whether nothing is imported. -/
def isEmpty (plan : ImportPlan) : Bool :=
  plan.names.isEmpty

/-- The identifiers that the generated code must not shadow. -/
def reserved (plan : ImportPlan) : List String :=
  plan.bare ++ plan.names.map (·.2)

/-- How a reference is qualified in the generated file. -/
def qualifier (plan : ImportPlan) : Qualifier := fun type =>
  if isForeign plan.destination plan.source plan.parameters type then
    plan.names.lookup type.package
  else none

/-- The last element of a path. -/
def lastElement (path : String) : String :=
  String.ofList (((path.toList.splitOn '/').getLast?).getD [])

/-- An import with its local name, which is left out where it is the last element of the path. -/
def spec (path name : String) : String :=
  if name = lastElement path then Text.quoted path else name ++ " " ++ Text.quoted path

/-- The lines of the import declaration. -/
def lines (plan : ImportPlan) : List String :=
  match plan.names.map fun (path, name) => spec path name with
  | [] => []
  | [single] => ["import " ++ single]
  | specs => ["import ("] ++ specs.map ("\t" ++ ·) ++ [")"]

end ImportPlan

end GoUnion
