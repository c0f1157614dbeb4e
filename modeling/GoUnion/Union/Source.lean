import GoUnion.Union.ImportPlan
import GoUnion.Union.NamePlan

/-!
# The source of a union

The lines of the generated file.  Each declaration is a list of lines that
depends on the variants, the name plan and the import plan only; a feature that
is off leaves its declarations out and touches no other line.
-/

namespace GoUnion

/-- Everything that the text of a generated file depends on. -/
structure UnionSource where
  descriptor : UnionDescriptor
  plan : NamePlan
  imports : ImportPlan
  config : OutputConfig

namespace UnionSource

/-- The name of the type of discriminants. -/
def discriminantType (typeName : String) : String :=
  typeName ++ "Variant"

/-- The name of the constant of a state. -/
def stateName (typeName state : String) : String :=
  typeName ++ "_" ++ state

/-- The type of discriminants. -/
def discriminant (source : UnionSource) : String :=
  discriminantType source.config.typeName

/-- The constant of a state. -/
def state (source : UnionSource) (name : String) : String :=
  stateName source.config.typeName name

/-- Whether all variants share one slot. -/
def isCompact (source : UnionSource) : Bool :=
  source.config.features.publicValue

/-- The text of a type. -/
def spell (source : UnionSource) (type : GoType) : String :=
  type.spell source.imports.qualifier

/-- The type parameters with their constraints, between brackets. -/
def declaredParameters (source : UnionSource) : String :=
  if source.descriptor.isGeneric then
    "[" ++ spellParameters source.imports.qualifier source.descriptor.parameters ++ "]"
  else ""

/-- The names of the type parameters, between brackets. -/
def usedParameters (source : UnionSource) : String :=
  if source.descriptor.isGeneric then
    "[" ++ ", ".intercalate (source.descriptor.parameters.map (·.name)) ++ "]"
  else ""

/-- The union type as it is used. -/
def instanceType (source : UnionSource) : String :=
  source.config.typeName ++ source.usedParameters

/-- The receiver of a method. -/
def receiver (source : UnionSource) : String :=
  s!"({source.plan.receiver} *{source.instanceType})"

/-- The slot that holds the value of a variant. -/
def slot (source : UnionSource) (variant : Field) : String :=
  if source.isCompact then source.plan.inner else variant.name

/-- The value of the union in which a variant is active. -/
def literal (source : UnionSource) (variant : Field) : String :=
  source.instanceType ++ "\x7b" ++ source.plan.discriminant ++ ": " ++ source.state variant.name ++
    ", " ++ source.slot variant ++ ": " ++ source.plan.valueParameter ++ "\x7d"

/-- A command on one line. -/
def oneLine (command : String) : String :=
  String.ofList (command.toList.map fun c => if c = '\n' || c = '\r' then ' ' else c)

/-- The comment that marks the file as generated. -/
def marker (source : UnionSource) : String :=
  match source.config.command with
  | some command => s!"// Code generated by gunion via `{oneLine command}`. DO NOT EDIT."
  | none => "// Code generated by gunion. DO NOT EDIT."

/-- The marker, the package clause and the imports. -/
def header (source : UnionSource) : List String :=
  [source.marker, "", s!"package {source.config.package}"] ++
    if source.imports.isEmpty then [] else "" :: source.imports.lines

/-- The states of the union: the invalid one if there is one, then the variants. -/
def states (source : UnionSource) : List String :=
  source.plan.invalid.toList ++ source.descriptor.variantNames

/-- The constants of the states, of which the first names the type and starts the count. -/
def stateLines (source : UnionSource) : List String :=
  match source.states with
  | [] => []
  | first :: others =>
    s!"\t{source.state first} {source.discriminant} = iota" ::
      others.map fun name => s!"\t{source.state name}"

/-- The type of discriminants and its constants. -/
def discriminantLines (source : UnionSource) : List String :=
  ["", s!"// {source.discriminant} identifies the active variant of a {source.config.typeName}.",
    s!"type {source.discriminant} int", "", "const ("] ++ source.stateLines ++ [")"]

/-- What the method that names a discriminant returns for any other value. -/
def otherName (source : UnionSource) : String :=
  source.plan.invalid.getD "Invalid"

/-- The method that names a discriminant. -/
def stringLines (source : UnionSource) : List String :=
  ["", "// String returns the name of the variant.",
    s!"func (v {source.discriminant}) String() string \x7b", "\tswitch v \x7b"] ++
    (source.descriptor.variants.flatMap fun variant =>
      [s!"\tcase {source.state variant.name}:", s!"\t\treturn {Text.quoted variant.name}"]) ++
    ["\tdefault:", s!"\t\treturn {Text.quoted source.otherName}",
      "\t\x7d", "\x7d"]

/-- The slots of the union type: the discriminant, and one for all values or one per variant. -/
def slots (source : UnionSource) : List (String × String) :=
  (source.plan.discriminant, source.discriminant) ::
    if source.isCompact then [(source.plan.inner, "any")]
    else source.descriptor.variants.map fun variant => (variant.name, source.spell variant.type)

/-- A name filled up with spaces to a width. -/
def padded (width : Nat) (name : String) : String :=
  String.ofList (name.toList ++ List.replicate (width - name.length) ' ')

/-- The lines of some slots, their types aligned. -/
def slotLines (slots : List (String × String)) : List String :=
  let width := (slots.map fun (name, _) => name.length).foldl max 0
  slots.map fun (name, type) => s!"\t{padded width name} {type}"

/-- The union type. -/
def typeLines (source : UnionSource) : List String :=
  ["",
    s!"// {source.config.typeName} holds exactly one of the fields of {source.descriptor.name}.",
    s!"type {source.config.typeName}{source.declaredParameters} struct \x7b"] ++
    slotLines source.slots ++ ["\x7d"]

/-- The method that returns the active variant. -/
def variantLines (source : UnionSource) : List String :=
  ["", s!"// {source.plan.variantMethod} returns the active variant.",
    s!"func {source.receiver} {source.plan.variantMethod}() {source.discriminant} \x7b",
    s!"\treturn {source.plan.receiver}.{source.plan.discriminant}", "\x7d"]

/-- The zero value of the first variant, for a union that was never set. -/
def defaultValueLines (source : UnionSource) : List String :=
  match source.descriptor.variants with
  | first :: _ =>
    if source.config.features.defaulting then
      let u := source.plan.receiver
      [s!"\tif {u}.{source.plan.discriminant} == {source.state first.name} && " ++
          s!"{u}.{source.plan.inner} == nil \x7b",
        s!"\t\tvar {source.plan.zero} {source.spell first.type}",
        s!"\t\treturn {source.plan.zero}", "\t\x7d"]
    else []
  | [] => []

/-- The method that returns the value of the active variant. -/
def valueLines (source : UnionSource) : List String :=
  match source.plan.valueMethod with
  | none => []
  | some method =>
    ["",
      s!"// {method} returns the value of the active variant, or nil if there is none.",
      s!"func {source.receiver} {method}() any \x7b"] ++ source.defaultValueLines ++
      [s!"\treturn {source.plan.receiver}.{source.plan.inner}", "\x7d"]

/-- How a getter returns the value of its variant when it is active. -/
def activeLines (source : UnionSource) (variant : Field) : List String :=
  let u := source.plan.receiver
  if source.isCompact then
    let value := source.plan.valueParameter
    [s!"\t{value}, _ := {u}.{source.plan.inner}.({source.spell variant.type})",
      s!"\treturn {value}, true"]
  else [s!"\treturn {u}.{variant.name}, true"]

/-- The getter of a variant. -/
def getterLines (source : UnionSource) (variant : Field) (getter : String) : List String :=
  let u := source.plan.receiver
  let type := source.spell variant.type
  ["",
    s!"// {getter} returns the value of {variant.name} and whether it is the active variant.",
    s!"func {source.receiver} {getter}() ({type}, bool) \x7b",
    s!"\tif {u}.{source.plan.discriminant} != {source.state variant.name} \x7b",
    s!"\t\tvar {source.plan.zero} {type}",
    s!"\t\treturn {source.plan.zero}, false", "\t\x7d"] ++ source.activeLines variant ++ ["\x7d"]

/-- The setter of a variant. -/
def setterLines (source : UnionSource) (variant : Field) (setter : String) : List String :=
  let value := source.plan.valueParameter
  ["",
    s!"// {setter} makes {variant.name} the active variant, holding {value}.",
    s!"func {source.receiver} {setter}({value} {source.spell variant.type}) \x7b",
    s!"\t*{source.plan.receiver} = {source.literal variant}", "\x7d"]

/-- The case of a variant in the matching method. -/
def caseLines (source : UnionSource) (variant : Field) (handler : String) : List String :=
  let u := source.plan.receiver
  s!"\tcase {source.state variant.name}:" ::
    if source.isCompact then
      let value := source.plan.valueParameter
      [s!"\t\t{value}, _ := {u}.{source.plan.inner}.({source.spell variant.type})",
        s!"\t\t{handler}({value})"]
    else [s!"\t\t{handler}({u}.{variant.name})"]

/-- The variants with the names that a role gives them. -/
def named (source : UnionSource) (names : List String) : List (Field × String) :=
  source.descriptor.variants.zip names

/-- The method that calls the handler of the active variant. -/
def matchLines (source : UnionSource) : List String :=
  match source.plan.matchMethod with
  | none => []
  | some method =>
    let handled := source.named source.plan.handlers
    let invalid := source.plan.invalid.isSome
    ["", s!"// {method} calls the handler of the active variant with its value.",
      s!"func {source.receiver} {method}("] ++
      (handled.map fun (variant, handler) =>
        s!"\t{handler} func({source.spell variant.type}),") ++
      (if invalid then [s!"\t{source.plan.invalidHandler} func(),"] else []) ++
      [") \x7b", s!"\tswitch {source.plan.receiver}.{source.plan.discriminant} \x7b"] ++
      (handled.flatMap fun (variant, handler) => source.caseLines variant handler) ++
      (if invalid then ["\tdefault:", s!"\t\t{source.plan.invalidHandler}()"] else []) ++
      ["\t\x7d", "\x7d"]

/-- The name of the constructor of a variant. -/
def constructorName (source : UnionSource) (variant : Field) : String :=
  "New" ++ source.state variant.name

/-- The constructor of a variant. -/
def constructorLines (source : UnionSource) (variant : Field) : List String :=
  let name := source.constructorName variant
  let value := source.plan.valueParameter
  ["", s!"// {name} returns a {source.config.typeName} holding {variant.name}.",
    s!"func {name}{source.declaredParameters}({value} {source.spell variant.type}) " ++
      s!"{source.instanceType} \x7b",
    s!"\treturn {source.literal variant}", "\x7d"]

/-- The getters. -/
def getterBlock (source : UnionSource) : List String :=
  (source.named source.plan.getters).flatMap fun (variant, getter) =>
    source.getterLines variant getter

/-- The setters. -/
def setterBlock (source : UnionSource) : List String :=
  (source.named source.plan.setters).flatMap fun (variant, setter) =>
    source.setterLines variant setter

/-- The constructors. -/
def constructorBlock (source : UnionSource) : List String :=
  source.descriptor.variants.flatMap source.constructorLines

/-- The lines of the file. -/
def lines (source : UnionSource) : List String :=
  source.header ++ source.discriminantLines ++ source.stringLines ++ source.typeLines ++
    source.variantLines ++ source.valueLines ++ source.getterBlock ++ source.setterBlock ++
    source.matchLines ++ source.constructorBlock

/-- The text of the file: every line ends with a newline. -/
def text (source : UnionSource) : String :=
  String.join (source.lines.map (· ++ "\n"))

end UnionSource

end GoUnion
