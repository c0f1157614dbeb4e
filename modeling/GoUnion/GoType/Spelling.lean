import GoUnion.GoType

/-!
# The spelling of types

The text of a type in source form.  How a declared type is qualified is a
parameter: a qualifier gives the name written in front of a reference, or none
where the bare name will do.
-/

namespace GoUnion

/-- The name to write in front of a reference, if any. -/
abbrev Qualifier : Type := NamedType → Option String

/-- Qualify every declared type by the whole path of its package. -/
def Qualifier.fullPath : Qualifier := fun type =>
  if type.isPredeclared then none else some type.package

namespace Spelling

/-- A character below space or another control character. -/
def isControl (c : Char) : Bool :=
  c.toNat < 0x20 || (0x7F ≤ c.toNat && c.toNat < 0xA0)

/-- A number in lower-case hexadecimal with at least four digits. -/
def fourDigits (n : Nat) : List Char :=
  let digits := Nat.toDigits 16 n
  List.replicate (4 - digits.length) '0' ++ digits

/-- A character of a tag between double quotes. -/
def tagChar (c : Char) : List Char :=
  if c = '"' then ['\\', '"']
  else if c = '\\' then ['\\', '\\']
  else if c = '\n' then ['\\', 'n']
  else if c = '\r' then ['\\', 'r']
  else if c = '\t' then ['\\', 't']
  else if isControl c then '\\' :: 'u' :: fourDigits c.toNat
  else [c]

/-- A struct tag as a string literal: raw where possible, interpreted otherwise. -/
def tag (text : String) : String :=
  let chars := text.toList
  if chars.contains '\x60' || chars.contains '\r' then
    String.ofList ('"' :: chars.flatMap tagChar ++ ['"'])
  else
    String.ofList ('\x60' :: chars ++ ['\x60'])

/-- The text of an optional tag after a field. -/
def tagSuffix : Option String → String
  | none => ""
  | some text => " " ++ tag text

/-- What precedes the element of a channel type. -/
def channelOpening : ChannelDirection → String
  | .both => "chan "
  | .send => "chan<- "
  | .receive => "<-chan "

/-- Whether the element of a channel needs parentheses: without them, the arrow of a receiving
element would be taken for that of the channel. -/
def needsParens : ChannelDirection → GoType → Bool
  | .both, .channel .receive _ => true
  | _, _ => false

/-- Text between parentheses, if they are needed. -/
def inParens (needed : Bool) (text : String) : String :=
  if needed then "(" ++ text ++ ")" else text

/-- Pieces of text with a separator between them. -/
def joined (separator : String) (pieces : List String) : String :=
  separator.intercalate pieces

/-- A name and a point, if there is a name. -/
def qualification : Option String → String
  | none => ""
  | some name => name ++ "."

/-- Type arguments between brackets, if there are any. -/
def bracketed (pieces : List String) : String :=
  if pieces.isEmpty then "" else "[" ++ joined ", " pieces ++ "]"

/-- The members of a struct or interface between braces. -/
def braced (opening : String) (pieces : List String) : String :=
  if pieces.isEmpty then opening ++ "\x7b\x7d"
  else opening ++ "\x7b " ++ joined "; " pieces ++ " \x7d"

/-- A parameter or result.  In a list where some have names, the others are blank. -/
def declared (named : Bool) (name type : String) : String :=
  if named then (if name = "" then "_" else name) ++ " " ++ type else type

/-- Whether a list of results is written without parentheses. -/
def isBareResult : List Variable → Bool
  | [⟨name, _⟩] => name = ""
  | _ => false

/-- The results of a function after its parameters. -/
def results (bare : Bool) (pieces : List String) : String :=
  if pieces.isEmpty then ""
  else if bare then " " ++ joined ", " pieces
  else " (" ++ joined ", " pieces ++ ")"

/-- Whether some variable has a name. -/
def anyNamed (list : List Variable) : Bool :=
  list.any (·.name ≠ "")

end Spelling

open Spelling

mutual

/-- The text of a type. -/
def GoType.spell (qualify : Qualifier) : GoType → String
  | .basic type => type.name
  | .named reference => reference.spell qualify
  | .pointer element => "*" ++ element.spell qualify
  | .array length element => "[" ++ toString length.toNat ++ "]" ++ element.spell qualify
  | .slice element => "[]" ++ element.spell qualify
  | .map key value => "map[" ++ key.spell qualify ++ "]" ++ value.spell qualify
  | .channel direction element =>
    channelOpening direction ++
      inParens (needsParens direction element) (element.spell qualify)
  | .function signature => "func" ++ signature.spell qualify
  | .record fields => braced "struct" (spellFields qualify fields)
  | .interface methods embeds =>
    braced "interface" (spellMethods qualify methods ++ spellTypes qualify embeds)
  | .union members => joined " | " (spellMembers qualify members)

/-- The text of a reference to a declared type. -/
def NamedType.spell (qualify : Qualifier) : NamedType → String
  | ⟨name, package, underlying, parameters, arguments⟩ =>
    qualification (qualify ⟨name, package, underlying, parameters, arguments⟩) ++ name ++
      bracketed (spellTypes qualify arguments)

/-- The text of a function type after its keyword or its name. -/
def Signature.spell (qualify : Qualifier) : Signature → String
  | ⟨_, _, parameters, outcomes, _, variadic⟩ =>
    "(" ++
      joined ", " (spellVariables qualify (anyNamed parameters) variadic parameters) ++ ")" ++
      results (isBareResult outcomes)
        (spellVariables qualify (anyNamed outcomes) false outcomes)

/-- The texts of some types. -/
def spellTypes (qualify : Qualifier) : List GoType → List String
  | [] => []
  | type :: types => type.spell qualify :: spellTypes qualify types

/-- The texts of parameters or results.  A last variadic parameter is written by the element of
its slice. -/
def spellVariables (qualify : Qualifier) (named variadic : Bool) : List Variable → List String
  | [] => []
  | [⟨name, .slice element⟩] =>
    [declared named name ((if variadic then "..." else "[]") ++ element.spell qualify)]
  | ⟨name, type⟩ :: rest =>
    declared named name (type.spell qualify) :: spellVariables qualify named variadic rest

/-- The texts of the fields of a struct. -/
def spellFields (qualify : Qualifier) : List Field → List String
  | [] => []
  | ⟨name, type, tag, embedded⟩ :: fields =>
    ((if embedded then "" else name ++ " ") ++ type.spell qualify ++ tagSuffix tag) ::
      spellFields qualify fields

/-- The texts of the methods of an interface. -/
def spellMethods (qualify : Qualifier) : List Method → List String
  | [] => []
  | ⟨name, signature⟩ :: methods =>
    (name ++ signature.spell qualify) :: spellMethods qualify methods

/-- The texts of the terms of a union. -/
def spellMembers (qualify : Qualifier) : List UnionMember → List String
  | [] => []
  | ⟨approximate, type⟩ :: members =>
    ((if approximate then "~" else "") ++ type.spell qualify) :: spellMembers qualify members

end

/-- The text of a reference: the qualifier, the name and the arguments between brackets. -/
theorem spell_named
    (qualify : Qualifier) (name package : String)
    (underlying : Option GoType) (parameters : List TypeParameter)
    (arguments : List GoType) :
    (GoType.named ⟨name, package, underlying, parameters, arguments⟩).spell
        qualify =
      qualification
          (qualify ⟨name, package, underlying, parameters, arguments⟩) ++
        name ++ bracketed (spellTypes qualify arguments) := by
  rw [GoType.spell, NamedType.spell]

/-- The texts of type parameters with their constraints. -/
def spellParameters (qualify : Qualifier) (parameters : List TypeParameter) : String :=
  joined ", " (parameters.map fun parameter =>
    parameter.name ++ " " ++ parameter.constraint.spell qualify)

end GoUnion
