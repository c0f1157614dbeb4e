import GoUnion.GoType

/-!
# The types inside a type

The list of all types that a type is written with, each before the types
inside it.  The structure and the declared parameters of a declared type are
not part of a reference to it and are left out; its arguments are not.
-/

namespace GoUnion

mutual

/-- A type followed by the types inside it. -/
def GoType.nodes : GoType → List GoType
  | .basic type => [.basic type]
  | .named reference => .named reference :: reference.argumentNodes
  | .pointer element => .pointer element :: element.nodes
  | .array length element => .array length element :: element.nodes
  | .slice element => .slice element :: element.nodes
  | .map key value => .map key value :: (key.nodes ++ value.nodes)
  | .channel direction element => .channel direction element :: element.nodes
  | .function signature => .function signature :: signature.nodes
  | .record fields => .record fields :: fieldNodes fields
  | .interface methods embeds =>
    .interface methods embeds :: (methodNodes methods ++ typeNodes embeds)
  | .union members => .union members :: memberNodes members

/-- The types inside a reference to a declared type. -/
def NamedType.argumentNodes : NamedType → List GoType
  | ⟨_, _, _, _, arguments⟩ => typeNodes arguments

/-- The types inside a function type: those of the receiver, the type parameters, the parameters
and the results. -/
def Signature.nodes : Signature → List GoType
  | ⟨receiver, receiverParameters, parameters, results, typeParameters, _⟩ =>
    receiverNodes receiver ++ parameterNodes receiverParameters ++
      parameterNodes typeParameters ++ variableNodes parameters ++ variableNodes results

/-- The types inside an optional receiver. -/
def receiverNodes : Option Variable → List GoType
  | none => []
  | some ⟨_, type⟩ => type.nodes

/-- The types inside some types, themselves included. -/
def typeNodes : List GoType → List GoType
  | [] => []
  | type :: types => type.nodes ++ typeNodes types

/-- The types inside the constraints of type parameters. -/
def parameterNodes : List TypeParameter → List GoType
  | [] => []
  | ⟨_, constraint⟩ :: parameters => constraint.nodes ++ parameterNodes parameters

/-- The types inside the types of variables. -/
def variableNodes : List Variable → List GoType
  | [] => []
  | ⟨_, type⟩ :: rest => type.nodes ++ variableNodes rest

/-- The types inside the types of fields. -/
def fieldNodes : List Field → List GoType
  | [] => []
  | ⟨_, type, _, _⟩ :: fields => type.nodes ++ fieldNodes fields

/-- The types inside the signatures of methods. -/
def methodNodes : List Method → List GoType
  | [] => []
  | ⟨_, signature⟩ :: methods => signature.nodes ++ methodNodes methods

/-- The types inside the terms of a union. -/
def memberNodes : List UnionMember → List GoType
  | [] => []
  | ⟨_, type⟩ :: members => type.nodes ++ memberNodes members

end

/-- Inside a reference to a declared type are its arguments. -/
theorem nodes_named
    (name package : String) (underlying : Option GoType)
    (parameters : List TypeParameter) (arguments : List GoType) :
    (GoType.named ⟨name, package, underlying, parameters, arguments⟩).nodes =
      .named ⟨name, package, underlying, parameters, arguments⟩ ::
        typeNodes arguments := by
  rw [GoType.nodes, NamedType.argumentNodes]

namespace GoType

/-- The declared types that a type refers to, in order. -/
def references (type : GoType) : List NamedType :=
  type.nodes.filterMap fun
    | .named reference => some reference
    | _ => none

end GoType

end GoUnion
