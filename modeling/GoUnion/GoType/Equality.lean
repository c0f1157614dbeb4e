import GoUnion.GoType

/-!
# Equality of types

Two types are the same when they have the same shape and the same names
throughout.  The comparison goes through both types at once.
-/

namespace GoUnion

mutual

/-- Whether two types are the same. -/
def GoType.same : GoType → GoType → Bool
  | .basic a, .basic b => a = b
  | .named a, .named b => a.same b
  | .pointer a, .pointer b => a.same b
  | .array m a, .array n b => m = n && a.same b
  | .slice a, .slice b => a.same b
  | .map j a, .map k b => j.same k && a.same b
  | .channel d a, .channel e b => d = e && a.same b
  | .function a, .function b => a.same b
  | .record a, .record b => sameFields a b
  | .interface m a, .interface n b => sameMethods m n && sameTypes a b
  | .union a, .union b => sameMembers a b
  | _, _ => false

/-- Whether two declared types are the same. -/
def NamedType.same : NamedType → NamedType → Bool
  | ⟨name, package, underlying, parameters, arguments⟩,
    ⟨name', package', underlying', parameters', arguments'⟩ =>
    name = name' && package = package' && sameOption underlying underlying' &&
      sameParameters parameters parameters' && sameTypes arguments arguments'

/-- Whether two function types are the same. -/
def Signature.same : Signature → Signature → Bool
  | ⟨receiver, receiverParameters, parameters, results, typeParameters, variadic⟩,
    ⟨receiver', receiverParameters', parameters', results', typeParameters', variadic'⟩ =>
    sameReceiver receiver receiver' && sameParameters receiverParameters receiverParameters' &&
      sameVariables parameters parameters' && sameVariables results results' &&
      sameParameters typeParameters typeParameters' && variadic = variadic'

/-- Whether two variables are the same. -/
def Variable.same : Variable → Variable → Bool
  | ⟨name, type⟩, ⟨name', type'⟩ => name = name' && type.same type'

/-- Whether two optional types are the same. -/
def sameOption : Option GoType → Option GoType → Bool
  | none, none => true
  | some a, some b => a.same b
  | _, _ => false

/-- Whether two optional receivers are the same. -/
def sameReceiver : Option Variable → Option Variable → Bool
  | none, none => true
  | some a, some b => a.same b
  | _, _ => false

/-- Whether two lists of types are the same. -/
def sameTypes : List GoType → List GoType → Bool
  | [], [] => true
  | a :: as, b :: bs => a.same b && sameTypes as bs
  | _, _ => false

/-- Whether two lists of type parameters are the same. -/
def sameParameters : List TypeParameter → List TypeParameter → Bool
  | [], [] => true
  | ⟨name, constraint⟩ :: as, ⟨name', constraint'⟩ :: bs =>
    name = name' && constraint.same constraint' && sameParameters as bs
  | _, _ => false

/-- Whether two lists of variables are the same. -/
def sameVariables : List Variable → List Variable → Bool
  | [], [] => true
  | a :: as, b :: bs => a.same b && sameVariables as bs
  | _, _ => false

/-- Whether two lists of fields are the same. -/
def sameFields : List Field → List Field → Bool
  | [], [] => true
  | ⟨name, type, tag, embedded⟩ :: as, ⟨name', type', tag', embedded'⟩ :: bs =>
    name = name' && type.same type' && tag = tag' && embedded = embedded' && sameFields as bs
  | _, _ => false

/-- Whether two lists of methods are the same. -/
def sameMethods : List Method → List Method → Bool
  | [], [] => true
  | ⟨name, signature⟩ :: as, ⟨name', signature'⟩ :: bs =>
    name = name' && signature.same signature' && sameMethods as bs
  | _, _ => false

/-- Whether two lists of union terms are the same. -/
def sameMembers : List UnionMember → List UnionMember → Bool
  | [], [] => true
  | ⟨approximate, type⟩ :: as, ⟨approximate', type'⟩ :: bs =>
    approximate = approximate' && type.same type' && sameMembers as bs
  | _, _ => false

end

end GoUnion
