import GoUnion.Proofs.Reload

/-!
# Equality of syntax trees

Type expressions are compared constructor by constructor, and the parts of them
one by one.  So the equality of source files is decided, and what a text is
parsed to can be compared with another file by evaluation.
-/

namespace GoUnion

mutual

/-- Whether two type expressions are the same. -/
def TypeExpr.same : TypeExpr → TypeExpr → Bool
  | .name span qualifier identifier arguments,
    .name span' qualifier' identifier' arguments' =>
    span = span' && qualifier = qualifier' && identifier = identifier' &&
      sameTypeExprs arguments arguments'
  | .pointer span element, .pointer span' element' =>
    span = span' && element.same element'
  | .array span length element, .array span' length' element' =>
    span = span' && length = length' && element.same element'
  | .slice span element, .slice span' element' =>
    span = span' && element.same element'
  | .map span key value, .map span' key' value' =>
    span = span' && key.same key' && value.same value'
  | .channel span direction element, .channel span' direction' element' =>
    span = span' && direction = direction' && element.same element'
  | .function span type, .function span' type' =>
    span = span' && type.same type'
  | .record span fields, .record span' fields' =>
    span = span' && sameFieldExprs fields fields'
  | .interface span members, .interface span' members' =>
    span = span' && sameMemberExprs members members'
  | .union span terms, .union span' terms' =>
    span = span' && sameTermExprs terms terms'
  | _, _ => false

/-- Whether some type expressions are the same, one by one. -/
def sameTypeExprs : List TypeExpr → List TypeExpr → Bool
  | [], [] => true
  | type :: types, type' :: types' =>
    type.same type' && sameTypeExprs types types'
  | _, _ => false

/-- Whether two types of functions are the same. -/
def FunctionExpr.same : FunctionExpr → FunctionExpr → Bool
  | ⟨parameters, results, variadic⟩, ⟨parameters', results', variadic'⟩ =>
    sameParameterExprs parameters parameters' &&
      sameParameterExprs results results' && variadic = variadic'

/-- Whether parameters or results are the same, one by one. -/
def sameParameterExprs : List ParameterExpr → List ParameterExpr → Bool
  | [], [] => true
  | ⟨identifier, type⟩ :: rest, ⟨identifier', type'⟩ :: rest' =>
    identifier = identifier' && type.same type' && sameParameterExprs rest rest'
  | _, _ => false

/-- Whether the fields of structs are the same, one by one. -/
def sameFieldExprs : List FieldExpr → List FieldExpr → Bool
  | [], [] => true
  | ⟨identifier, type, tag, embedded⟩ :: fields,
    ⟨identifier', type', tag', embedded'⟩ :: fields' =>
    identifier = identifier' && type.same type' && tag = tag' &&
      embedded = embedded' && sameFieldExprs fields fields'
  | _, _ => false

/-- Whether the elements of interfaces are the same, one by one. -/
def sameMemberExprs : List MemberExpr → List MemberExpr → Bool
  | [], [] => true
  | .method identifier type :: members,
    .method identifier' type' :: members' =>
    identifier = identifier' && type.same type' &&
      sameMemberExprs members members'
  | .embed type :: members, .embed type' :: members' =>
    type.same type' && sameMemberExprs members members'
  | _, _ => false

/-- Whether the terms of unions are the same, one by one. -/
def sameTermExprs : List TermExpr → List TermExpr → Bool
  | [], [] => true
  | ⟨approximate, type⟩ :: terms, ⟨approximate', type'⟩ :: terms' =>
    approximate = approximate' && type.same type' && sameTermExprs terms terms'
  | _, _ => false

end

mutual

theorem TypeExpr.same_iff : ∀ type type' : TypeExpr,
    type.same type' = true ↔ type = type'
  | .name _ _ _ arguments, other => by
      cases other <;>
        simp [TypeExpr.same, sameTypeExprs_iff arguments, and_assoc]
  | .pointer _ element, other | .slice _ element, other => by
      cases other <;> simp [TypeExpr.same, element.same_iff]
  | .array _ _ element, other | .channel _ _ element, other => by
      cases other <;> simp [TypeExpr.same, element.same_iff, and_assoc]
  | .map _ key value, other => by
      cases other <;>
        simp [TypeExpr.same, key.same_iff, value.same_iff, and_assoc]
  | .function _ type, other => by
      cases other <;> simp [TypeExpr.same, type.same_iff]
  | .record _ fields, other => by
      cases other <;> simp [TypeExpr.same, sameFieldExprs_iff fields]
  | .interface _ members, other => by
      cases other <;> simp [TypeExpr.same, sameMemberExprs_iff members]
  | .union _ terms, other => by
      cases other <;> simp [TypeExpr.same, sameTermExprs_iff terms]

theorem sameTypeExprs_iff : ∀ types types' : List TypeExpr,
    sameTypeExprs types types' = true ↔ types = types'
  | [], other => by cases other <;> simp [sameTypeExprs]
  | type :: types, other => by
      cases other <;>
        simp [sameTypeExprs, type.same_iff, sameTypeExprs_iff types]

theorem FunctionExpr.same_iff : ∀ type type' : FunctionExpr,
    type.same type' = true ↔ type = type'
  | ⟨parameters, results, _⟩, ⟨_, _, _⟩ => by
      simp [FunctionExpr.same, sameParameterExprs_iff parameters,
        sameParameterExprs_iff results, and_assoc]

theorem sameParameterExprs_iff : ∀ list list' : List ParameterExpr,
    sameParameterExprs list list' = true ↔ list = list'
  | [], other => by cases other <;> simp [sameParameterExprs]
  | ⟨_, _⟩ :: _, [] => by simp [sameParameterExprs]
  | ⟨_, type⟩ :: rest, ⟨_, _⟩ :: _ => by
      simp [sameParameterExprs, type.same_iff, sameParameterExprs_iff rest]

theorem sameFieldExprs_iff : ∀ fields fields' : List FieldExpr,
    sameFieldExprs fields fields' = true ↔ fields = fields'
  | [], other => by cases other <;> simp [sameFieldExprs]
  | ⟨_, _, _, _⟩ :: _, [] => by simp [sameFieldExprs]
  | ⟨_, type, _, _⟩ :: fields, ⟨_, _, _, _⟩ :: _ => by
      simp [sameFieldExprs, type.same_iff, sameFieldExprs_iff fields,
        and_assoc]

theorem sameMemberExprs_iff : ∀ members members' : List MemberExpr,
    sameMemberExprs members members' = true ↔ members = members'
  | [], other => by cases other <;> simp [sameMemberExprs]
  | .method _ _ :: _, [] | .embed _ :: _, [] => by simp [sameMemberExprs]
  | .method _ _ :: _, .embed _ :: _ | .embed _ :: _, .method _ _ :: _ => by
      simp [sameMemberExprs]
  | .method _ type :: members, .method _ _ :: _ => by
      simp [sameMemberExprs, type.same_iff, sameMemberExprs_iff members]
  | .embed type :: members, .embed _ :: _ => by
      simp [sameMemberExprs, type.same_iff, sameMemberExprs_iff members]

theorem sameTermExprs_iff : ∀ terms terms' : List TermExpr,
    sameTermExprs terms terms' = true ↔ terms = terms'
  | [], other => by cases other <;> simp [sameTermExprs]
  | ⟨_, _⟩ :: _, [] => by simp [sameTermExprs]
  | ⟨_, type⟩ :: terms, ⟨_, _⟩ :: _ => by
      simp [sameTermExprs, type.same_iff, sameTermExprs_iff terms]

end

instance : DecidableEq TypeExpr :=
  fun type type' => decidable_of_iff _ (type.same_iff type')

deriving instance DecidableEq for TypeParameterExpr

deriving instance DecidableEq for TypeDeclaration

deriving instance DecidableEq for SourceFile

end GoUnion
