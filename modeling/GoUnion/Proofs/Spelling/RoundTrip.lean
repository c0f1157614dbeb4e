import GoUnion.Proofs.Spelling.Braces

/-!
# Well-formed types are read back

The text of a well-formed type forms an expression that denotes the type, by one
induction over well-formedness.  A type set is read where one may stand.  The
element of a slice is kept track of along with the slice, since a variadic list
is written with it.
-/

namespace GoUnion

open Lexeme (IsName)
open Reader (Reads)

variable {qualify : Qualifier}

/-! ## Types inside types -/

theorem nodes_subset_typeNodes
    {type : GoType} {types : List GoType} (isIn : type ∈ types) :
    type.nodes ⊆ typeNodes types := by
  induction types with
  | nil => cases isIn
  | cons first types ih =>
      rw [typeNodes]
      rcases List.mem_cons.mp isIn with rfl | later
      · exact List.subset_append_left _ _
      · exact List.Subset.trans (ih later) (List.subset_append_right _ _)

theorem nodes_subset_variableNodes
    {item : Variable} {list : List Variable} (isIn : item ∈ list) :
    item.type.nodes ⊆ variableNodes list := by
  induction list with
  | nil => cases isIn
  | cons first list ih =>
      rcases first with ⟨name, type⟩
      rw [variableNodes]
      rcases List.mem_cons.mp isIn with rfl | later
      · exact List.subset_append_left _ _
      · exact List.Subset.trans (ih later) (List.subset_append_right _ _)

theorem nodes_subset_fieldNodes
    {field : Field} {fields : List Field} (isIn : field ∈ fields) :
    field.type.nodes ⊆ fieldNodes fields := by
  induction fields with
  | nil => cases isIn
  | cons first fields ih =>
      rcases first with ⟨name, type, tag, embedded⟩
      rw [fieldNodes]
      rcases List.mem_cons.mp isIn with rfl | later
      · exact List.subset_append_left _ _
      · exact List.Subset.trans (ih later) (List.subset_append_right _ _)

theorem nodes_subset_methodNodes
    {method : Method} {methods : List Method} (isIn : method ∈ methods) :
    method.signature.nodes ⊆ methodNodes methods := by
  induction methods with
  | nil => cases isIn
  | cons first methods ih =>
      rcases first with ⟨name, signature⟩
      rw [methodNodes]
      rcases List.mem_cons.mp isIn with rfl | later
      · exact List.subset_append_left _ _
      · exact List.Subset.trans (ih later) (List.subset_append_right _ _)

theorem nodes_subset_memberNodes
    {member : UnionMember} {members : List UnionMember}
    (isIn : member ∈ members) :
    member.type.nodes ⊆ memberNodes members := by
  induction members with
  | nil => cases isIn
  | cons first members ih =>
      rcases first with ⟨approximate, type⟩
      rw [memberNodes]
      rcases List.mem_cons.mp isIn with rfl | later
      · exact List.subset_append_left _ _
      · exact List.Subset.trans (ih later) (List.subset_append_right _ _)

/-! ## The induction -/

/-- The text of a type is read back in a place, and so is that of its element if the type is a
slice. -/
structure SpelledBack
    (qualify : Qualifier) (place : TypePlace) (type : GoType) : Prop where
  constraint : FormsConstraint qualify type
  plain : place = .plain → FormsType qualify type
  element : ∀ element, type = .slice element → FormsType qualify element

theorem SpelledBack.ofType
    {place : TypePlace} {type : GoType} (forms : FormsType qualify type)
    (noSlice : ∀ element, type ≠ .slice element) :
    SpelledBack qualify place type where
  constraint := forms.constraint
  plain _ := forms
  element element isSlice := absurd isSlice (noSlice element)

theorem WellFormedSignature.forms
    {parameters results : List Variable} {variadic : Bool}
    (parametersBack : ∀ item ∈ parameters,
      SpelledBack qualify .plain item.type)
    (resultsBack : ∀ item ∈ results, SpelledBack qualify .plain item.type)
    (parametersAgree : NamesAgree parameters)
    (resultsAgree : NamesAgree results)
    (parameterNames : ∀ item ∈ parameters,
      item.name ≠ "" → IsName item.name)
    (resultNames : ∀ item ∈ results, item.name ≠ "" → IsName item.name)
    (spreads : variadic = true → EndsWithSlice parameters) :
    FormsSignature qualify
      ⟨none, [], parameters, results, [], variadic⟩ := by
  refine forms_signature ?_ (fun item isIn =>
    (resultsBack item isIn).plain rfl) parametersAgree resultsAgree
      parameterNames resultNames spreads
  intro item isIn
  rcases mem_written isIn with ⟨origin, inList, -, same | isSlice⟩
  · rw [same]
    exact (parametersBack origin inList).plain rfl
  · exact (parametersBack origin inList).element item.type isSlice

/-- The text of a well-formed type is read back, if the qualifier gives names to packages. -/
theorem WellFormed.spelledBack
    {inside : Bool} {place : TypePlace} {type : GoType}
    (wellFormed : WellFormed inside place type) :
    QualifiesBy qualify type.nodes → SpelledBack qualify place type := by
  refine @WellFormed.rec
    (fun inside place type _ =>
      QualifiesBy qualify type.nodes → SpelledBack qualify place type)
    (fun inside signature _ =>
      QualifiesBy qualify signature.nodes →
        FormsSignature qualify signature)
    ?basic ?named ?pointer ?array ?slice ?map ?channel ?function ?record
    ?interface ?union ?signature inside place type wellFormed
  case basic =>
    intro inside place type _
    exact .ofType (forms_basic type) (by simp)
  case named =>
    intro inside place name package parameters arguments isName _ _ _ _
      applied qualifies
    refine .ofType (forms_named isName ?_ ?_) (by simp)
    · exact qualifies _ List.mem_cons_self
    · intro argument isIn
      refine (applied argument isIn (qualifies.subset ?_)).plain rfl
      rw [nodes_named]
      exact List.Subset.trans (nodes_subset_typeNodes isIn) (List.subset_cons_self _ _)
  case pointer =>
    intro inside place element _ inner qualifies
    rw [GoType.nodes] at qualifies
    exact .ofType (forms_pointer ((inner (qualifies.subset
      (List.subset_cons_self _ _))).plain rfl)) (by simp)
  case array =>
    intro inside place length element _ inner qualifies
    rw [GoType.nodes] at qualifies
    exact .ofType (forms_array length ((inner (qualifies.subset
      (List.subset_cons_self _ _))).plain rfl)) (by simp)
  case slice =>
    intro inside place element _ inner qualifies
    rw [GoType.nodes] at qualifies
    have element' := (inner (qualifies.subset
      (List.subset_cons_self _ _))).plain rfl
    refine ⟨(forms_slice element').constraint,
      fun _ => forms_slice element', ?_⟩
    intro other isSlice
    cases isSlice
    exact element'
  case map =>
    intro inside place key value _ _ innerKey innerValue qualifies
    rw [GoType.nodes] at qualifies
    have later := qualifies.subset (List.subset_cons_self _ _)
    exact .ofType (forms_map
      ((innerKey (later.subset (List.subset_append_left _ _))).plain rfl)
      ((innerValue (later.subset (List.subset_append_right _ _))).plain
        rfl)) (by simp)
  case channel =>
    intro inside place direction element _ inner qualifies
    rw [GoType.nodes] at qualifies
    exact .ofType (forms_channel direction ((inner (qualifies.subset
      (List.subset_cons_self _ _))).plain rfl)) (by simp)
  case function =>
    intro inside place signature _ inner qualifies
    rw [GoType.nodes] at qualifies
    exact .ofType (forms_function (inner (qualifies.subset
      (List.subset_cons_self _ _)))) (by simp)
  case record =>
    intro inside place fields names _ embedded inner qualifies
    rw [GoType.nodes] at qualifies
    refine .ofType (forms_record names ?_ embedded) (by simp)
    intro field isIn
    exact (inner field isIn (qualifies.subset
      (List.Subset.trans (nodes_subset_fieldNodes isIn)
        (List.subset_cons_self _ _)))).plain rfl
  case interface =>
    intro inside place methods embeds names _ _ signatures inner qualifies
    rw [GoType.nodes] at qualifies
    have later := qualifies.subset (List.subset_cons_self _ _)
    refine .ofType (forms_interface names ?_ ?_) (by simp)
    · intro method isIn
      exact signatures method isIn (later.subset
        (List.Subset.trans (nodes_subset_methodNodes isIn)
          (List.subset_append_left _ _)))
    · intro type isIn
      exact (inner type isIn (later.subset
        (List.Subset.trans (nodes_subset_typeNodes isIn)
          (List.subset_append_right _ _)))).constraint
  case union =>
    intro inside members _ proper inner qualifies
    rw [GoType.nodes] at qualifies
    refine ⟨forms_union ?_ proper, by simp, by simp⟩
    intro member isIn
    exact (inner member isIn (qualifies.subset
      (List.Subset.trans (nodes_subset_memberNodes isIn)
        (List.subset_cons_self _ _)))).plain rfl
  case signature =>
    intro inside variadic parameters results _ _ parametersAgree
      resultsAgree parameterNames resultNames spreads innerParameters
      innerResults qualifies
    rw [Signature.nodes, receiverNodes, parameterNodes, List.nil_append,
      List.nil_append, List.nil_append] at qualifies
    refine WellFormedSignature.forms ?_ ?_ parametersAgree resultsAgree
      parameterNames resultNames spreads
    · intro item isIn
      exact innerParameters item isIn (qualifies.subset
        (List.Subset.trans (nodes_subset_variableNodes isIn)
          (List.subset_append_left _ _)))
    · intro item isIn
      exact innerResults item isIn (qualifies.subset
        (List.Subset.trans (nodes_subset_variableNodes isIn)
          (List.subset_append_right _ _)))

end GoUnion
