import GoUnion.Proofs.ImportPlan
import GoUnion.Proofs.NamePlan
import Mathlib.Data.List.Sort

/-!
# Names are chosen role by role

The names of a plan are claimed one after the other, and each is taken from then
on.  Nothing comes of the order.  A name keeps its base behind the underscores
that it is given, and behind its own underscores each base of a plan differs
from all others; so no name that was claimed stands in the way of a later role.

`Beside` is what the claims keep: whatever is taken besides the names at the
start has the stem of a base that was claimed.  A role whose base has another
stem gets the name that it would get from the start, which is its base with the
least number of underscores that keeps it out of them.  The variants enter this
as a set, and so does the text of a record into its imports; the order of the
fields is seen in the getters and setters alone.
-/

namespace GoUnion

/-! ## Least escapes -/

/-- A base with the least number of underscores in front of it that keeps it out of some names. -/
def LeastEscape (taken : List String) (base name : String) : Prop :=
  ∃ count, name = underscored base count ∧ name ∉ taken ∧
    ∀ fewer < count, underscored base fewer ∈ taken

theorem leastEscape_freeName (taken : List String) (base : String) :
    LeastEscape taken base (freeName taken base) :=
  ⟨_, rfl, freeName_not_mem taken base, fun fewer before =>
    mem_of_lt_firstFree (Nat.zero_le fewer) before⟩

/-- There is one least escape. -/
theorem LeastEscape.unique
    {taken : List String} {base first second : String}
    (least : LeastEscape taken base first)
    (least' : LeastEscape taken base second) :
    first = second := by
  rcases least with ⟨count, rfl, isFree, before⟩
  rcases least' with ⟨count', rfl, isFree', before'⟩
  rcases Nat.lt_trichotomy count count' with less | rfl | more
  · exact absurd (before' count less) isFree
  · rfl
  · exact absurd (before count' more) isFree'

/-- Only the candidates for a name matter to its search. -/
theorem freeName_congr
    {taken taken' : List String} {base : String}
    (same : ∀ count,
      underscored base count ∈ taken ↔ underscored base count ∈ taken') :
    freeName taken base = freeName taken' base := by
  rcases leastEscape_freeName taken base with
    ⟨count, shape, isFree, before⟩
  have least : LeastEscape taken' base (freeName taken base) := by
    refine ⟨count, shape, ?_,
      fun fewer less => (same fewer).mp (before fewer less)⟩
    rw [shape] at isFree ⊢
    exact fun isTaken => isFree ((same count).mpr isTaken)
  exact least.unique (leastEscape_freeName taken' base)

/-! ## Stems -/

/-- What stands behind the underscores that a name starts with. -/
def stem (name : String) : List Char :=
  name.toList.dropWhile (· = '_')

@[simp]
theorem stem_underscored (base : String) (count : Nat) :
    stem (underscored base count) = stem base := by
  rw [stem, toList_underscored, stem]
  induction count with
  | zero => rfl
  | succ count ih =>
      rw [List.replicate_succ, List.cons_append,
        List.dropWhile_cons_of_pos (by simp), ih]

@[simp]
theorem stem_freeName (taken : List String) (base : String) :
    stem (freeName taken base) = stem base :=
  stem_underscored base _

/-! ## Names that are taken on the way -/

/-- Besides some names at the start, only names with certain stems are taken. -/
structure Beside
    (start : List String) (stems : List (List Char))
    (taken : List String) : Prop where
  covers : ∀ name ∈ start, name ∈ taken
  only : ∀ name ∈ taken, name ∈ start ∨ stem name ∈ stems

namespace Beside

variable {start taken : List String} {stems : List (List Char)}

theorem refl (start : List String) : Beside start [] start :=
  ⟨fun _ isIn => isIn, fun _ isIn => .inl isIn⟩

/-- A base with another stem gets the name that it gets from the start. -/
theorem freeName_eq
    (beside : Beside start stems taken) (base : String)
    (isNew : stem base ∉ stems) :
    freeName taken base = freeName start base := by
  apply freeName_congr
  intro count
  refine ⟨fun isTaken => ?_, beside.covers _⟩
  rcases beside.only _ isTaken with isStart | isStem
  · exact isStart
  · rw [stem_underscored] at isStem
    exact absurd isStem isNew

theorem cons
    (beside : Beside start stems taken) (base : String) :
    Beside start (stem base :: stems) (freeName taken base :: taken) where
  covers name isStart := List.mem_cons_of_mem _ (beside.covers name isStart)
  only name isIn := by
    rcases List.mem_cons.mp isIn with rfl | isTaken
    · exact .inr (by simp)
    · exact (beside.only name isTaken).imp_right (List.mem_cons_of_mem _)

theorem weaken
    (beside : Beside start stems taken) {stems' : List (List Char)}
    (more : stems ⊆ stems') :
    Beside start stems' taken where
  covers := beside.covers
  only name isTaken := (beside.only name isTaken).imp_right (@more _)

/-- The name for an optional base. -/
theorem freeName?_eq
    (beside : Beside start stems taken) (wanted : Bool) (base : String)
    (isNew : stem base ∉ stems) :
    (freeName? taken wanted base).1 =
      if wanted then some (freeName start base) else none := by
  cases wanted with
  | false => rfl
  | true => exact congrArg some (beside.freeName_eq base isNew)

theorem freeName?
    (beside : Beside start stems taken) (wanted : Bool) (base : String) :
    Beside start (stem base :: stems)
      (freeName? taken wanted base).2 := by
  cases wanted with
  | false => exact beside.weaken (List.subset_cons_self _ _)
  | true => exact beside.cons base

/-- Bases with stems of their own get the names that they get from the start. -/
theorem freeNames_eq
    (beside : Beside start stems taken) {bases : List String}
    (areNew : ∀ base ∈ bases, stem base ∉ stems)
    (distinct : (bases.map stem).Nodup) :
    (freeNames taken bases).1 = bases.map (freeName start) := by
  induction bases generalizing taken stems with
  | nil => rfl
  | cons base bases ih =>
      rcases List.forall_mem_cons.mp areNew with ⟨isNew, areNew⟩
      rw [List.map_cons, List.nodup_cons] at distinct
      have later : ∀ other ∈ bases, stem other ∉ stem base :: stems := by
        intro other isBase isStem
        rcases List.mem_cons.mp isStem with same | isOld
        · exact distinct.1 (same ▸ List.mem_map_of_mem isBase)
        · exact areNew other isBase isOld
      rw [freeNames, List.map_cons, ← beside.freeName_eq base isNew]
      exact congrArg _ (ih (beside.cons base) later distinct.2)

theorem freeNames
    (beside : Beside start stems taken) (bases : List String) :
    Beside start (bases.map stem ++ stems) (freeNames taken bases).2 := by
  induction bases generalizing taken stems with
  | nil => exact beside
  | cons base bases ih =>
      refine (ih (beside.cons base)).weaken ?_
      intro other isIn
      simp only [List.mem_append, List.mem_cons, List.map_cons] at isIn ⊢
      tauto

end Beside

/-! ## Plans -/

/-- Nothing is taken off a name that does not start with an underscore. -/
theorem stem_of_solid
    {name : String} {c : Char} {tail : List Char}
    (shape : name.toList = c :: tail) (isSolid : c ≠ '_') :
    stem name = name.toList := by
  rw [stem, shape, List.dropWhile_cons_of_neg (by simpa using isSolid)]

/-- An unreserved variant gives its name to its handler. -/
theorem Handles.own_names
    {reserved taken variants names : List String}
    (run : Handles reserved taken variants names) :
    List.Forall₂ (fun variant name => variant ∉ reserved → name = variant)
      variants names := by
  induction run with
  | nil => exact .nil
  | own _ _ ih => exact .cons (fun _ => rfl) ih
  | claimed isReserved _ _ ih =>
      exact .cons (fun unreserved => absurd isReserved unreserved) ih

attribute [ext] NamePlan

namespace NamePlan

/-- The bases of a role that each variant has, if it is wanted. -/
def variantBases
    (front : String) (wanted : Bool) (variants : List String) :
    List String :=
  if wanted then variants.map (front ++ ·) else []

/-- The plan in which every role gets the name that it would get alone. -/
def byRole
    (variants : List String) (features : Features)
    (reserved : List String) : NamePlan :=
  let member := freeName variants
  let optional (wanted : Bool) (base : String) :=
    if wanted then some (member base) else none
  let scope := freeName (variants ++ reserved)
  { discriminant := member "_variant"
    inner := member "_inner"
    invalid := optional (!features.defaulting) "Invalid"
    variantMethod := member "Variant"
    valueMethod := optional features.publicValue "Value"
    matchMethod := optional features.matching "Match"
    getters := (variantBases "Get_" features.getters variants).map member
    setters := (variantBases "Set_" features.setters variants).map member
    handlers :=
      handlerNames reserved
        ((scopeBases.map scope).reverse ++ (variants ++ reserved)) variants
    receiver := scope "u"
    valueParameter := scope "value"
    zero := scope "zero"
    invalidHandler := scope "invalid" }

section VariantBases

variable (front : String) {c : Char} {tail : List Char}
  (shape : front.toList = c :: tail) (isSolid : c ≠ '_')

include shape isSolid

theorem stem_append (name : String) :
    stem (front ++ name) = c :: (tail ++ name.toList) := by
  have shape' : (front ++ name).toList = c :: (tail ++ name.toList) := by
    rw [String.toList_append, shape, List.cons_append]
  exact (stem_of_solid shape' isSolid).trans shape'

theorem head?_stem_variantBases (wanted : Bool) (variants : List String) :
    ∀ base ∈ variantBases front wanted variants,
      (stem base).head? = some c := by
  intro base isBase
  rw [variantBases] at isBase
  split at isBase
  case isTrue =>
    rcases List.mem_map.mp isBase with ⟨variant, -, rfl⟩
    rw [stem_append front shape isSolid]
    rfl
  case isFalse => cases isBase

/-- Distinct variants have bases with distinct stems. -/
theorem nodup_stem_variantBases
    {variants : List String} (distinct : variants.Nodup) (wanted : Bool) :
    ((variantBases front wanted variants).map stem).Nodup := by
  cases wanted with
  | false => exact List.nodup_nil
  | true =>
      rw [variantBases, if_pos rfl, List.map_map]
      refine distinct.map fun variant other same => ?_
      simp only [Function.comp_apply, stem_append front shape isSolid,
        List.cons.injEq, List.append_cancel_left_eq, true_and] at same
      exact String.toList_inj.mp same

/-- The bases of the variants behind stems with other first characters. -/
theorem freeNames_variantBases
    {start taken variants : List String} {stems : List (List Char)}
    (beside : Beside start stems taken) (distinct : variants.Nodup)
    (wanted : Bool) (heads : ∀ stem ∈ stems, stem.head? ≠ some c) :
    (freeNames taken (variantBases front wanted variants)).1 =
      (variantBases front wanted variants).map (freeName start) := by
  refine beside.freeNames_eq ?_
    (nodup_stem_variantBases front shape isSolid distinct wanted)
  exact fun base isBase isOld => heads _ isOld
    (head?_stem_variantBases front shape isSolid wanted variants base isBase)

end VariantBases

/-- Each role of the resolved plan gets the name that it would get alone. -/
theorem resolve_eq_byRole
    {variants : List String} (distinct : variants.Nodup)
    (features : Features) (reserved : List String) :
    resolve variants features reserved =
      byRole variants features reserved := by
  have atInner := (Beside.refl variants).cons "_variant"
  have atInvalid := atInner.cons "_inner"
  have atVariant := atInvalid.freeName? (!features.defaulting) "Invalid"
  have atValue := atVariant.cons "Variant"
  have atMatch := atValue.freeName? features.publicValue "Value"
  have atGetters := atMatch.freeName? features.matching "Match"
  have atSetters := atGetters.freeNames
    (variantBases "Get_" features.getters variants)
  have atParameter := (Beside.refl (variants ++ reserved)).cons "u"
  have atZero := atParameter.cons "value"
  have atHandler := atZero.cons "zero"
  let plan := resolve variants features reserved
  let scope := freeName (variants ++ reserved)
  have parameter : plan.valueParameter = scope "value" :=
    atParameter.freeName_eq "value" (by decide)
  have zero : plan.zero = scope "zero" :=
    atZero.freeName_eq "zero" (by decide)
  have handler : plan.invalidHandler = scope "invalid" :=
    atHandler.freeName_eq "invalid" (by decide)
  apply NamePlan.ext
  case discriminant => rfl
  case inner => exact atInner.freeName_eq "_inner" (by decide)
  case invalid => exact atInvalid.freeName?_eq _ "Invalid" (by decide)
  case variantMethod => exact atVariant.freeName_eq "Variant" (by decide)
  case valueMethod => exact atValue.freeName?_eq _ "Value" (by decide)
  case matchMethod => exact atMatch.freeName?_eq _ "Match" (by decide)
  case getters =>
    exact freeNames_variantBases "Get_" rfl (by decide) atGetters distinct
      _ (by decide)
  case setters =>
    refine freeNames_variantBases "Set_" rfl (by decide) atSetters distinct
      _ (List.forall_mem_append.mpr ⟨?_, by decide⟩)
    rw [List.forall_mem_map]
    intro base isBase
    rw [head?_stem_variantBases "Get_" rfl (by decide) _ _ base isBase]
    decide
  case handlers =>
    have names : plan.scopeNames = scopeBases.map scope := by
      rw [scopeNames, parameter, zero, handler]
      rfl
    have handled : plan.handlers = handlerNames reserved
        (plan.scopeNames.reverse ++ (variants ++ reserved)) variants :=
      rfl
    exact handled.trans (by rw [names]; rfl)
  case receiver => rfl
  case valueParameter => exact parameter
  case zero => exact zero
  case invalidHandler => exact handler

/-- The name of a role that a plan may be without. -/
def OptionalEscape
    (taken : List String) (wanted : Bool) (base : String) :
    Option String → Prop
  | none => wanted = false
  | some name => wanted = true ∧ LeastEscape taken base name

/-- What every name of a plan is by itself: the least escape of the base of its role from the
variants, and a local name from the reserved names too.  A handler is named after its variant
where that name is not reserved. -/
structure ChosenByRole
    (variants : List String) (features : Features)
    (reserved : List String) (plan : NamePlan) : Prop where
  discriminant : LeastEscape variants "_variant" plan.discriminant
  inner : LeastEscape variants "_inner" plan.inner
  invalid :
    OptionalEscape variants (!features.defaulting) "Invalid" plan.invalid
  variantMethod : LeastEscape variants "Variant" plan.variantMethod
  valueMethod :
    OptionalEscape variants features.publicValue "Value" plan.valueMethod
  matchMethod :
    OptionalEscape variants features.matching "Match" plan.matchMethod
  getters : List.Forall₂ (LeastEscape variants)
    (variantBases "Get_" features.getters variants) plan.getters
  setters : List.Forall₂ (LeastEscape variants)
    (variantBases "Set_" features.setters variants) plan.setters
  receiver : LeastEscape (variants ++ reserved) "u" plan.receiver
  valueParameter :
    LeastEscape (variants ++ reserved) "value" plan.valueParameter
  zero : LeastEscape (variants ++ reserved) "zero" plan.zero
  invalidHandler :
    LeastEscape (variants ++ reserved) "invalid" plan.invalidHandler
  handlers : List.Forall₂
    (fun variant handler => variant ∉ reserved → handler = variant)
    variants plan.handlers

theorem optionalEscape_freeName
    (taken : List String) (wanted : Bool) (base : String) :
    OptionalEscape taken wanted base
      (if wanted then some (freeName taken base) else none) := by
  cases wanted with
  | false => rfl
  | true => exact ⟨rfl, leastEscape_freeName taken base⟩

theorem leastEscapes_map (taken bases : List String) :
    List.Forall₂ (LeastEscape taken) bases
      (bases.map (freeName taken)) := by
  rw [List.forall₂_map_right_iff, List.forall₂_same]
  exact fun base _ => leastEscape_freeName taken base

theorem chosenByRole_byRole
    (variants : List String) (features : Features)
    (reserved : List String) :
    ChosenByRole variants features reserved
      (byRole variants features reserved) where
  discriminant := leastEscape_freeName ..
  inner := leastEscape_freeName ..
  invalid := optionalEscape_freeName ..
  variantMethod := leastEscape_freeName ..
  valueMethod := optionalEscape_freeName ..
  matchMethod := optionalEscape_freeName ..
  getters := leastEscapes_map ..
  setters := leastEscapes_map ..
  receiver := leastEscape_freeName ..
  valueParameter := leastEscape_freeName ..
  zero := leastEscape_freeName ..
  invalidHandler := leastEscape_freeName ..
  handlers := (handles_handlerNames ..).own_names

/-! ## Another order of the variants -/

/-- The variants that are not reserved, with their handlers. -/
def unreservedHandlers
    (reserved variants handlers : List String) : List (String × String) :=
  (variants.zip handlers).filter fun entry => entry.1 ∉ reserved

/-- A plan for the variants in another order: the getters and setters go with their variants, and
all names but those that a variant has are the same.  The handler of a variant that is not reserved
goes with the variant too.  The handlers of reserved variants are escaped from each other, so they
may be others in another order. -/
structure Reordered
    (reserved variants : List String) (plan : NamePlan)
    (variants' : List String) (plan' : NamePlan) : Prop where
  getters :
    (variants.zip plan.getters).Perm (variants'.zip plan'.getters)
  setters :
    (variants.zip plan.setters).Perm (variants'.zip plan'.setters)
  handlers :
    (unreservedHandlers reserved variants plan.handlers).Perm
      (unreservedHandlers reserved variants' plan'.handlers)
  others : plan' =
    { plan with
      getters := plan'.getters
      setters := plan'.setters
      handlers := plan'.handlers }

theorem freeName_perm
    {taken taken' : List String} (perm : taken.Perm taken') :
    freeName taken = freeName taken' :=
  funext fun _ => freeName_congr fun _ => perm.mem_iff

theorem zip_variantBases
    (front : String) (wanted : Bool) (variants : List String)
    (name : String → String) :
    variants.zip ((variantBases front wanted variants).map name) =
      if wanted then
        variants.map fun variant => (variant, name (front ++ variant))
      else [] := by
  cases wanted with
  | false => exact List.zip_nil_right
  | true =>
      rw [variantBases, if_pos rfl, if_pos rfl, List.map_map]
      exact List.map_prod_left_eq_zip.symm

/-- A variant that is not reserved is its own handler. -/
theorem unreservedHandlers_eq
    {reserved variants handlers : List String}
    (named : List.Forall₂
      (fun variant handler => variant ∉ reserved → handler = variant)
      variants handlers) :
    unreservedHandlers reserved variants handlers =
      (variants.filter (· ∉ reserved)).map fun variant =>
        (variant, variant) := by
  induction named with
  | nil => rfl
  | @cons variant handler variants handlers isName _ ih =>
      rw [unreservedHandlers] at ih
      rw [unreservedHandlers, List.zip_cons_cons, List.filter_cons,
        List.filter_cons, ih]
      by_cases isReserved : variant ∈ reserved
      · simp [isReserved]
      · simp [isReserved, isName isReserved]

theorem byRole_reordered
    {variants variants' : List String} (perm : variants.Perm variants')
    (features : Features) (reserved : List String) :
    Reordered reserved variants (byRole variants features reserved)
      variants' (byRole variants' features reserved) := by
  have members := freeName_perm perm
  have scope := freeName_perm (perm.append_right reserved)
  have paired (front : String) (wanted : Bool) :
      (variants.zip ((variantBases front wanted variants).map
          (freeName variants))).Perm
        (variants'.zip ((variantBases front wanted variants').map
          (freeName variants'))) := by
    rw [zip_variantBases, zip_variantBases, members]
    split
    · exact perm.map _
    · exact .refl _
  refine ⟨paired "Get_" _, paired "Set_" _, ?_, ?_⟩
  · rw [unreservedHandlers_eq (chosenByRole_byRole ..).handlers,
      unreservedHandlers_eq (chosenByRole_byRole ..).handlers]
    exact (perm.filter _).map _
  · simp only [byRole, members, scope]

end NamePlan

/-! ## Another order of the fields -/

/-- An ascending list is given by its members. -/
theorem ordered_congr
    {texts texts' : List String}
    (same : ∀ text, text ∈ texts ↔ text ∈ texts') :
    ordered texts = ordered texts' := by
  have ascending := ascending_ordered texts
  have ascending' := ascending_ordered texts'
  have perm : (ordered texts).Perm (ordered texts') := by
    refine (List.perm_ext_iff_of_nodup (ascending.imp ne_of_lt)
      (ascending'.imp ne_of_lt)).mpr fun text => ?_
    rw [mem_ordered, mem_ordered, same]
  refine perm.eq_of_pairwise ?_ ascending ascending'
  exact fun _ _ _ _ less more => absurd more (lt_asymm less)

namespace UnionDescriptor

variable {descriptor : UnionDescriptor} {fields : List Field}

theorem types_perm (perm : descriptor.variants.Perm fields) :
    descriptor.types.Perm { descriptor with variants := fields }.types :=
  (perm.map _).append_left _

theorem references_perm (perm : descriptor.variants.Perm fields) :
    descriptor.references.Perm
      { descriptor with variants := fields }.references :=
  (types_perm perm).flatMap_right _

theorem nodes_perm (perm : descriptor.variants.Perm fields) :
    descriptor.nodes.Perm { descriptor with variants := fields }.nodes :=
  (types_perm perm).flatMap_right _

/-- The imports are planned alike for the fields in any order. -/
theorem planned_reordered
    (perm : descriptor.variants.Perm fields) (destination : String) :
    ImportPlan.planned { descriptor with variants := fields } destination =
      ImportPlan.planned descriptor destination := by
  have paths :
      { descriptor with variants := fields }.paths destination =
        descriptor.paths destination :=
    ordered_congr fun _ => ((nodes_perm perm).flatMap_right _).symm.mem_iff
  have bare :
      { descriptor with variants := fields }.bare destination =
        descriptor.bare destination :=
    ordered_congr fun _ => (((nodes_perm perm).flatMap_right
      _).append_right _).symm.mem_iff
  rw [ImportPlan.planned, paths, bare]
  rfl

/-- The imports that are collected do not depend on the order of the fields. -/
theorem collect_reordered
    (perm : descriptor.variants.Perm fields) (destination : String) :
    (ImportPlan.collect { descriptor with variants := fields }
        destination).toOption =
      (ImportPlan.collect descriptor destination).toOption := by
  have references {reference : NamedType} :
      reference ∈ descriptor.references ↔
        reference ∈ { descriptor with variants := fields }.references :=
    (references_perm perm).mem_iff
  rcases ImportPlan.collect_cases descriptor destination with
    ⟨exported, made⟩ | ⟨⟨reference, isReference, isHidden⟩, error, fails⟩
  · rcases ImportPlan.collect_cases { descriptor with variants := fields }
      destination with
      ⟨-, made'⟩ | ⟨⟨reference, isReference, foreign, isHidden⟩, -⟩
    · rw [made, made', planned_reordered perm]
    · have isExported := exported reference (references.mpr isReference)
        foreign
      cases isHidden.symm.trans isExported
  · rcases ImportPlan.collect_eq_error_iff.mpr
      ⟨reference, references.mp isReference, isHidden⟩ with
      ⟨error', fails'⟩
    rw [fails, fails']
    rfl

end UnionDescriptor

/-! ## Stable names -/

namespace NamePlan

/--
Names are stable.  For distinct variants every name of the plan is the least
escape of the base of its role, whatever the other roles are.  So another order
of the variants moves the getters and setters along with them, and the handlers
of those that are not reserved, and leaves all other roles as they are; and
another order of the fields of a record leaves its imports with their local
names as they are, or there are none in both.
-/
theorem resolve_chosenByRole
    (variants : List String) (features : Features) (reserved : List String)
    (distinct : variants.Nodup) :
    ChosenByRole variants features reserved
        (resolve variants features reserved) ∧
      (∀ variants', variants.Perm variants' →
        Reordered reserved variants (resolve variants features reserved)
          variants' (resolve variants' features reserved)) ∧
      ∀ (descriptor : UnionDescriptor) (fields : List Field),
        descriptor.variants.Perm fields → ∀ destination,
          (ImportPlan.collect { descriptor with variants := fields }
              destination).toOption =
            (ImportPlan.collect descriptor destination).toOption := by
  refine ⟨?_, fun variants' perm => ?_, fun descriptor fields perm =>
    UnionDescriptor.collect_reordered perm⟩
  · rw [resolve_eq_byRole distinct]
    exact chosenByRole_byRole variants features reserved
  · rw [resolve_eq_byRole distinct,
      resolve_eq_byRole (perm.nodup_iff.mp distinct)]
    exact byRole_reordered perm features reserved

/-- Variants that look like escaped names of other roles, with one of them reserved. -/
theorem resolve_chosenByRole_lookalikes :
    let variants := ["Get_a", "a", "_variant", "u", "_u"]
    let variants' := ["u", "a", "_u", "Get_a", "_variant"]
    let plan := resolve variants .standard ["u", "value"]
    let plan' := resolve variants' .standard ["u", "value"]
    variants.Nodup ∧ variants.Perm variants' ∧
      ChosenByRole variants .standard ["u", "value"] plan ∧
        Reordered ["u", "value"] variants plan variants' plan' ∧
          plan.discriminant = "__variant" ∧ plan.receiver = "__u" ∧
            plan.getters =
              ["Get_Get_a", "_Get_a", "Get__variant", "Get_u",
                "Get__u"] := by
  intro variants variants' plan plan'
  have distinct : variants.Nodup := by decide
  have perm : variants.Perm variants' := by decide
  rcases resolve_chosenByRole variants .standard ["u", "value"] distinct with
    ⟨chosen, reordered, -⟩
  exact ⟨distinct, perm, chosen, reordered variants' perm, by decide +kernel,
    by decide +kernel, by decide +kernel⟩

end NamePlan

end GoUnion
