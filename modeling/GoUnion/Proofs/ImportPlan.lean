import GoUnion.Proofs.FreeName
import GoUnion.Proofs.Scoping
import GoUnion.Union.ImportPlan
import Mathlib.Data.List.Nodup
import Mathlib.Data.String.Basic

/-!
# Plans of imports

What a plan of imports holds.  The paths are those of the foreign references and
of `unsafe`, in ascending order and each once.  Every path gets a local name of
its own that is none of the identifiers written without a qualifier; only
`unsafe` keeps its name.  No plan is made exactly if a foreign reference is not
exported.
-/

namespace GoUnion

/-! ## Ascending lists -/

theorem mem_insertOrdered {text other : String} {texts : List String} :
    other ∈ insertOrdered text texts ↔ other = text ∨ other ∈ texts := by
  induction texts with
  | nil => simp [insertOrdered]
  | cons first texts ih =>
      rw [insertOrdered]
      split
      case isTrue same =>
        subst same
        simp
      case isFalse =>
        split
        case isTrue => rw [List.mem_cons]
        case isFalse =>
          rw [List.mem_cons, ih, List.mem_cons]
          exact or_left_comm

@[simp]
theorem mem_ordered {text : String} {texts : List String} :
    text ∈ ordered texts ↔ text ∈ texts := by
  induction texts with
  | nil => rfl
  | cons first texts ih => rw [ordered, mem_insertOrdered, ih, List.mem_cons]

theorem ascending_insertOrdered
    {text : String} {texts : List String}
    (ascending : texts.Pairwise (· < ·)) :
    (insertOrdered text texts).Pairwise (· < ·) := by
  induction texts with
  | nil => simp [insertOrdered]
  | cons first texts ih =>
      rcases List.pairwise_cons.mp ascending with ⟨below, later⟩
      rw [insertOrdered]
      split
      case isTrue => exact ascending
      case isFalse different =>
        split
        case isTrue before =>
          refine List.pairwise_cons.mpr ⟨?_, ascending⟩
          intro other isIn
          rcases List.mem_cons.mp isIn with rfl | inLater
          · exact before
          · exact before.trans (below other inLater)
        case isFalse notBefore =>
          refine List.pairwise_cons.mpr ⟨?_, ih later⟩
          intro other isIn
          rcases mem_insertOrdered.mp isIn with rfl | inLater
          · exact lt_of_le_of_ne (not_lt.mp notBefore) (Ne.symm different)
          · exact below other inLater

theorem ascending_ordered (texts : List String) :
    (ordered texts).Pairwise (· < ·) := by
  induction texts with
  | nil => exact .nil
  | cons text texts ih => exact ascending_insertOrdered ih

/-! ## Numbered names -/

theorem toList_numbered_succ (base : String) (index : Nat) :
    (numbered base (index + 1)).toList =
      base.toList ++ Nat.toDigits 10 (index + 2) := by
  rw [numbered, String.toList_append, Nat.toString_eq_repr,
    Nat.toList_repr]

theorem numbered_succ_ne (base : String) (index : Nat) :
    numbered base (index + 1) ≠ numbered base 0 := by
  intro same
  have chars := congrArg String.toList same
  rw [toList_numbered_succ, numbered, List.append_right_eq_self] at chars
  exact Nat.toDigits_ne_nil chars

theorem numbered_injective (base : String) :
    Function.Injective (numbered base) := by
  intro first second same
  cases first with
  | zero =>
      cases second with
      | zero => rfl
      | succ second => exact absurd same.symm (numbered_succ_ne base second)
  | succ first =>
      cases second with
      | zero => exact absurd same (numbered_succ_ne base first)
      | succ second =>
          have chars := congrArg String.toList same
          rw [toList_numbered_succ, toList_numbered_succ] at chars
          have digits := List.append_cancel_left chars
          have number (index : Nat) :
              Nat.ofDigitChars 10 (Nat.toDigits 10 (index + 2)) 0 =
                index + 2 :=
            Nat.ofDigitChars_ten_toDigits
          have equal := number first
          rw [digits, number second] at equal
          omega

theorem freeNumbered_not_mem (taken : List String) (base : String) :
    freeNumbered taken base ∉ taken :=
  freeCandidate_not_mem (numbered_injective base)

/-! ## Local names -/

namespace ImportPlan

@[simp]
theorem nameAll_paths (taken paths : List String) :
    (nameAll taken paths).map (·.1) = paths := by
  induction paths generalizing taken with
  | nil => rfl
  | cons path paths ih =>
      rw [nameAll]
      split
      · rw [List.map_cons, ih]
      · rw [List.map_cons, ih]

/-- Package `unsafe` keeps its name, and every other path gets a name that was free. -/
theorem nameAll_cases
    {taken paths : List String} {path name : String}
    (isIn : (path, name) ∈ nameAll taken paths) :
    (path = unsafePath ∧ name = unsafePath) ∨
      (path ≠ unsafePath ∧ name ∉ taken) := by
  induction paths generalizing taken with
  | nil => cases isIn
  | cons first paths ih =>
      rw [nameAll] at isIn
      split at isIn
      case isTrue isUnsafe =>
        rcases List.mem_cons.mp isIn with same | later
        · cases same
          exact .inl ⟨isUnsafe, rfl⟩
        · exact ih later
      case isFalse notUnsafe =>
        rcases List.mem_cons.mp isIn with same | later
        · cases same
          exact .inr ⟨notUnsafe, freeNumbered_not_mem taken _⟩
        · rcases ih later with keeps | ⟨notUnsafe, fresh⟩
          · exact .inl keeps
          · exact .inr ⟨notUnsafe, fun isTaken =>
              fresh (List.mem_cons_of_mem _ isTaken)⟩

/-- Distinct paths get distinct names, if the name of package `unsafe` is taken from the start. -/
theorem nameAll_nodup
    {taken paths : List String} (distinct : paths.Nodup)
    (keeps : unsafePath ∈ paths → unsafePath ∈ taken) :
    ((nameAll taken paths).map (·.2)).Nodup := by
  induction paths generalizing taken with
  | nil => exact List.nodup_nil
  | cons path paths ih =>
      rcases List.nodup_cons.mp distinct with ⟨isNew, distinct⟩
      have keepsLater (isIn : unsafePath ∈ paths) :
          unsafePath ∈ taken :=
        keeps (List.mem_cons_of_mem _ isIn)
      rw [nameAll]
      split
      case isTrue isUnsafe =>
        refine List.nodup_cons.mpr ⟨?_, ih distinct keepsLater⟩
        intro isIn
        rcases List.mem_map.mp isIn with ⟨⟨other, name⟩, named, rfl⟩
        have isPath : other ∈ paths := by
          rw [← nameAll_paths taken paths]
          exact List.mem_map_of_mem named
        rcases nameAll_cases named with ⟨isUnsafe', -⟩ | ⟨-, fresh⟩
        · exact isNew (isUnsafe.trans isUnsafe'.symm ▸ isPath)
        · exact fresh (keeps (isUnsafe ▸ List.mem_cons_self))
      case isFalse notUnsafe =>
        refine List.nodup_cons.mpr ⟨?_, ih distinct fun isIn =>
          List.mem_cons_of_mem _ (keepsLater isIn)⟩
        intro isIn
        rcases List.mem_map.mp isIn with ⟨⟨other, name⟩, named, same⟩
        change name = freeNumbered taken (Name.ofImportPath path) at same
        rcases nameAll_cases named with ⟨isUnsafe, keepsName⟩ | ⟨-, fresh⟩
        · have isPath : other ∈ paths := by
            rw [← nameAll_paths _ paths]
            exact List.mem_map_of_mem named
          have isFree := freeNumbered_not_mem taken (Name.ofImportPath path)
          rw [← same, keepsName] at isFree
          exact isFree (keepsLater (isUnsafe ▸ isPath))
        · exact fresh (same ▸ List.mem_cons_self)

/-- A path that has a local name is looked up to one. -/
theorem lookup_nameAll
    {taken paths : List String} {path : String} (isIn : path ∈ paths) :
    ∃ name, (nameAll taken paths).lookup path = some name ∧
      (path, name) ∈ nameAll taken paths := by
  have isNamed : path ∈ (nameAll taken paths).map (·.1) :=
    (nameAll_paths taken paths).symm ▸ isIn
  cases found : (nameAll taken paths).lookup path with
  | none =>
      rcases List.mem_map.mp isNamed with ⟨entry, isEntry, rfl⟩
      have different := List.lookup_eq_none_iff.mp found entry isEntry
      simp at different
  | some name =>
      rcases List.lookup_eq_some_iff.mp found with ⟨front, back, split, -⟩
      exact ⟨name, rfl, split ▸ List.mem_append_right _ List.mem_cons_self⟩

end ImportPlan

/-! ## What a union is written with -/

namespace UnionDescriptor

/-- The types that a union is written with. -/
def types (descriptor : UnionDescriptor) : List GoType :=
  descriptor.parameters.map (·.constraint) ++
    descriptor.variants.map (·.type)

/-- The types inside the types that a union is written with. -/
def nodes (descriptor : UnionDescriptor) : List GoType :=
  descriptor.types.flatMap (·.nodes)

/-- The declared types that a union refers to. -/
def references (descriptor : UnionDescriptor) : List NamedType :=
  descriptor.types.flatMap (·.references)

/-- The names of the type parameters. -/
def parameterNames (descriptor : UnionDescriptor) : List String :=
  descriptor.parameters.map (·.name)

/-- Whether a reference has to be qualified in a destination. -/
def isForeign
    (descriptor : UnionDescriptor) (destination : String)
    (reference : NamedType) : Bool :=
  ImportPlan.isForeign destination descriptor.package
    descriptor.parameterNames reference

/-- The paths that a union makes necessary in a destination. -/
def paths
    (descriptor : UnionDescriptor) (destination : String) :
    List String :=
  ordered (descriptor.nodes.flatMap
    (ImportPlan.pathsOf (descriptor.isForeign destination)))

/-- The identifiers that a union has written without a qualifier in a destination. -/
def bare
    (descriptor : UnionDescriptor) (destination : String) :
    List String :=
  ordered (descriptor.nodes.flatMap
      (ImportPlan.bareOf (descriptor.isForeign destination)) ++
    descriptor.parameterNames)

theorem map_spelled (descriptor : UnionDescriptor) :
    (ImportPlan.spelled descriptor).map (·.2) = descriptor.types := by
  simp [ImportPlan.spelled, types, Function.comp_def]

theorem mem_references
    {descriptor : UnionDescriptor} {reference : NamedType} :
    reference ∈ descriptor.references ↔
      .named reference ∈ descriptor.nodes := by
  simp only [references, nodes, List.mem_flatMap, GoUnion.mem_references]

theorem mem_paths
    {descriptor : UnionDescriptor} {destination path : String} :
    path ∈ descriptor.paths destination ↔
      (∃ reference ∈ descriptor.references,
        descriptor.isForeign destination reference = true ∧
          reference.package = path) ∨
      (path = ImportPlan.unsafePath ∧
        .basic .unsafePointer ∈ descriptor.nodes) := by
  rw [paths, mem_ordered, List.mem_flatMap]
  constructor
  · rintro ⟨node, isNode, isPath⟩
    cases node with
    | basic type =>
        cases type with
        | unsafePointer => exact .inr ⟨List.mem_singleton.mp isPath, isNode⟩
        | _ => cases isPath
    | named reference =>
        rw [ImportPlan.pathsOf] at isPath
        split at isPath
        case isTrue foreign =>
          exact .inl ⟨reference, mem_references.mpr isNode, foreign,
            (List.mem_singleton.mp isPath).symm⟩
        case isFalse => cases isPath
    | _ => cases isPath
  · rintro (⟨reference, isReference, foreign, rfl⟩ | ⟨rfl, isNode⟩)
    · refine ⟨_, mem_references.mp isReference, ?_⟩
      rw [ImportPlan.pathsOf, if_pos foreign]
      exact List.mem_singleton_self _
    · exact ⟨_, isNode, List.mem_singleton_self _⟩

end UnionDescriptor

/-! ## Collected plans -/

namespace ImportPlan

variable {descriptor : UnionDescriptor} {destination : String}
  {imports : ImportPlan}

/-- The plan of imports of a union whose foreign references are exported. -/
def planned
    (descriptor : UnionDescriptor) (destination : String) : ImportPlan :=
  let paths := descriptor.paths destination
  let bare := descriptor.bare destination
  let taken := if paths.contains unsafePath then unsafePath :: bare else bare
  ⟨destination, descriptor.package, descriptor.parameterNames,
    nameAll taken paths, bare⟩

theorem hidden?_eq_none
    {foreign : NamedType → Bool} {type : GoType} :
    hidden? foreign type = none ↔
      ∀ reference ∈ type.references,
        foreign reference = true → reference.isExported = true := by
  simp [hidden?, List.find?_eq_none]

/-- Collecting makes the plan, or it finds a foreign reference that is not exported. -/
theorem collect_cases
    (descriptor : UnionDescriptor) (destination : String) :
    ((∀ reference ∈ descriptor.references,
        descriptor.isForeign destination reference = true →
          reference.isExported = true) ∧
      collect descriptor destination =
        .ok (planned descriptor destination)) ∨
    ((∃ reference ∈ descriptor.references,
        descriptor.isForeign destination reference = true ∧
          reference.isExported = false) ∧
      ∃ hidden, collect descriptor destination = .error hidden) := by
  rw [collect]
  split
  case h_1 owner reference found =>
    right
    refine ⟨?_, _, rfl⟩
    rcases List.exists_of_findSome?_eq_some found with
      ⟨⟨owner, type⟩, isSpelled, found⟩
    rcases Option.map_eq_some_iff.mp found with ⟨hidden, found, -⟩
    have isType : type ∈ descriptor.types := by
      rw [← UnionDescriptor.map_spelled]
      exact List.mem_map_of_mem isSpelled
    have conditions := List.find?_some found
    rw [Bool.and_eq_true, Bool.not_eq_true'] at conditions
    exact ⟨hidden, List.mem_flatMap.mpr
      ⟨type, isType, List.mem_of_find?_eq_some found⟩, conditions⟩
  case h_2 notFound =>
    left
    constructor
    · intro reference isReference foreign
      rcases List.mem_flatMap.mp isReference with ⟨type, isType, isIn⟩
      rw [← UnionDescriptor.map_spelled] at isType
      rcases List.mem_map.mp isType with ⟨entry, isSpelled, rfl⟩
      have unhidden := List.findSome?_eq_none_iff.mp notFound entry isSpelled
      rw [Option.map_eq_none_iff] at unhidden
      exact hidden?_eq_none.mp unhidden reference isIn foreign
    · have nodes :
          (spelled descriptor).flatMap (fun entry => entry.2.nodes) =
            descriptor.nodes := by
        rw [UnionDescriptor.nodes, ← UnionDescriptor.map_spelled,
          List.flatMap_map]
      simp only [nodes]
      rfl

/-- No plan is made exactly if a foreign reference is not exported. -/
theorem collect_eq_error_iff :
    (∃ hidden, collect descriptor destination = .error hidden) ↔
      ∃ reference ∈ descriptor.references,
        descriptor.isForeign destination reference = true ∧
          reference.isExported = false := by
  rcases collect_cases descriptor destination with
    ⟨exported, made⟩ | ⟨hidden, fails⟩
  · constructor
    · rintro ⟨hidden, fails⟩
      cases made.symm.trans fails
    · rintro ⟨reference, isReference, foreign, isHidden⟩
      have isExported := exported reference isReference foreign
      cases isHidden.symm.trans isExported
  · exact ⟨fun _ => hidden, fun _ => fails⟩

/-- The plan that is made. -/
theorem eq_planned
    (made : collect descriptor destination = .ok imports) :
    imports = planned descriptor destination := by
  rcases collect_cases descriptor destination with
    ⟨-, made'⟩ | ⟨-, hidden, fails⟩
  · cases made'.symm.trans made
    rfl
  · cases fails.symm.trans made

theorem planned_paths :
    (planned descriptor destination).names.map (·.1) =
      descriptor.paths destination :=
  nameAll_paths _ _

/-- The imported paths are those of the foreign references and of `unsafe`. -/
theorem mem_planned_paths {path : String} :
    path ∈ (planned descriptor destination).names.map (·.1) ↔
      (∃ reference ∈ descriptor.references,
        descriptor.isForeign destination reference = true ∧
          reference.package = path) ∨
      (path = unsafePath ∧ .basic .unsafePointer ∈ descriptor.nodes) := by
  rw [planned_paths]
  exact UnionDescriptor.mem_paths

/-- Each path is imported once. -/
theorem planned_paths_nodup :
    ((planned descriptor destination).names.map (·.1)).Nodup := by
  rw [planned_paths]
  exact (ascending_ordered _).imp ne_of_lt

/-- A path has one local name. -/
theorem planned_local_unique
    {path name other : String}
    (isIn : (path, name) ∈ (planned descriptor destination).names)
    (isOther : (path, other) ∈ (planned descriptor destination).names) :
    name = other :=
  congrArg Prod.snd
    (List.inj_on_of_nodup_map planned_paths_nodup isIn isOther rfl)

/-- Distinct paths have distinct local names. -/
theorem planned_names_nodup :
    ((planned descriptor destination).names.map (·.2)).Nodup := by
  refine nameAll_nodup ((ascending_ordered _).imp ne_of_lt) ?_
  intro isIn
  rw [if_pos (List.contains_iff_mem.mpr isIn)]
  exact List.mem_cons_self

/-- A local name is not written bare, unless it is that of `unsafe`. -/
theorem planned_fresh
    {path name : String}
    (isIn : (path, name) ∈ (planned descriptor destination).names)
    (notUnsafe : path ≠ unsafePath) :
    name ∉ descriptor.bare destination := by
  rcases nameAll_cases isIn with ⟨isUnsafe, -⟩ | ⟨-, fresh⟩
  · exact absurd isUnsafe notUnsafe
  · intro isBare
    split at fresh
    · exact fresh (List.mem_cons_of_mem _ isBare)
    · exact fresh isBare

/-- Package `unsafe` keeps its name. -/
theorem planned_unsafePath
    {name : String}
    (isIn :
      (unsafePath, name) ∈ (planned descriptor destination).names) :
    name = unsafePath := by
  rcases nameAll_cases isIn with ⟨-, keeps⟩ | ⟨notUnsafe, -⟩
  · exact keeps
  · exact absurd rfl notUnsafe

/-- A foreign reference is qualified by the local name of its package. -/
theorem qualifier_foreign
    {reference : NamedType}
    (isReference : reference ∈ descriptor.references)
    (foreign : descriptor.isForeign destination reference = true) :
    ∃ name,
      (planned descriptor destination).qualifier reference = some name ∧
      (reference.package, name) ∈
        (planned descriptor destination).names := by
  have isPath :=
    UnionDescriptor.mem_paths.mpr
      (.inl ⟨reference, isReference, foreign, rfl⟩)
  rcases lookup_nameAll isPath with ⟨name, found, isIn⟩
  exact ⟨name, (if_pos foreign).trans found, isIn⟩

/-- Any other reference is written bare. -/
theorem qualifier_own
    {reference : NamedType}
    (own : descriptor.isForeign destination reference = false) :
    (planned descriptor destination).qualifier reference = none := by
  refine if_neg ?_
  intro foreign
  cases own.symm.trans foreign

end ImportPlan

end GoUnion
