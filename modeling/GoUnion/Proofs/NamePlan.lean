import GoUnion.Proofs.FreeName
import GoUnion.Union.NamePlan

/-!
# A plan of names has no collisions

The members of a union are named one after the other in one scope, and so are
the local names of its methods in another.  `Claims` describes such a run: each
base is escaped until it is free, and the name it gets is taken from then on.
A run that starts with some taken names yields distinct names that all lie
outside of them.

Handlers do not quite follow this rule, since a handler takes over the name of
its variant unless the generated code has to mention that name.  `Handles`
describes their run.  That all local names are distinct rests on the fact that
the variants are taken from the start: a name that is claimed is never that of
a variant.

`NamePlan.Arises` puts the runs of a whole plan together.  The plan that is
resolved for some variants, features and reserved names arises, so all its
searches end, and the runs keep its names apart.
-/

namespace GoUnion

/-! ## Names claimed one after the other -/

/-- The names that some bases get one after the other, given the names taken before. -/
inductive Claims : List String → List String → List String → Prop where
  | nil {taken : List String} :
      Claims taken [] []
  | cons {taken bases names : List String} {base name : String}
      (search : Escapes taken base name)
      (later : Claims (name :: taken) bases names) :
      Claims taken (base :: bases) (name :: names)

namespace Claims

theorem length_eq
    {taken bases names : List String}
    (run : Claims taken bases names) :
    names.length = bases.length := by
  induction run with
  | nil => rfl
  | cons search later ih => simp [ih]

/-- A claimed name was free at the start. -/
theorem not_mem
    {taken bases names : List String}
    (run : Claims taken bases names) :
    ∀ name ∈ names, name ∉ taken := by
  induction run with
  | nil => simp
  | cons search later ih =>
      intro other member
      rcases List.mem_cons.mp member with rfl | claimedLater
      · exact search.not_mem
      · exact fun isTaken =>
          ih other claimedLater (List.mem_cons_of_mem _ isTaken)

theorem nodup
    {taken bases names : List String}
    (run : Claims taken bases names) :
    names.Nodup := by
  induction run with
  | nil => exact List.nodup_nil
  | cons search later ih =>
      refine List.nodup_cons.mpr ⟨?_, ih⟩
      intro member
      exact later.not_mem _ member List.mem_cons_self

end Claims

/-- The names that are chosen for some bases are claimed one after the other. -/
theorem claims_freeNames (taken bases : List String) :
    Claims taken bases (freeNames taken bases).1 := by
  induction bases generalizing taken with
  | nil => exact .nil
  | cons base bases ih =>
      exact .cons (escapes_freeName taken base)
        (ih (freeName taken base :: taken))

/-- Bases chosen in two goes get the same names as in one. -/
theorem freeNames_append (taken front back : List String) :
    freeNames taken (front ++ back) =
      ((freeNames taken front).1 ++
          (freeNames (freeNames taken front).2 back).1,
        (freeNames (freeNames taken front).2 back).2) := by
  induction front generalizing taken with
  | nil => rfl
  | cons base bases ih => simp [freeNames, ih]

/-- An optional base is a list of at most one base. -/
theorem freeNames_optional
    (taken : List String) (wanted : Bool) (base : String) :
    freeNames taken (if wanted then [base] else []) =
      ((freeName? taken wanted base).1.toList,
        (freeName? taken wanted base).2) := by
  cases wanted <;> rfl

/-! ## Handlers -/

/-- The names that the handlers of some variants get, given the names taken before. -/
inductive Handles (reserved : List String) :
    List String → List String → List String → Prop where
  | nil {taken : List String} :
      Handles reserved taken [] []
  | own {taken variants names : List String} {variant : String}
      (unreserved : variant ∉ reserved)
      (later : Handles reserved taken variants names) :
      Handles reserved taken (variant :: variants) (variant :: names)
  | claimed {taken variants names : List String} {variant name : String}
      (isReserved : variant ∈ reserved)
      (search : Escapes taken variant name)
      (later : Handles reserved (name :: taken) variants names) :
      Handles reserved taken (variant :: variants) (name :: names)

namespace Handles

theorem length_eq
    {reserved taken variants names : List String}
    (run : Handles reserved taken variants names) :
    names.length = variants.length := by
  induction run with
  | nil => rfl
  | own unreserved later ih => simp [ih]
  | claimed isReserved search later ih => simp [ih]

/-- A handler is named like an unreserved variant, or by a name that was free at the start. -/
theorem own_or_not_mem
    {reserved taken variants names : List String}
    (run : Handles reserved taken variants names) :
    ∀ name ∈ names,
      (name ∈ variants ∧ name ∉ reserved) ∨ name ∉ taken := by
  induction run with
  | nil => simp
  | own unreserved later ih =>
      intro name member
      rcases List.mem_cons.mp member with rfl | inLater
      · exact .inl ⟨List.mem_cons_self, unreserved⟩
      · rcases ih name inLater with ⟨isVariant, free⟩ | fresh
        · exact .inl ⟨List.mem_cons_of_mem _ isVariant, free⟩
        · exact .inr fresh
  | claimed isReserved search later ih =>
      intro name member
      rcases List.mem_cons.mp member with rfl | inLater
      · exact .inr search.not_mem
      · rcases ih name inLater with ⟨isVariant, free⟩ | fresh
        · exact .inl ⟨List.mem_cons_of_mem _ isVariant, free⟩
        · exact .inr fun isTaken =>
            fresh (List.mem_cons_of_mem _ isTaken)

/-- When the variants are distinct and taken from the start, the handlers are distinct. -/
theorem nodup
    {reserved taken variants names : List String}
    (run : Handles reserved taken variants names)
    (distinct : variants.Nodup)
    (variantsTaken : ∀ variant ∈ variants, variant ∈ taken) :
    names.Nodup := by
  induction run with
  | nil => exact List.nodup_nil
  | @own taken variants names variant unreserved later ih =>
      obtain ⟨absent, distinct⟩ := List.nodup_cons.mp distinct
      have laterTaken : ∀ other ∈ variants, other ∈ taken :=
        fun other member =>
          variantsTaken other (List.mem_cons_of_mem _ member)
      refine List.nodup_cons.mpr ⟨?_, ih distinct laterTaken⟩
      intro member
      rcases later.own_or_not_mem variant member with ⟨repeated, _⟩ | fresh
      · exact absent repeated
      · exact fresh (variantsTaken variant List.mem_cons_self)
  | @claimed taken variants names variant name isReserved search later ih =>
      have laterTaken : ∀ other ∈ variants, other ∈ taken :=
        fun other member =>
          variantsTaken other (List.mem_cons_of_mem _ member)
      have laterTaken' : ∀ other ∈ variants, other ∈ name :: taken :=
        fun other member =>
          List.mem_cons_of_mem _ (laterTaken other member)
      refine List.nodup_cons.mpr
        ⟨?_, ih (List.nodup_cons.mp distinct).2 laterTaken'⟩
      intro member
      rcases later.own_or_not_mem name member with ⟨isVariant, _⟩ | fresh
      · exact search.not_mem (laterTaken name isVariant)
      · exact fresh List.mem_cons_self

end Handles

theorem handles_handlerNames
    (reserved taken variants : List String) :
    Handles reserved taken variants
      (NamePlan.handlerNames reserved taken variants) := by
  induction variants generalizing taken with
  | nil => exact .nil
  | cons variant variants ih =>
      simp only [NamePlan.handlerNames]
      split
      case isTrue isReserved =>
        exact .claimed (by simpa using isReserved)
          (escapes_freeName taken variant)
          (ih (freeName taken variant :: taken))
      case isFalse unreserved =>
        exact .own (by simpa using unreserved) (ih taken)

/-! ## Whole plans -/

namespace NamePlan

/-- The names of the members that a plan introduces, in the order in which they are chosen. -/
def memberNames (plan : NamePlan) : List String :=
  [plan.discriminant, plan.inner] ++ plan.invalid.toList ++
    [plan.variantMethod] ++ plan.valueMethod.toList ++
    plan.matchMethod.toList ++ plan.getters ++ plan.setters

/-- The local names of a plan that are chosen before the handlers. -/
def scopeNames (plan : NamePlan) : List String :=
  [plan.receiver, plan.valueParameter, plan.zero, plan.invalidHandler]

/-- The local names of a plan. -/
def localNames (plan : NamePlan) : List String :=
  plan.scopeNames ++ plan.handlers

/-- The bases of the names of the members. -/
def memberBases (variants : List String) (features : Features) :
    List String :=
  ["_variant", "_inner"] ++
    (if !features.defaulting then ["Invalid"] else []) ++ ["Variant"] ++
    (if features.publicValue then ["Value"] else []) ++
    (if features.matching then ["Match"] else []) ++
    (if features.getters then variants.map ("Get_" ++ ·) else []) ++
    (if features.setters then variants.map ("Set_" ++ ·) else [])

/-- The bases of the local names that are chosen before the handlers. -/
def scopeBases : List String := ["u", "value", "zero", "invalid"]

/-- A plan whose names are those that the unbounded searches arrive at. -/
structure Arises
    (variants : List String) (features : Features)
    (reserved : List String) (plan : NamePlan) : Prop where
  members :
    Claims variants (memberBases variants features) plan.memberNames
  scope :
    Claims (variants ++ reserved) scopeBases plan.scopeNames
  handlers :
    Handles reserved
      (plan.scopeNames.reverse ++ (variants ++ reserved))
      variants plan.handlers

/-- What a plan of names is free of, and how many names it has for the variants. -/
structure CollisionFree
    (variants : List String) (features : Features)
    (reserved : List String) (plan : NamePlan) : Prop where
  members_nodup : plan.memberNames.Nodup
  members_not_variants :
    ∀ name ∈ plan.memberNames, name ∉ variants
  locals_nodup : plan.localNames.Nodup
  locals_not_reserved :
    ∀ name ∈ plan.localNames, name ∉ reserved
  scope_not_variants :
    ∀ name ∈ plan.scopeNames, name ∉ variants
  getters_length :
    plan.getters.length =
      if features.getters then variants.length else 0
  setters_length :
    plan.setters.length =
      if features.setters then variants.length else 0
  handlers_length : plan.handlers.length = variants.length

/-- The members of the resolved plan are chosen by one run. -/
theorem memberNames_resolve
    (variants : List String) (features : Features)
    (reserved : List String) :
    (resolve variants features reserved).memberNames =
      (freeNames variants (memberBases variants features)).1 := by
  simp only [memberBases, freeNames_append, freeNames_optional]
  rfl

theorem arises_resolve
    (variants : List String) (features : Features)
    (reserved : List String) :
    Arises variants features reserved
      (resolve variants features reserved) where
  members := by
    rw [memberNames_resolve]
    exact claims_freeNames variants (memberBases variants features)
  scope := claims_freeNames (variants ++ reserved) scopeBases
  handlers := handles_handlerNames reserved _ variants

/-- The local names of a plan that arises are distinct. -/
theorem Arises.locals_nodup
    {variants reserved : List String} {features : Features}
    {plan : NamePlan}
    (arises : Arises variants features reserved plan)
    (distinct : variants.Nodup) :
    plan.localNames.Nodup := by
  have variantsTaken :
      ∀ variant ∈ variants,
        variant ∈ plan.scopeNames.reverse ++ (variants ++ reserved) :=
    fun variant member =>
      List.mem_append_right _ (List.mem_append_left _ member)
  refine List.nodup_append.mpr
    ⟨arises.scope.nodup, arises.handlers.nodup distinct variantsTaken, ?_⟩
  intro name inScope handler isHandler equal
  subst equal
  have outside := arises.scope.not_mem name inScope
  rcases arises.handlers.own_or_not_mem name isHandler with
    ⟨isVariant, _⟩ | fresh
  · exact outside (List.mem_append_left _ isVariant)
  · exact fresh
      (List.mem_append_left _ (List.mem_reverse.mpr inScope))

/-- No local name of a plan that arises is reserved. -/
theorem Arises.locals_not_reserved
    {variants reserved : List String} {features : Features}
    {plan : NamePlan}
    (arises : Arises variants features reserved plan) :
    ∀ name ∈ plan.localNames, name ∉ reserved := by
  intro name member isReserved
  have isTaken : name ∈ variants ++ reserved :=
    List.mem_append_right _ isReserved
  rcases List.mem_append.mp member with inScope | isHandler
  · exact arises.scope.not_mem name inScope isTaken
  · rcases arises.handlers.own_or_not_mem name isHandler with
      ⟨_, unreserved⟩ | fresh
    · exact unreserved isReserved
    · exact fresh (List.mem_append_right _ isTaken)

/-- A member that is named for each variant, or for none, is named as often. -/
theorem length_freeNames_variants
    (taken variants : List String) (wanted : Bool)
    (base : String → String) :
    (freeNames taken (if wanted then variants.map base else [])).1.length =
      if wanted then variants.length else 0 := by
  rw [(claims_freeNames taken _).length_eq]
  cases wanted <;> simp

/--
For distinct variants, all searches of the resolved plan end, and they leave it
free of collisions.
-/
theorem resolve_collisionFree
    (variants : List String) (features : Features)
    (reserved : List String)
    (distinct : variants.Nodup) :
    Arises variants features reserved
        (resolve variants features reserved) ∧
      CollisionFree variants features reserved
        (resolve variants features reserved) := by
  have arises := arises_resolve variants features reserved
  refine ⟨arises, ?_⟩
  exact {
    members_nodup := arises.members.nodup
    members_not_variants := arises.members.not_mem
    locals_nodup := arises.locals_nodup distinct
    locals_not_reserved := arises.locals_not_reserved
    scope_not_variants := fun name inScope isVariant =>
      arises.scope.not_mem name inScope
        (List.mem_append_left _ isVariant)
    getters_length := length_freeNames_variants _ _ _ _
    setters_length := length_freeNames_variants _ _ _ _
    handlers_length := arises.handlers.length_eq }

/-- Variants that look like generated names, one of which the code has to mention. -/
theorem resolve_collisionFree_lookalikes :
    ["_variant", "u", "Get_u", "int"].Nodup ∧
      Arises ["_variant", "u", "Get_u", "int"] .standard ["int", "_u"]
          (resolve ["_variant", "u", "Get_u", "int"] .standard
            ["int", "_u"]) ∧
        CollisionFree ["_variant", "u", "Get_u", "int"] .standard
          ["int", "_u"]
          (resolve ["_variant", "u", "Get_u", "int"] .standard
            ["int", "_u"]) :=
  ⟨by decide, resolve_collisionFree _ _ _ (by decide)⟩

example :
    (resolve ["_variant", "u", "Get_u", "int"] .standard
      ["int", "_u"]).memberNames =
        ["__variant", "_inner", "Invalid", "Variant", "Match",
          "Get__variant", "_Get_u", "Get_Get_u", "Get_int",
          "Set__variant", "Set_u", "Set_Get_u", "Set_int"] := by
  decide +kernel

end NamePlan

end GoUnion
