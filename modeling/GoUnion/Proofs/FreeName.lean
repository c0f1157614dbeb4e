import GoUnion.Union.FreeName
import Mathlib.Data.List.Perm.Subperm
import Mathlib.Data.List.Nodup

/-!
# The search for a free name ends

The search tries as many candidates as there are taken names and stops at the
next one.  When the candidates are distinct they cannot all be taken, so the
bound on the number of steps never cuts the search short: the chosen name is
free, and every candidate before it is taken.

The candidates that matter for a plan of names put more and more underscores in
front of a base.  For them the search is described a second time, without any
bound, as a derivation that finds a name taken and goes on with one more
underscore.
-/

namespace GoUnion

/-! ## Distinct candidates -/

/-- The search makes no more steps than it is given. -/
theorem firstFree_le_add
    (taken : List String) (candidate : Nat → String) (steps index : Nat) :
    firstFree taken candidate steps index ≤ index + steps := by
  induction steps generalizing index with
  | zero => simp [firstFree]
  | succ steps ih =>
      simp only [firstFree]
      split
      · have := ih (index + 1)
        omega
      · omega

/-- A search among distinct candidates ends at a free one. -/
theorem freeCandidate_not_mem
    {taken : List String} {candidate : Nat → String}
    (distinct : Function.Injective candidate) :
    freeCandidate taken candidate ∉ taken := by
  intro chosenTaken
  have reached :
      firstFree taken candidate taken.length 0 = taken.length := by
    have notEarly :
        ¬ firstFree taken candidate taken.length 0 < 0 + taken.length :=
      fun early => not_mem_of_firstFree_lt early chosenTaken
    have bounded := firstFree_le_add taken candidate taken.length 0
    omega
  have allTaken :
      (List.range (taken.length + 1)).map candidate ⊆ taken := by
    intro name member
    obtain ⟨index, inRange, rfl⟩ := List.mem_map.mp member
    rcases Nat.lt_succ_iff_lt_or_eq.mp (List.mem_range.mp inRange) with
      before | last
    · exact mem_of_lt_firstFree (Nat.zero_le index) (reached ▸ before)
    · rw [freeCandidate, reached] at chosenTaken
      exact last ▸ chosenTaken
  have nodup : ((List.range (taken.length + 1)).map candidate).Nodup :=
    List.nodup_range.map distinct
  have lengths := (nodup.subperm allTaken).length_le
  rw [List.length_map, List.length_range] at lengths
  exact Nat.not_succ_le_self _ lengths

/-! ## Underscores in front of a base -/

@[simp]
theorem underscored_zero (base : String) :
    underscored base 0 = base := by
  simp [underscored]

@[simp]
theorem toList_underscored (base : String) (count : Nat) :
    (underscored base count).toList =
      List.replicate count '_' ++ base.toList := by
  simp [underscored]

theorem underscored_injective (base : String) :
    Function.Injective (underscored base) := by
  intro first second equal
  have lengths := congrArg (List.length ∘ String.toList) equal
  simpa using lengths

/-- One more underscore. -/
theorem underscored_succ (base : String) (count : Nat) :
    underscored base (count + 1) = "_" ++ underscored base count := by
  apply String.toList_inj.mp
  simp [List.replicate_succ]

theorem freeName_not_mem (taken : List String) (base : String) :
    freeName taken base ∉ taken :=
  freeCandidate_not_mem (underscored_injective base)

/--
The search for a free name without a bound: a name that is free is the result,
and one that is taken gets another underscore.
-/
inductive Escapes (taken : List String) : String → String → Prop where
  | free {name : String}
      (isFree : name ∉ taken) :
      Escapes taken name name
  | taken {name result : String}
      (isTaken : name ∈ taken)
      (later : Escapes taken ("_" ++ name) result) :
      Escapes taken name result

/-- The search ends at a free name. -/
theorem Escapes.not_mem
    {taken : List String} {name result : String}
    (search : Escapes taken name result) :
    result ∉ taken := by
  induction search with
  | free isFree => exact isFree
  | taken isTaken later ih => exact ih

/-- A bounded search that ends at a free name is an unbounded one. -/
theorem escapes_firstFree
    {taken : List String} {base : String} {steps index : Nat}
    (isFree :
      underscored base (firstFree taken (underscored base) steps index) ∉
        taken) :
    Escapes taken (underscored base index)
      (underscored base
        (firstFree taken (underscored base) steps index)) := by
  induction steps generalizing index with
  | zero => exact .free isFree
  | succ steps ih =>
      simp only [firstFree] at isFree ⊢
      split
      case isTrue found =>
        rw [if_pos found] at isFree
        refine .taken (by simpa using found) ?_
        rw [← underscored_succ]
        exact ih isFree
      case isFalse notFound =>
        exact .free (by simpa using notFound)

/-- The unbounded search ends, and it ends at the name that the bounded search finds. -/
theorem escapes_freeName (taken : List String) (base : String) :
    Escapes taken base (freeName taken base) := by
  have search := escapes_firstFree (freeName_not_mem taken base)
  rwa [underscored_zero] at search

end GoUnion
