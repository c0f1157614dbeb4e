/-!
# Free names

The choice of a name that is not taken.  The candidates for a name are numbered
from zero, and they are tried one after the other; the first one that is free is
chosen.  Among distinct candidates, one more than there are taken names are
enough, which bounds the search.  Two families of candidates occur: a name with
more and more underscores in front of it, and a name with a number after it.
-/

namespace GoUnion

/-- The index of the first free candidate from a given index on, or the index that the search has
got to when it runs out of steps. -/
def firstFree (taken : List String) (candidate : Nat → String) : (steps index : Nat) → Nat
  | 0, index => index
  | steps + 1, index =>
    if taken.contains (candidate index) then firstFree taken candidate steps (index + 1)
    else index

/-- Every candidate that the search passes over is taken. -/
theorem mem_of_lt_firstFree {taken : List String} {candidate : Nat → String}
    {steps index passed : Nat} (reached : index ≤ passed)
    (before : passed < firstFree taken candidate steps index) :
    candidate passed ∈ taken := by
  induction steps generalizing index with
  | zero => simp only [firstFree] at before; omega
  | succ steps ih =>
    simp only [firstFree] at before
    split at before
    case isTrue found =>
      by_cases same : index = passed
      · subst same; simpa using found
      · exact ih (by omega) before
    case isFalse => omega

/-- A search that ends before it runs out of steps ends at a free candidate. -/
theorem not_mem_of_firstFree_lt {taken : List String} {candidate : Nat → String}
    {steps index : Nat} (early : firstFree taken candidate steps index < index + steps) :
    candidate (firstFree taken candidate steps index) ∉ taken := by
  induction steps generalizing index with
  | zero => simp [firstFree] at early
  | succ steps ih =>
    simp only [firstFree] at early ⊢
    split
    case isTrue found =>
      rw [if_pos found] at early
      exact ih (by omega)
    case isFalse free => simpa using free

/-- The first of some candidates that is not taken. -/
def freeCandidate (taken : List String) (candidate : Nat → String) : String :=
  candidate (firstFree taken candidate taken.length 0)

/-- A name with a number of leading underscores. -/
def underscored (base : String) (count : Nat) : String :=
  String.ofList (List.replicate count '_' ++ base.toList)

/-- A name with the least number of leading underscores that makes it free. -/
def freeName (taken : List String) (base : String) : String :=
  freeCandidate taken (underscored base)

/-- A name, then the name with 2, 3 and so on after it. -/
def numbered (base : String) : Nat → String
  | 0 => base
  | index + 1 => base ++ toString (index + 2)

/-- A name with the least number after it that makes it free, and with none if it is free. -/
def freeNumbered (taken : List String) (base : String) : String :=
  freeCandidate taken (numbered base)

end GoUnion
