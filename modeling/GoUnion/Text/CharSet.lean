/-!
# Character sets

A set of characters given by its ranges of code points.  The ranges are listed
in ascending order, so a search stops at the first range that lies beyond the
character; that is what keeps look-ups of the ASCII characters short in tables
with many hundred ranges.
-/

namespace GoUnion.Text

/-- A set of characters as an ascending list of ranges of code points, ends included. -/
structure CharSet where
  ranges : List (Nat × Nat)

namespace CharSet

/-- Search an ascending list of ranges for a code point. -/
def search : List (Nat × Nat) → Nat → Bool
  | [], _ => false
  | (first, last) :: later, code =>
    if code < first then false
    else if code ≤ last then true
    else search later code

/-- Whether the set holds a character. -/
def contains (set : CharSet) (c : Char) : Bool :=
  search set.ranges c.toNat

/-- A hit of the search lies in one of the ranges. -/
theorem exists_range_of_search {ranges : List (Nat × Nat)} {code : Nat}
    (found : search ranges code = true) :
    ∃ range ∈ ranges, range.1 ≤ code ∧ code ≤ range.2 := by
  induction ranges with
  | nil => simp [search] at found
  | cons range later ih =>
    obtain ⟨first, last⟩ := range
    simp only [search] at found
    split at found
    · simp at found
    · split at found
      · exact ⟨(first, last), by simp, by omega, by omega⟩
      · obtain ⟨range, member, bounds⟩ := ih found
        exact ⟨range, List.mem_cons_of_mem _ member, bounds⟩

end CharSet

end GoUnion.Text
