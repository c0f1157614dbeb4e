import GoUnion.Proofs.Lexing.Replace

/-!
# Valid spans

An offset into a text is a boundary if no character is cut there.  A span is
valid in a text if it runs forward between two boundaries; then it cuts the text
into what is in front of it, its slice and what is behind it, and the bytes of
the slice are as many as the span is long.
-/

namespace GoUnion.Text

/-- An offset at which a character of a text starts, or at which the text ends. -/
def IsBoundary (text : List Char) (offset : Nat) : Prop :=
  byteLength (takeBytes offset text) = offset

instance (text : List Char) (offset : Nat) :
    Decidable (IsBoundary text offset) :=
  inferInstanceAs (Decidable (byteLength (takeBytes offset text) = offset))

theorem isBoundary_append (front back : List Char) :
    IsBoundary (front ++ back) (byteLength front) := by
  rw [IsBoundary, takeBytes_append]

theorem IsBoundary.split
    {text : List Char} {offset : Nat} (isBoundary : IsBoundary text offset) :
    ∃ front back, text = front ++ back ∧ offset = byteLength front :=
  ⟨takeBytes offset text, dropBytes offset text,
    (takeBytes_append_dropBytes offset text).symm, isBoundary.symm⟩

/-- The shorter of two prefixes of a text opens the longer one. -/
theorem exists_append_of_byteLength_le
    {front back front' back' : List Char}
    (same : front ++ back = front' ++ back')
    (le : byteLength front ≤ byteLength front') :
    ∃ middle, front' = front ++ middle ∧ back = middle ++ back' := by
  rcases List.append_eq_append_iff.mp same with
    ⟨middle, rfl, rfl⟩ | ⟨middle, rfl, rfl⟩
  · exact ⟨middle, rfl, rfl⟩
  · cases middle with
    | nil => exact ⟨[], by simp, by simp⟩
    | cons c middle =>
        have positive := c.utf8Size_pos
        rw [byteLength_append, byteLength] at le
        omega

namespace Span

/-- A span that runs forward between two boundaries of a text. -/
structure Valid (text : List Char) (span : Span) : Prop where
  forward : span.start ≤ span.stop
  bounded : span.stop ≤ byteLength text
  startsCharacter : IsBoundary text span.start
  stopsCharacter : IsBoundary text span.stop

instance (text : List Char) (span : Span) : Decidable (Valid text span) :=
  decidable_of_iff
    (span.start ≤ span.stop ∧ span.stop ≤ byteLength text ∧
      IsBoundary text span.start ∧ IsBoundary text span.stop)
    ⟨fun ⟨forward, bounded, starts, stops⟩ =>
        ⟨forward, bounded, starts, stops⟩,
      fun ⟨forward, bounded, starts, stops⟩ =>
        ⟨forward, bounded, starts, stops⟩⟩

/-- Between the ends of two prefixes lies a valid span. -/
theorem valid_append (front middle back : List Char) :
    Valid (front ++ (middle ++ back))
      ⟨byteLength front, byteLength front + byteLength middle⟩ where
  forward := Nat.le_add_right _ _
  bounded := by
    rw [byteLength_append, byteLength_append, ← Nat.add_assoc]
    exact Nat.le_add_right _ _
  startsCharacter := isBoundary_append front _
  stopsCharacter := by
    rw [← byteLength_append, ← List.append_assoc]
    exact isBoundary_append (front ++ middle) back

/-- What the span between the ends of two prefixes covers. -/
theorem slice_append (front middle back : List Char) :
    slice ⟨byteLength front, byteLength front + byteLength middle⟩
      (front ++ (middle ++ back)) = middle := by
  rw [slice, dropBytes_append, Nat.add_sub_cancel_left, takeBytes_append]

theorem slice_point (offset : Nat) (text : List Char) :
    (point offset).slice text = [] := by
  rw [slice, point, Nat.sub_self]
  cases dropBytes offset text with
  | nil => rfl
  | cons => rfl

/-- Where two valid spans start and stop, a span may run if it runs forward. -/
theorem Valid.between
    {text : List Char} {first last : Span} (valid : Valid text first)
    (valid' : Valid text last) (forward : first.start ≤ last.stop) :
    Valid text ⟨first.start, last.stop⟩ where
  forward := forward
  bounded := valid'.bounded
  startsCharacter := valid.startsCharacter
  stopsCharacter := valid'.stopsCharacter

theorem Valid.point
    {text : List Char} {offset : Nat} (isBoundary : IsBoundary text offset) :
    Valid text (point offset) where
  forward := Nat.le_refl offset
  bounded := by
    rcases isBoundary.split with ⟨front, back, rfl, rfl⟩
    rw [byteLength_append]
    exact Nat.le_add_right (byteLength front) _
  startsCharacter := isBoundary
  stopsCharacter := isBoundary

/-- One span lies in another. -/
structure Within (inner outer : Span) : Prop where
  start : outer.start ≤ inner.start
  stop : inner.stop ≤ outer.stop

theorem Within.refl (span : Span) : Within span span :=
  ⟨Nat.le_refl _, Nat.le_refl _⟩

end Span

end GoUnion.Text
