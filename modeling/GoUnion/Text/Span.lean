/-!
# Spans of a text

Positions in a source text are byte offsets into its UTF-8 form.  The text
itself is a list of characters, so this module says how many bytes a list of
characters takes and how to cut a list at a byte offset.
-/

namespace GoUnion.Text

/-- The number of bytes of a list of characters in UTF-8. -/
def byteLength : List Char → Nat
  | [] => 0
  | c :: rest => c.utf8Size + byteLength rest

@[simp]
theorem byteLength_append (front back : List Char) :
    byteLength (front ++ back) = byteLength front + byteLength back := by
  induction front with
  | nil => simp [byteLength]
  | cons c rest ih => simp [byteLength, ih, Nat.add_assoc]

/-- The characters that start before a byte offset. -/
def takeBytes : Nat → List Char → List Char
  | _, [] => []
  | 0, _ => []
  | bytes, c :: rest => c :: takeBytes (bytes - c.utf8Size) rest

/-- The characters that start at or after a byte offset. -/
def dropBytes : Nat → List Char → List Char
  | _, [] => []
  | 0, text => text
  | bytes, c :: rest => dropBytes (bytes - c.utf8Size) rest

theorem takeBytes_append_dropBytes (bytes : Nat) (text : List Char) :
    takeBytes bytes text ++ dropBytes bytes text = text := by
  induction text generalizing bytes with
  | nil => cases bytes <;> simp [takeBytes, dropBytes]
  | cons c rest ih => cases bytes <;> simp [takeBytes, dropBytes, ih]

/-- A half-open range of byte offsets. -/
structure Span where
  start : Nat
  stop : Nat
  deriving DecidableEq, Repr, Inhabited

namespace Span

/-- The empty span at an offset. -/
def point (offset : Nat) : Span := ⟨offset, offset⟩

/-- The text of a span. -/
def slice (span : Span) (text : List Char) : List Char :=
  takeBytes (span.stop - span.start) (dropBytes span.start text)

end Span

end GoUnion.Text
