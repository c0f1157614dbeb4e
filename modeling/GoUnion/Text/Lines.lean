import GoUnion.Text.Span

/-!
# Lines

The lines of a text by the characters that end lines in Unicode, a carriage
return before a newline counting as one end with it.  A line keeps its end, so
that the lines put together are the text, and an offset in the text is one in a
line.
-/

namespace GoUnion.Text

/-- Whether a character ends a line. -/
def endsLine (c : Char) : Bool :=
  c = '\n' || c = '\r' || c = '\x0b' || c = '\x0c' || c = '\u0085' || c = '\u2028' || c = '\u2029'

/-- The lines of a text, each with its end; an empty text has none. -/
def lines : List Char → List (List Char)
  | [] => []
  | c :: rest =>
    if endsLine c && !(c = '\r' && rest.head? = some '\n') then [c] :: lines rest
    else
      match lines rest with
      | [] => [[c]]
      | line :: others => (c :: line) :: others

/-- The lines put together are the text. -/
@[simp]
theorem flatten_lines (text : List Char) : (lines text).flatten = text := by
  induction text with
  | nil => rfl
  | cons c rest ih =>
    rw [lines]
    split
    · simp [ih]
    · split
      · next noLines =>
        rw [noLines] at ih
        simp [show rest = [] from ih.symm]
      · next line others found =>
        rw [found] at ih
        simp only [List.flatten_cons, List.cons_append] at ih ⊢
        rw [ih]

/-- A place in a text: the number of a line, counted from zero, the line, and the number of bytes
before the place in it. -/
structure LinePosition where
  number : Nat
  line : List Char
  offset : Nat
  deriving DecidableEq, Repr

namespace LinePosition

/-- The number of characters before the place in its line. -/
def column (position : LinePosition) : Nat :=
  (takeBytes position.offset position.line).length

/-- The place of an offset in some lines, given the number of the first one.  An offset at the end
of all lines is in the last one. -/
def find (number offset : Nat) : List (List Char) → LinePosition
  | [] => ⟨number, [], offset⟩
  | [line] => ⟨number, line, offset⟩
  | line :: next :: others =>
    if offset < byteLength line then ⟨number, line, offset⟩
    else find (number + 1) (offset - byteLength line) (next :: others)

/-- The place of an offset in a text. -/
def ofOffset (text : List Char) (offset : Nat) : LinePosition :=
  find 0 offset (lines text)

end LinePosition

end GoUnion.Text
