import GoUnion.Text.Span

/-!
# Locations

A location names a file, a span of its text, and the line and column at which
the span starts.  Lines and columns count from one; a column counts characters,
not bytes.
-/

namespace GoUnion.Text

/-- A span of a file with the line and the column of its start. -/
structure Location where
  file : String
  span : Span
  line : Nat
  column : Nat
  deriving DecidableEq, Repr

namespace Location

/-- The characters after the last newline. -/
def lastLine (text : List Char) : List Char :=
  (text.reverse.takeWhile (· ≠ '\n')).reverse

/-- Locate a span in the text of a file.  A start beyond the end counts as the end. -/
def ofSpan (file : String) (text : List Char) (span : Span) : Location :=
  let before := takeBytes span.start text
  { file, span
    line := before.count '\n' + 1
    column := (lastLine before).length + 1 }

/-- A location as it stands in front of a message. -/
def render (location : Location) : String :=
  s!"{location.file}:{location.line}:{location.column}"

end Location

end GoUnion.Text
