/-!
# Painted text

Text in the inks of a report.  The inks are seen on a terminal only; without
colours a painted text is the same text.
-/

namespace GoUnion.Report

/-- What a piece of a report is drawn in. -/
inductive Ink where
  | plain
  /-- The word that opens the report. -/
  | alarm
  /-- The frame around the source and the numbers of its lines. -/
  | frame
  /-- The frame beside rows that hold no source. -/
  | faintFrame
  /-- Source that is not marked. -/
  | context
  /-- Marked source and what marks it. -/
  | mark
  deriving DecidableEq, Repr

/-- The terminal's code for an ink. -/
def Ink.code? : Ink → Option String
  | .plain => none
  | .alarm => some "31"
  | .frame => some "38;5;246"
  | .faintFrame => some "38;5;240"
  | .context => some "38;5;249"
  | .mark => some "38;5;155"

/-- A text in an ink. -/
structure Painted where
  ink : Ink
  text : String
  deriving DecidableEq, Repr

namespace Painted

/-- A painted text for a terminal, or for a place without colours. -/
def render (colored : Bool) (painted : Painted) : String :=
  match painted.ink.code? with
  | some code => if colored then s!"\x1b[{code}m{painted.text}\x1b[0m" else painted.text
  | none => painted.text

end Painted

/-- A row of a report, from left to right. -/
abbrev Row := List Painted

/-- A row as a line of text. -/
def Row.render (colored : Bool) (row : Row) : String :=
  String.join (row.map (·.render colored)) ++ "\n"

end GoUnion.Report
