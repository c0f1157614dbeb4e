import GoUnion.Report.Ink
import GoUnion.Text.Blank
import GoUnion.Text.Lines
import GoUnion.Text.Width

/-!
# Marks

A mark is a span of a source text with a message, drawn as rows of a report.  A
mark within one line is underlined and its message hangs below it; a mark over
several lines is a bracket beside its first and its last line.  Columns count
characters; how many cells of a row a column takes depends on its character.
-/

namespace GoUnion.Report

open Text (LinePosition Span isBlank trimEnd)

/-- Where a mark stands: in one line, or from a column of one line to a column of a later one. -/
inductive Mark where
  | within (line : LinePosition) (start stop : Nat)
  | across (first : LinePosition) (start : Nat) (last : LinePosition) (stop : Nat)
  deriving Repr

/-- The number of columns that a tab goes to a multiple of. -/
def tabWidth : Nat := 4

/-- The number of cells of a column. -/
def cellWidth (column : Nat) (c : Char) : Nat :=
  if c = '\t' then tabWidth - column % tabWidth
  else if isBlank c then 1
  else Text.displayWidth c

/-- The characters of a line that are shown. -/
def shown (line : LinePosition) : List Char := trimEnd line.line

/-- The number of cells of a column of a line; a column after the shown characters takes one. -/
def columnWidth (line : LinePosition) (column : Nat) : Nat :=
  ((shown line)[column]?.map (cellWidth column)).getD 1

/-- The source of a line from a column on, in which the columns of a mark are told by a test. -/
def sourceFrom (marked : Nat → Bool) (column : Nat) : List Char → Row
  | [] => []
  | c :: rest =>
    let ink := if marked column then Ink.mark else Ink.context
    let cells :=
      if isBlank c then List.replicate (cellWidth column c) ⟨ink, " "⟩
      else [⟨ink, String.singleton c⟩]
    cells ++ sourceFrom marked (column + 1) rest

/-- A column drawn as one cell and the cells that follow it. -/
def cells (width : Nat) (first rest : Painted) : Row :=
  match width with
  | 0 => []
  | width + 1 => first :: List.replicate width rest

/-- Some cells of nothing. -/
def gap (width : Nat) : Painted := ⟨.plain, String.ofList (List.replicate width ' ')⟩

/-- What is drawn in marking ink. -/
def stroke (text : String) : Painted := ⟨.mark, text⟩

/-- The frame beside a line of source. -/
def numbered (width : Nat) (line : LinePosition) : Row :=
  let number := toString (line.number + 1)
  let margin := String.ofList (List.replicate (width - number.length) ' ')
  [gap 1, ⟨.frame, margin ++ number ++ " │"⟩, gap 1]

/-- The frame beside a row without source. -/
def unnumbered (width : Nat) (bar : String) : Row :=
  [gap 1, ⟨.faintFrame, String.ofList (List.replicate (width + 1) ' ') ++ bar⟩, gap 1]

/-- The number of columns that the stroke to a message goes on after a mark. -/
def overhang : Nat := 2

/-- The row that underlines a mark within a line; the message hangs at a middle column. -/
def underline (line : LinePosition) (start stop middle column : Nat) : Row :=
  let inside := start ≤ column && column < stop
  let width := columnWidth line column
  if column = middle then
    if inside then cells width (stroke "┬") (stroke "─") else cells width (stroke "│") (stroke " ")
  else if inside then cells width (stroke "─") (stroke "─")
  else cells width (gap 1) (gap 1)

/-- The row that leads from a middle column to the message. -/
def lead (line : LinePosition) (middle column : Nat) : Row :=
  let width := columnWidth line column
  if column = middle then cells width (stroke "╰") (stroke "─")
  else if middle < column then cells width (stroke "─") (stroke "─")
  else cells width (gap 1) (gap 1)

/-- The rows for a mark within a line. -/
def rowsWithin (width : Nat) (message : String) (line : LinePosition) (start stop : Nat) :
    List Row :=
  let middle := (start + stop) / 2
  let columns := List.range (stop + overhang)
  [ numbered width line ++
      sourceFrom (fun column => start ≤ column && column < stop) 0 (shown line),
    unnumbered width "│" ++ columns.flatMap (underline line start stop middle),
    unnumbered width "│" ++ columns.flatMap (lead line middle) ++ [⟨.plain, " " ++ message⟩] ]

/-- The rows for a mark over several lines. -/
def rowsAcross (width : Nat) (message : String) (first : LinePosition) (start : Nat)
    (last : LinePosition) (stop : Nat) : List Row :=
  let columns := List.range (last.line.length + overhang)
  let between : List Row :=
    if first.number + 1 < last.number then
      [unnumbered width "┆" ++ [stroke "┆", gap 1, gap 1, gap 1]]
    else []
  [ numbered width first ++ [stroke "╭", stroke "─", stroke "▶", stroke " "] ++
      sourceFrom (fun column => start ≤ column) 0 (shown first) ] ++
    between ++
    [ numbered width last ++ [stroke "├", stroke "─", stroke "▶", stroke " "] ++
        sourceFrom (fun column => column < stop) 0 (shown last),
      unnumbered width "│" ++ [stroke "│", gap 1, gap 1, gap 1] ++
        columns.flatMap fun column => cells (columnWidth last column) (gap 1) (gap 1),
      unnumbered width "│" ++ [stroke "╰", stroke "─", stroke "─", stroke "─"] ++
        (columns.flatMap fun column => cells (columnWidth last column) (stroke "─") (stroke "─")) ++
        [⟨.plain, " " ++ message⟩] ]

namespace Mark

/-- The mark of a span of a text. -/
def ofSpan (text : List Char) (span : Span) : Mark :=
  let first := LinePosition.ofOffset text span.start
  if span.stop ≤ span.start then .within first first.column first.column
  else
    let last := LinePosition.ofOffset text (span.stop - 1)
    let stop := { last with offset := last.offset + 1 }.column
    if first.number = last.number then .within first first.column stop
    else .across first first.column last stop

/-- The number of the last line of a mark, counted from zero. -/
def lastNumber : Mark → Nat
  | .within line _ _ => line.number
  | .across _ _ last _ => last.number

/-- The rows for a mark with its message, given the width of line numbers. -/
def rows (width : Nat) (message : String) : Mark → List Row
  | .within line start stop => rowsWithin width message line start stop
  | .across first start last stop => rowsAcross width message first start last stop

end Mark

end GoUnion.Report
