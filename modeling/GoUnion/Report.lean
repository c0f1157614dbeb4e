import GoUnion.FileTree
import GoUnion.Report.Mark
import GoUnion.Union.Generation

/-!
# Reports

An error as it is shown to a user.  An error about a piece of source text is
shown with the lines of that text and the piece marked in them; any other one,
and one whose text is no longer there, is a single line.
-/

namespace GoUnion

namespace LoadError

/-- What is said at the marked source of an error. -/
def label : LoadError → String
  | .redeclared .. => "declared again here"
  | .unsupported _ (some field) _ => s!"used by {field.describe}"
  | error => error.headline

end LoadError

namespace GenerateError

/-- The wording of an error, without its location. -/
def headline : GenerateError → String
  | .load error => error.headline
  | error => error.message

/-- What is said at the marked source of an error. -/
def label : GenerateError → String
  | .load error => error.label
  | error => error.message

end GenerateError

namespace Report

open Text (Location)

/-- The row that names the file and the place of a mark. -/
def heading (width : Nat) (file : String) (start : Text.LinePosition) : Row :=
  [ gap (width + 2), ⟨.frame, "╭"⟩, ⟨.frame, "─"⟩, ⟨.frame, "["⟩,
    ⟨.plain, s!" {file}:{start.number + 1}:{start.column + 1} "⟩, ⟨.frame, "]"⟩ ]

/-- The row that closes the frame. -/
def closing (width : Nat) : Row :=
  [⟨.frame, String.ofList (List.replicate (width + 2) '─') ++ "╯"⟩]

/-- The rows of an error that is about a piece of a source text. -/
def rows (headline label : String) (location : Location) (text : List Char) : List Row :=
  let mark := Mark.ofSpan text location.span
  let width := (toString (mark.lastNumber + 1)).length
  [ [⟨.alarm, "Error:"⟩, ⟨.plain, " " ++ headline⟩],
    heading width location.file (.ofOffset text location.span.start),
    [gap (width + 2), ⟨.frame, "│"⟩] ] ++
    mark.rows width label ++ [closing width]

/-- The report of an error, given what reads the text of a file. -/
def ofError (read : String → Option String) (colored : Bool) (error : GenerateError) : String :=
  let line := s!"error: {error.message}\n"
  match error.location? with
  | none => line
  | some location =>
    match read location.file with
    | none => line
    | some text =>
      if location.span.stop ≤ Text.byteLength text.toList then
        String.join ((rows error.headline error.label location text.toList).map (·.render colored))
      else line

end Report

namespace FileTree

/-- The report of an error on the files of the tree. -/
def report (tree : FileTree) (colored : Bool) (error : GenerateError) : String :=
  Report.ofError (fun path => (tree.read path).toOption) colored error

end FileTree

end GoUnion
