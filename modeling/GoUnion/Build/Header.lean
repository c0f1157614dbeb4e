import GoUnion.Build.Expression
import GoUnion.Text.Span

/-!
# File headers

The comments before the first line of a source file that holds anything else.
Build constraints count only there.  A header holds at most one line of the
newer form, which decides alone if it is present, and any number of lines of
the older form, which must all hold.
-/

namespace GoUnion.Build

open Text (Span byteLength trim trimStart trimEnd)

/-- The constraint lines of a header. -/
structure Header where
  expression : Option (List Char × Span)
  options : List (List Char)
  deriving DecidableEq, Repr

/-- A fault of a build constraint and the span of its line. -/
structure ConstraintError where
  fault : ConstraintFault
  span : Span
  deriving DecidableEq, Repr

namespace Header

/-- A header without constraints. -/
def empty : Header := ⟨none, []⟩

/-- What a line of a header is. -/
inductive Line where
  /-- A blank line, or a comment that fits on the line and constrains nothing. -/
  | plain
  /-- A line after which a block comment is still open. -/
  | opens
  /-- The first line that is no longer part of the header. -/
  | ends
  /-- A constraint of the newer form. -/
  | expression (text : List Char)
  /-- A constraint of the older form. -/
  | options (text : List Char)
  deriving DecidableEq, Repr

/-- The rest of a line after the opening of a block comment. -/
def afterOpening (text : List Char) : Line :=
  match Text.cutAt ['*', '/'] text with
  | none => .opens
  | some (_, after) => if (trim after).isEmpty then .plain else .ends

/-- What a line comment holds. -/
def ofComment (comment : List Char) : Line :=
  match "go:build".toList.isPrefixOf? comment with
  | some text => if Text.opensBlank text then .expression (trim text) else .plain
  | none =>
    match "+build".toList.isPrefixOf? (trimStart comment) with
    | some text => if Text.opensBlank text then .options (trim text) else .plain
    | none => .plain

/-- Classify a line, given whether a block comment is open before it. -/
def classify (commentOpen : Bool) (line : List Char) : Line :=
  let text := trim line
  if commentOpen then
    afterOpening text
  else
    match text with
    | [] => .plain
    | '/' :: '*' :: rest => afterOpening rest
    | '/' :: '/' :: comment => ofComment comment
    | _ => .ends

/-- Cut the first line, with its newline, off a text. -/
def firstLine : List Char → List Char × List Char
  | [] => ([], [])
  | c :: rest =>
    if c = '\n' then ([c], rest)
    else
      let (line, others) := firstLine rest
      (c :: line, others)

/-- What is left after a line is no longer than what was left after its first character. -/
theorem length_firstLine_snd (c : Char) (rest : List Char) :
    (firstLine (c :: rest)).2.length ≤ rest.length := by
  induction rest generalizing c with
  | nil => by_cases newline : c = '\n' <;> simp [firstLine, newline]
  | cons next others ih =>
    by_cases newline : c = '\n'
    · simp [firstLine, newline]
    · have := ih next
      rw [firstLine]
      simp only [newline, if_false, List.length_cons]
      omega

/-- Read the lines of a header from an offset on, adding to the constraints found so far. -/
def scanFrom (offset : Nat) (commentOpen : Bool) (header : Header) :
    List Char → Except ConstraintError Header
  | [] => .ok header
  | c :: rest =>
    let line := (firstLine (c :: rest)).1
    let next := offset + byteLength line
    match classify commentOpen line with
    | .plain => scanFrom next false header (firstLine (c :: rest)).2
    | .opens => scanFrom next true header (firstLine (c :: rest)).2
    | .ends => .ok header
    | .expression text =>
      let span : Span := ⟨offset, offset + byteLength (trimEnd line)⟩
      if header.expression.isSome then .error ⟨.repeated, span⟩
      else
        scanFrom next false { header with expression := some (text, span) }
          (firstLine (c :: rest)).2
    | .options text =>
      scanFrom next false { header with options := header.options ++ [text] }
        (firstLine (c :: rest)).2
  termination_by text => text.length
  decreasing_by
    all_goals
      have := length_firstLine_snd c rest
      simp only [List.length_cons]
      omega

/-- The header of a source text. -/
def ofSource (source : List Char) : Except ConstraintError Header :=
  scanFrom 0 false empty source

end Header

namespace Context

/-- Whether a term of the older form holds: a tag, or a tag after an exclamation mark. -/
def satisfiesTerm (context : Context) : List Char → Bool
  | '!' :: tag => !context.satisfies (String.ofList tag)
  | tag => context.satisfies (String.ofList tag)

/-- Whether a line of the older form holds: one of its options does, all of whose terms hold. -/
def satisfiesOptions (context : Context) (line : List Char) : Bool :=
  (Text.words line).any fun option => (option.splitOn ',').all context.satisfiesTerm

/-- Whether the constraints in the header of a source text hold. -/
def admitsSource (context : Context) (source : List Char) : Except ConstraintError Bool := do
  let header ← Header.ofSource source
  match header.expression with
  | some (text, span) =>
    match Expression.ofText text with
    | .ok expression => return expression.holds context
    | .error fault => throw ⟨fault, span⟩
  | none => return header.options.all context.satisfiesOptions

end Context

end GoUnion.Build
