import GoUnion.Build.Context
import GoUnion.Text.Alphabetic
import GoUnion.Text.Blank
import GoUnion.Text.Escaped

/-!
# Build expressions

The expressions of build constraints: tags joined by negation, conjunction and
disjunction, in that order of strength, with parentheses and free white space.
Both binary operators group to the left.
-/

namespace GoUnion.Build

/-- An expression over tags. -/
inductive Expression where
  | tag (name : String)
  | not (operand : Expression)
  | and (left right : Expression)
  | or (left right : Expression)
  deriving DecidableEq, Repr

/-- The causes of malformed build constraints. -/
inductive ConstraintFault where
  | repeated
  | empty
  | trailing (text : String)
  | unexpected (c : Char)
  | endOfExpression
  | unclosed
  deriving DecidableEq, Repr

/-- The wording of a fault. -/
def ConstraintFault.message : ConstraintFault → String
  | .repeated => "multiple //go:build comments"
  | .empty => "empty //go:build expression"
  | .trailing text => s!"unexpected {Text.quoted text}"
  | .unexpected c => s!"unexpected {Text.quotedChar c}"
  | .endOfExpression => "unexpected end of expression"
  | .unclosed => "missing )"

namespace Expression

/-- The truth value of an expression on a platform. -/
def holds (context : Context) : Expression → Bool
  | .tag name => context.satisfies name
  | .not operand => !operand.holds context
  | .and left right => left.holds context && right.holds context
  | .or left right => left.holds context || right.holds context

/-- Whether a character belongs to a tag. -/
def inTag (c : Char) : Bool :=
  Text.isAlphanumeric c || c = '_' || c = '.'

/-- What is left of a text after white space and an operator, if the operator comes next. -/
def after? (operator text : List Char) : Option { rest : List Char // rest.length < text.length } :=
  match operator.isPrefixOf? (Text.trimStart text) with
  | none => none
  | some rest => if shorter : rest.length < text.length then some ⟨rest, shorter⟩ else none

/-- The result of reading a value from a text. -/
abbrev Read (α : Type) (text : List Char) : Type :=
  Except ConstraintFault (α × { rest : List Char // rest.length < text.length })

/-- A tag. -/
def readTag (text : List Char) : Read Expression text :=
  let start := Text.trimStart text
  match start with
  | [] => .error .endOfExpression
  | c :: _ =>
    if inTag c then
      let rest := start.dropWhile inTag
      if shorter : rest.length < text.length then
        .ok (.tag (String.ofList (start.takeWhile inTag)), ⟨rest, shorter⟩)
      else .error .endOfExpression
    else .error (.unexpected c)

mutual

/-- A disjunction. -/
def readOr (text : List Char) : Read Expression text := do
  let (first, ⟨rest, _⟩) ← readAnd text
  let (expression, ⟨final, _⟩) ← moreOr first rest
  return (expression, ⟨final, by omega⟩)
  termination_by 8 * text.length + 2

/-- The operands that a disjunction goes on with. -/
def moreOr (left : Expression) (text : List Char) :
    Except ConstraintFault (Expression × { rest : List Char // rest.length ≤ text.length }) :=
  match after? ['|', '|'] text with
  | none => .ok (left, ⟨text, Nat.le_refl _⟩)
  | some ⟨operand, _⟩ => do
    let (right, ⟨rest, _⟩) ← readAnd operand
    let (expression, ⟨final, _⟩) ← moreOr (.or left right) rest
    return (expression, ⟨final, by omega⟩)
  termination_by 8 * text.length + 3

/-- A conjunction. -/
def readAnd (text : List Char) : Read Expression text := do
  let (first, ⟨rest, _⟩) ← readNot text
  let (expression, ⟨final, _⟩) ← moreAnd first rest
  return (expression, ⟨final, by omega⟩)
  termination_by 8 * text.length + 1

/-- The operands that a conjunction goes on with. -/
def moreAnd (left : Expression) (text : List Char) :
    Except ConstraintFault (Expression × { rest : List Char // rest.length ≤ text.length }) :=
  match after? ['&', '&'] text with
  | none => .ok (left, ⟨text, Nat.le_refl _⟩)
  | some ⟨operand, _⟩ => do
    let (right, ⟨rest, _⟩) ← readNot operand
    let (expression, ⟨final, _⟩) ← moreAnd (.and left right) rest
    return (expression, ⟨final, by omega⟩)
  termination_by 8 * text.length + 3

/-- A negation, a group or a tag. -/
def readNot (text : List Char) : Read Expression text :=
  match after? ['!'] text with
  | some ⟨operand, _⟩ => do
    let (expression, ⟨rest, _⟩) ← readNot operand
    return (.not expression, ⟨rest, by omega⟩)
  | none =>
    match after? ['('] text with
    | none => readTag text
    | some ⟨inner, _⟩ => do
      let (expression, ⟨closing, _⟩) ← readOr inner
      match after? [')'] closing with
      | none => throw .unclosed
      | some ⟨rest, _⟩ => return (expression, ⟨rest, by omega⟩)
  termination_by 8 * text.length

end

/-- The expression that a whole text holds. -/
def ofText (text : List Char) : Except ConstraintFault Expression := do
  if (Text.trimStart text).isEmpty then throw .empty
  let (expression, ⟨rest, _⟩) ← readOr text
  let trailing := Text.trimStart rest
  if trailing.isEmpty then return expression
  else throw (.trailing (String.ofList trailing))

end Expression

end GoUnion.Build
