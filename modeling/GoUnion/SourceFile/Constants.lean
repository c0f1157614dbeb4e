import GoUnion.SourceFile
import GoUnion.Token.Reader
import GoUnion.TypeExpr.Reader

/-!
# Constant declarations

A group of constants is read as a list of specifications, each with its names
and perhaps a list of expressions, and is evaluated afterwards.  A
specification without expressions repeats those of the one before it, and the
position of a specification in its group is the value of `iota` there.
-/

namespace GoUnion

/-- An expression that is not parsed. -/
abbrev ConstantExpr : Type := List Token

/-- One specification of a constant declaration. -/
structure ConstantSpec where
  identifiers : List Identifier
  expressions : Option (List ConstantExpr)

namespace ConstantSpec

/-- The value of an expression that is one integer literal or `iota`. -/
def evaluate (iota : Nat) : ConstantExpr → ConstantValue
  | [token] =>
    if token.kind = .number then
      match Literal.constant? token.text with
      | some value => .integer value
      | none => .unknown
    else if token.kind = .identifier ∧ token.text = "iota" then .integer (UInt64.ofNat iota)
    else .unknown
  | _ => .unknown

/-- The constants that names and expressions declare at a position. -/
def declare (iota : Nat) : List Identifier → List ConstantExpr → List ConstantDeclaration
  | [], _ => []
  | identifier :: identifiers, [] => ⟨identifier, .unknown⟩ :: declare iota identifiers []
  | identifier :: identifiers, expression :: expressions =>
    ⟨identifier, evaluate iota expression⟩ :: declare iota identifiers expressions

/-- The constants of the specifications from a position on, given the expressions in force. -/
def declareFrom (iota : Nat) (previous : List ConstantExpr) :
    List ConstantSpec → List ConstantDeclaration
  | [] => []
  | spec :: specs =>
    let expressions := spec.expressions.getD previous
    declare iota spec.identifiers expressions ++ declareFrom (iota + 1) expressions specs

/-- The constants of a group of specifications. -/
def declareAll (specs : List ConstantSpec) : List ConstantDeclaration :=
  declareFrom 0 [] specs

end ConstantSpec

namespace Reader

/-- Put a token in front of the first of several expressions. -/
def intoFirst (token : Token) : List ConstantExpr → List ConstantExpr
  | [] => [[token]]
  | first :: others => (token :: first) :: others

/-- Read on after a token of an expression. -/
def extend {token : Token} {rest : List Token}
    (addTo : List ConstantExpr → List ConstantExpr)
    (result : Except SyntaxError (List ConstantExpr × Remainder rest)) :
    Except SyntaxError (List ConstantExpr × Remainder (token :: rest)) :=
  result.map fun (expressions, final) => (addTo expressions, final.behind token)

/-- Expressions with commas between them, up to the end of the specification.  The depth counts
the groups that are open. -/
def expressions (depth : Nat) : (tokens : List Token) →
    Except SyntaxError (List ConstantExpr × Remainder tokens)
  | [] => .error (unexpected .expression [])
  | token :: rest =>
    match token.kind with
    | .endOfFile => .error (unexpected .expression (token :: rest))
    | .symbol mark =>
      if depth = 0 ∧ (mark = .semicolon ∨ mark = .rightParen) then
        .ok ([[]], .all (token :: rest))
      else if depth = 0 ∧ mark = .comma then extend ([] :: ·) (expressions 0 rest)
      else if mark.opens then extend (intoFirst token) (expressions (depth + 1) rest)
      else if mark.closes then extend (intoFirst token) (expressions (depth - 1) rest)
      else extend (intoFirst token) (expressions depth rest)
    | _ => extend (intoFirst token) (expressions depth rest)

/-- Skip the type of a constant, if there is one. -/
def constantType (source : List Char) (tokens : List Token) :
    Except SyntaxError (Remainder tokens) :=
  match kind tokens with
  | .symbol .assign | .symbol .semicolon | .symbol .rightParen => .ok (.all tokens)
  | _ => do
    let (_, rest) ← typeExpr source tokens
    return rest.toRemainder

/-- One specification of a constant declaration. -/
def constantSpec (source : List Char) (tokens : List Token) : Read ConstantSpec tokens := do
  let (names, ⟨afterNames, shorter⟩) ← identifiers tokens
  let afterType ← constantType source afterNames
  match eat? (.symbol .assign) afterType.1 with
  | none => return (⟨names, none⟩, afterType.after shorter)
  | some ⟨afterAssign, shorter'⟩ =>
    let (values, rest) ← expressions 0 afterAssign
    return (⟨names, some values⟩,
      ((rest.after shorter').toRemainder.within afterType.2).after shorter)

end Reader

end GoUnion
