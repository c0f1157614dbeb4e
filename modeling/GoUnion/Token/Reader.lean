import GoUnion.SyntaxError
import GoUnion.TypeExpr

/-!
# Reading tokens in order

A reader takes the tokens that are left and returns what it read with the
tokens after it.  The result carries the proof that tokens were used up, which
is what makes the recursion of the grammar end.  The list of tokens always ends
with the token for the end of the file; readers never go past it.
-/

namespace GoUnion.Reader

open Text (Span)

/-- A proper remainder of a list of tokens. -/
abbrev Shorter (tokens : List Token) : Type :=
  { rest : List Token // rest.length < tokens.length }

/-- A remainder of a list of tokens. -/
abbrev Remainder (tokens : List Token) : Type :=
  { rest : List Token // rest.length ≤ tokens.length }

/-- All of a list of tokens. -/
def Remainder.all (tokens : List Token) : Remainder tokens :=
  ⟨tokens, Nat.le_refl _⟩

/-- A remainder of the tokens behind the first. -/
def Remainder.behind (token : Token) {tail : List Token} (rest : Remainder tail) :
    Remainder (token :: tail) :=
  ⟨rest.1, Nat.le_succ_of_le rest.2⟩

/-- A remainder of the tokens behind the first is proper. -/
def Remainder.past (token : Token) {tail : List Token} (rest : Remainder tail) :
    Shorter (token :: tail) :=
  ⟨rest.1, Nat.lt_succ_of_le rest.2⟩

/-- A remainder of a remainder. -/
def Remainder.within {inner tokens : List Token} (rest : Remainder inner)
    (bound : inner.length ≤ tokens.length) : Remainder tokens :=
  ⟨rest.1, Nat.le_trans rest.2 bound⟩

/-- A remainder of a proper remainder. -/
def Remainder.after {inner tokens : List Token} (rest : Remainder inner)
    (shorter : inner.length < tokens.length) : Shorter tokens :=
  ⟨rest.1, Nat.lt_of_le_of_lt rest.2 shorter⟩

/-- A proper remainder, taken as a remainder. -/
def Shorter.toRemainder {tokens : List Token} (rest : Shorter tokens) : Remainder tokens :=
  ⟨rest.1, Nat.le_of_lt rest.2⟩

/-- A proper remainder of a proper remainder. -/
def Shorter.after {inner tokens : List Token} (rest : Shorter inner)
    (shorter : inner.length < tokens.length) : Shorter tokens :=
  rest.toRemainder.after shorter

/-- The result of reading a value from some tokens. -/
abbrev Read (α : Type) (tokens : List Token) : Type :=
  Except SyntaxError (α × Shorter tokens)

/-- The token that comes next. -/
def current (tokens : List Token) : Token :=
  tokens.headD (.endOfFile 0)

/-- The kind of the token at an index. -/
def kindAt (index : Nat) (tokens : List Token) : TokenKind :=
  ((tokens[index]?).map (·.kind)).getD .endOfFile

/-- The kind of the token that comes next. -/
def kind (tokens : List Token) : TokenKind := kindAt 0 tokens

/-- The error that the next token is not what the grammar asks for. -/
def unexpected (expected : Expectation) (tokens : List Token) : SyntaxError :=
  .unexpected expected (current tokens)

/-- Take the next token if it has a certain kind. -/
def take? (wanted : TokenKind) : (tokens : List Token) → Option (Token × Shorter tokens)
  | [] => none
  | token :: rest => if token.kind = wanted then some (token, ⟨rest, by simp⟩) else none

/-- Skip the next token if it has a certain kind. -/
def eat? (wanted : TokenKind) (tokens : List Token) : Option (Shorter tokens) :=
  (take? wanted tokens).map (·.2)

/-- Skip the next token if it has a certain kind, and say whether it had. -/
def eat (wanted : TokenKind) (tokens : List Token) : Bool × Remainder tokens :=
  match eat? wanted tokens with
  | some rest => (true, rest.toRemainder)
  | none => (false, .all tokens)

/-- Take the next token, which must have a certain kind. -/
def expect (wanted : TokenKind) (tokens : List Token) : Read Token tokens :=
  match take? wanted tokens with
  | some result => .ok result
  | none => .error (unexpected (.token wanted) tokens)

/-- Take an identifier. -/
def identifier (tokens : List Token) : Read Identifier tokens := do
  let (token, rest) ← expect .identifier tokens
  return (⟨token.text, token.span⟩, rest)

/-- Further identifiers, each after a comma. -/
def moreIdentifiers (tokens : List Token) :
    Except SyntaxError (List Identifier × Remainder tokens) :=
  match eat? (.symbol .comma) tokens with
  | none => .ok ([], .all tokens)
  | some ⟨afterComma, shorter⟩ => do
    let (first, ⟨next, shorter'⟩) ← identifier afterComma
    let (others, rest) ← moreIdentifiers next
    return (first :: others, ((rest.after shorter').after shorter).toRemainder)
  termination_by tokens.length

/-- One or more identifiers with commas between them. -/
def identifiers (tokens : List Token) : Read (List Identifier) tokens := do
  let (first, ⟨next, shorter⟩) ← identifier tokens
  let (others, rest) ← moreIdentifiers next
  return (first :: others, rest.after shorter)

/-- Skip any number of semicolons. -/
def skipSemicolons : (tokens : List Token) → Remainder tokens
  | [] => .all []
  | token :: rest =>
    if token.kind = .symbol .semicolon then .behind token (skipSemicolons rest)
    else .all (token :: rest)

/-- The end of a declaration: a semicolon, or nothing in front of the closing token. -/
def terminator (closing : TokenKind) (tokens : List Token) :
    Except SyntaxError (Remainder tokens) :=
  match eat? (.symbol .semicolon) tokens with
  | some rest => .ok rest.toRemainder
  | none =>
    if kind tokens = closing then .ok (.all tokens)
    else .error (unexpected .terminator tokens)

/-- Items up to a closing token, each with its terminator.  The bound says which tokens the
reader of an item is called on. -/
def items {α : Type} (closing : TokenKind) (bound : Nat)
    (item : (tokens : List Token) → tokens.length ≤ bound → Read α tokens)
    (tokens : List Token) (within : tokens.length ≤ bound) : Read (List α) tokens :=
  match skipSemicolons tokens with
  | ⟨start, _⟩ =>
    match eat? closing start with
    | some ⟨rest, _⟩ => .ok ([], ⟨rest, by omega⟩)
    | none => do
      let (first, ⟨afterItem, _⟩) ← item start (by omega)
      let ⟨next, _⟩ ← terminator closing afterItem
      let (others, ⟨rest, _⟩) ← items closing bound item next (by omega)
      return (first :: others, ⟨rest, by omega⟩)
  termination_by tokens.length

/-- Items up to a closing token, each with its terminator, whose reader can be called on any
tokens. -/
def allItems {α : Type} (closing : TokenKind) (item : (tokens : List Token) → Read α tokens)
    (tokens : List Token) : Read (List α) tokens :=
  items closing tokens.length (fun inside _ => item inside) tokens (Nat.le_refl _)

/-- The tokens inside an open group and the tokens from its closing token on.  Groups inside are
counted, but which kind of bracket closes which is not compared. -/
def closeGroup? : (depth : Nat) → List Token → Option (List Token × List Token)
  | _, [] => none
  | depth, token :: rest =>
    match token.kind with
    | .endOfFile => none
    | .symbol mark =>
      if mark.opens then
        (closeGroup? (depth + 1) rest).map fun (inside, after) => (token :: inside, after)
      else if mark.closes then
        match depth with
        | 0 => some ([], token :: rest)
        | depth + 1 =>
          (closeGroup? depth rest).map fun (inside, after) => (token :: inside, after)
      else (closeGroup? depth rest).map fun (inside, after) => (token :: inside, after)
    | _ => (closeGroup? depth rest).map fun (inside, after) => (token :: inside, after)

/-- The tokens from the closing token on are a remainder. -/
theorem length_le_of_closeGroup? {depth : Nat} {tokens inside after : List Token}
    (closed : closeGroup? depth tokens = some (inside, after)) :
    after.length ≤ tokens.length := by
  induction tokens generalizing depth inside with
  | nil => simp [closeGroup?] at closed
  | cons token rest ih =>
    simp only [closeGroup?] at closed
    repeat' split at closed
    all_goals
      simp only [Option.map_eq_some_iff, Option.some.injEq, Prod.mk.injEq, reduceCtorEq,
        Prod.exists] at closed
      try
        obtain ⟨_, rfl⟩ := closed
        simp
      try
        obtain ⟨_, _, inner, _, rfl⟩ := closed
        have := ih inner
        simp only [List.length_cons]
        omega

/-- The span from the first of some tokens to the last one used up when others remain. -/
def spanTo (tokens rest : List Token) : Span :=
  let used := tokens.take (tokens.length - rest.length)
  let start := (current tokens).span.start
  ⟨start, ((used.getLast?.map (·.span.stop)).getD start).max start⟩

end GoUnion.Reader
