import GoUnion.SourceFile.Constants
import GoUnion.Token.Source

/-!
# Reading source files

A source file is a package clause, then imports, then declarations.  Functions
and variables are passed over by counting brackets, so what stands in a
function body never matters.
-/

namespace GoUnion

open Text (Span)

namespace Reader

/-- A single item, or several between parentheses, with the terminator after them. -/
def group {α : Type} (item : (tokens : List Token) → Read α tokens) (tokens : List Token) :
    Read (List α) tokens :=
  match eat? (.symbol .leftParen) tokens with
  | some ⟨inner, shorter⟩ => do
    let (members, ⟨closing, shorter'⟩) ← allItems (.symbol .rightParen) item inner
    let rest ← terminator .endOfFile closing
    return (members, (rest.after shorter').after shorter)
  | none => do
    let (member, ⟨closing, shorter⟩) ← item tokens
    let rest ← terminator .endOfFile closing
    return ([member], rest.after shorter)

/-- The local name of an import, if it has one. -/
def importName (tokens : List Token) : Option (Identifier × Shorter tokens) :=
  ((take? .identifier tokens).or (take? (.symbol .dot) tokens)).map fun (token, rest) =>
    (⟨token.text, token.span⟩, rest)

/-- A string literal in the role of an import path. -/
def importPath (tokens : List Token) : Read String tokens :=
  match (take? .string tokens).or (take? .rawString tokens) with
  | none => .error (unexpected .importPath tokens)
  | some (token, rest) =>
    match Literal.unquote? token.text with
    | some path => .ok (path, rest)
    | none => .error ⟨.importPathLiteral, token.span⟩

/-- An import. -/
def importSpec (tokens : List Token) : Read ImportSpec tokens :=
  match importName tokens with
  | some (name, ⟨afterName, shorter⟩) => do
    let (path, rest) ← importPath afterName
    return (⟨some name, path, spanTo tokens rest⟩, rest.after shorter)
  | none => do
    let (path, rest) ← importPath tokens
    return (⟨none, path, spanTo tokens rest⟩, rest)

/-- Whether the bracket after the name of a declared type opens type parameters rather than the
length of an array. -/
def opensParameters (tokens : List Token) : Bool :=
  kind tokens = .symbol .leftBracket && kindAt 1 tokens = .identifier &&
    match kindAt 2 tokens with
    | .identifier => true
    | .symbol mark =>
      match mark with
      | .comma | .tilde | .leftBracket | .arrow => true
      | _ => false
    | .keyword word =>
      match word with
      | .interface | .func | .map | .chan | .struct => true
      | _ => false
    | _ => false

/-- Type parameters up to the closing bracket.  The names that still wait for a constraint come
first. -/
def parametersFrom (source : List Char) (pending : List Identifier) (tokens : List Token) :
    Read (List TypeParameterExpr) tokens :=
  match eat? (.symbol .rightBracket) tokens with
  | some rest =>
    if pending.isEmpty then .ok ([], rest)
    else .error (unexpected .constraint rest)
  | none => do
    let (name, ⟨afterName, byName⟩) ← identifier tokens
    match eat? (.symbol .comma) afterName with
    | some ⟨afterComma, byComma⟩ =>
      let (parameters, rest) ← parametersFrom source (pending ++ [name]) afterComma
      return (parameters, (rest.after byComma).after byName)
    | none =>
      let (constraint, ⟨afterConstraint, byConstraint⟩) ← constraintExpr source afterName
      let named := (pending ++ [name]).map (⟨·, constraint⟩)
      match eat? (.symbol .comma) afterConstraint with
      | some ⟨afterComma, byComma⟩ =>
        let (parameters, rest) ← parametersFrom source [] afterComma
        return (named ++ parameters, ((rest.after byComma).after byConstraint).after byName)
      | none =>
        let (_, rest) ← expect (.symbol .rightBracket) afterConstraint
        return (named, (rest.after byConstraint).after byName)
  termination_by tokens.length

/-- The type parameters of a declared type, if a bracket opens them. -/
def typeParameters (source : List Char) (tokens : List Token) :
    Except SyntaxError (List TypeParameterExpr × Remainder tokens) :=
  if opensParameters tokens then do
    let (_, ⟨inner, shorter⟩) ← expect (.symbol .leftBracket) tokens
    let (parameters, rest) ← parametersFrom source [] inner
    return (parameters, (rest.after shorter).toRemainder)
  else
    .ok ([], .all tokens)

/-- A declared type. -/
def typeDeclaration (source : List Char) (tokens : List Token) :
    Read TypeDeclaration tokens := do
  let (name, ⟨afterName, shorter⟩) ← identifier tokens
  let (parameters, ⟨afterParameters, bound⟩) ← typeParameters source afterName
  match eat (.symbol .assign) afterParameters with
  | (isAlias, ⟨typed, bound'⟩) =>
    let (type, rest) ← typeExpr source typed
    return (⟨name, parameters, isAlias, type⟩,
      ((rest.toRemainder.within bound').within bound).after shorter)

/-- Pass over the tokens of a declaration up to its end, with the given number of groups open. -/
def skipDeclaration (start : Span) (depth : Nat) : (tokens : List Token) →
    Except SyntaxError (Remainder tokens)
  | [] => if depth = 0 then .ok (.all []) else .error ⟨.openDeclaration, start⟩
  | token :: rest =>
    let pass (result : Except SyntaxError (Remainder rest)) :
        Except SyntaxError (Remainder (token :: rest)) :=
      result.map (·.behind token)
    match token.kind with
    | .endOfFile =>
      if depth = 0 then .ok (.all (token :: rest))
      else .error ⟨.openDeclaration, start⟩
    | .symbol mark =>
      if depth = 0 ∧ mark = .semicolon then .ok (.behind token (.all rest))
      else if mark.opens then pass (skipDeclaration start (depth + 1) rest)
      else if mark.closes then
        if depth = 0 then .error (unexpected .declaration (token :: rest))
        else pass (skipDeclaration start (depth - 1) rest)
      else pass (skipDeclaration start depth rest)
    | _ => pass (skipDeclaration start depth rest)

/-- The imports of a file and the tokens after them. -/
def imports (tokens : List Token) : Except SyntaxError (List ImportSpec × Remainder tokens) :=
  match skipSemicolons tokens with
  | ⟨start, bound⟩ =>
    match eat? (.keyword .import) start with
    | none => .ok ([], Remainder.within (.all start) bound)
    | some ⟨inner, byKeyword⟩ => do
      let (specs, ⟨next, byGroup⟩) ← group importSpec inner
      let (others, rest) ← imports next
      return (specs ++ others,
        ((rest.after byGroup).after byKeyword).toRemainder.within bound)
  termination_by tokens.length

/-- The declarations of one keyword that matter to the loader. -/
inductive Declaration where
  | types (declarations : List TypeDeclaration)
  | constants (declarations : List ConstantDeclaration)
  | skipped

/-- One declaration after the imports. -/
def declaration (source : List Char) (tokens : List Token) :
    Read Declaration tokens :=
  match tokens with
  | [] => .error (unexpected .declaration [])
  | token :: rest =>
    match token.kind with
    | .keyword .type => do
      let (declared, final) ← group (typeDeclaration source) rest
      return (.types declared, final.toRemainder.past token)
    | .keyword .const => do
      let (specs, final) ← group (constantSpec source) rest
      return (.constants (ConstantSpec.declareAll specs), final.toRemainder.past token)
    | .keyword .var | .keyword .func => do
      let final ← skipDeclaration token.span 0 rest
      return (.skipped, final.past token)
    | .keyword .import => .error (unexpected .laterDeclaration (token :: rest))
    | _ => .error (unexpected .declaration (token :: rest))

/-- The declarations up to the end of the file. -/
def declarations (source : List Char) (tokens : List Token) :
    Except SyntaxError (List Declaration) :=
  match skipSemicolons tokens with
  | ⟨start, _⟩ =>
    if kind start = .endOfFile then .ok []
    else do
      let (first, ⟨next, _⟩) ← declaration source start
      let others ← declarations source next
      return first :: others
  termination_by tokens.length

end Reader

namespace SourceFile

open Reader

/-- The file with a package clause, imports and declarations. -/
def ofDeclarations (package : Identifier) (imports : List ImportSpec)
    (declarations : List Declaration) : SourceFile where
  package := package
  imports := imports
  types := declarations.flatMap fun
    | .types declared => declared
    | _ => []
  constants := declarations.flatMap fun
    | .constants declared => declared
    | _ => []

/-- The source file that some tokens of a text form. -/
def ofTokens (source : List Char) (tokens : List Token) : Except SyntaxError SourceFile := do
  let (_, ⟨named, _⟩) ← expect (.keyword .package) (skipSemicolons tokens).1
  let (package, ⟨afterName, _⟩) ← identifier named
  let ⟨afterClause, _⟩ ← terminator .endOfFile afterName
  let (imports, ⟨afterImports, _⟩) ← Reader.imports afterClause
  return ofDeclarations package imports (← declarations source afterImports)

/-- The source file that a text holds. -/
def ofSource (source : List Char) : Except SyntaxError SourceFile := do
  ofTokens source (← Token.ofSource source)

end SourceFile

end GoUnion
