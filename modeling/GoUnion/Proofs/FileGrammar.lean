import GoUnion.Proofs.Grammar
import GoUnion.SourceFile.Reader

/-!
# The grammar of source files

What forms a source file, stated on tokens alone as the grammar of types is.
The token for the end of the file is not part of any piece.  A piece at the very
end of a file needs no semicolon behind it, so every piece says what it ends
with; a constant with neither a type nor a value cannot stand there.

The expressions of a constant are not parsed and the declarations of functions
and variables are passed over.  Both are described by counting brackets, as
everything else that does not depend on what the tokens mean.
-/

namespace GoUnion.Reader

/-- The end of a piece, given the tokens behind it up to the end of the file. -/
inductive Ending : List Token → List Token → Prop where
  | semicolon {mark : Token} {next : List Token}
      (isMark : mark.kind = .symbol .semicolon) :
      Ending [mark] next
  | endOfFile :
      Ending [] []

/-- Whether the file ends where a piece does. -/
def atEnd (ending : List Token) : Bool :=
  ending.isEmpty

/-- A single item, or several between parentheses.  What an item is may depend on whether the
file ends behind it. -/
inductive Grouped {α : Type} (Item : Bool → List Token → α → Prop)
    (last : Bool) : List Token → List α → Prop where
  | single {tokens : List Token} {value : α}
      (noParens : kind tokens ≠ .symbol .leftParen)
      (reads : Item last tokens value) :
      Grouped Item last tokens [value]
  | several {opening : Token} {tokens : List Token}
      {parts : List (List Token × α)}
      (opens : opening.kind = .symbol .leftParen)
      (enclosed :
        Enclosed (.symbol .rightParen) (parts.map (·.1)) tokens)
      (reads : ∀ part ∈ parts, Item false part.1 part.2) :
      Grouped Item last (opening :: tokens) (parts.map (·.2))

/-- An import: a path, perhaps after a local name. -/
inductive ReadsImport : Bool → List Token → ImportSpec → Prop where
  | plain {last : Bool} {literal : Token} {path : String}
      (isPath : Tagged [literal] (some path)) :
      ReadsImport last [literal] ⟨none, path, spanTo [literal] []⟩
  | named {last : Bool} {name literal : Token} {path : String}
      (isName :
        name.kind = .identifier ∨ name.kind = .symbol .dot)
      (isPath : Tagged [literal] (some path)) :
      ReadsImport last [name, literal]
        ⟨some (identifierOf name), path, spanTo [name, literal] []⟩

/-- Type parameters and the closing bracket, after names that wait for a constraint. -/
inductive ReadsParameters (source : List Char) :
    List Identifier → List Token → List TypeParameterExpr → Prop where
  | close {closing : Token}
      (isClosing : closing.kind = .symbol .rightBracket) :
      ReadsParameters source [] [closing] []
  | name {pending : List Identifier} {name comma : Token}
      {tokens : List Token} {parameters : List TypeParameterExpr}
      (isName : name.kind = .identifier)
      (isComma : comma.kind = .symbol .comma)
      (later :
        ReadsParameters source (pending ++ [identifierOf name]) tokens
          parameters) :
      ReadsParameters source pending (name :: comma :: tokens) parameters
  | constrained {pending : List Identifier} {name comma : Token}
      {constraintTokens tokens : List Token} {constraint : TypeExpr}
      {parameters : List TypeParameterExpr}
      (isName : name.kind = .identifier)
      (reads : Reads source constraintTokens (.constraint constraint))
      (isComma : comma.kind = .symbol .comma)
      (later : ReadsParameters source [] tokens parameters) :
      ReadsParameters source pending
        (name :: (constraintTokens ++ comma :: tokens))
        ((pending ++ [identifierOf name]).map (⟨·, constraint⟩) ++
          parameters)
  | last {pending : List Identifier} {name closing : Token}
      {constraintTokens : List Token} {constraint : TypeExpr}
      (isName : name.kind = .identifier)
      (reads : Reads source constraintTokens (.constraint constraint))
      (isClosing : closing.kind = .symbol .rightBracket) :
      ReadsParameters source pending
        (name :: (constraintTokens ++ [closing]))
        ((pending ++ [identifierOf name]).map (⟨·, constraint⟩))

/-- The type parameters of a declared type, given what follows them in the declaration. -/
inductive ReadsTypeParameters (source : List Char) (next : List Token) :
    List Token → List TypeParameterExpr → Prop where
  | none
      (closed : opensParameters next = false) :
      ReadsTypeParameters source next [] []
  | list {opening : Token} {tokens : List Token}
      {parameters : List TypeParameterExpr}
      (opens : opensParameters (opening :: tokens) = true)
      (reads : ReadsParameters source [] tokens parameters) :
      ReadsTypeParameters source next (opening :: tokens) parameters

/-- The equals sign of an alias. -/
inductive AliasMark : List Token → Bool → Prop where
  | absent :
      AliasMark [] false
  | present {mark : Token}
      (isMark : mark.kind = .symbol .assign) :
      AliasMark [mark] true

/-- A declared type. -/
inductive ReadsTypeDeclaration (source : List Char) :
    Bool → List Token → TypeDeclaration → Prop where
  | declare {last : Bool} {name : Token}
      {parameterTokens markTokens typeTokens : List Token}
      {parameters : List TypeParameterExpr} {isAlias : Bool}
      {type : TypeExpr}
      (isName : name.kind = .identifier)
      (readsParameters :
        ReadsTypeParameters source (markTokens ++ typeTokens)
          parameterTokens parameters)
      (mark : AliasMark markTokens isAlias)
      (reads : Reads source typeTokens (.type type)) :
      ReadsTypeDeclaration source last
        (name :: (parameterTokens ++ (markTokens ++ typeTokens)))
        ⟨identifierOf name, parameters, isAlias, type⟩

/-- The expressions with commas between them that some tokens form, with the given number of
groups open. -/
def expressionsOf (depth : Nat) : List Token → Option (List ConstantExpr)
  | [] => if depth = 0 then some [[]] else none
  | token :: rest =>
    match token.kind with
    | .endOfFile => none
    | .symbol mark =>
      if depth = 0 ∧ (mark = .semicolon ∨ mark = .rightParen) then none
      else if depth = 0 ∧ mark = .comma then
        (expressionsOf 0 rest).map ([] :: ·)
      else if mark.opens then
        (expressionsOf (depth + 1) rest).map (intoFirst token)
      else if mark.closes then
        (expressionsOf (depth - 1) rest).map (intoFirst token)
      else (expressionsOf depth rest).map (intoFirst token)
    | _ => (expressionsOf depth rest).map (intoFirst token)

/-- The optional type of a constant. -/
inductive ConstantType (source : List Char) : List Token → Prop where
  | absent :
      ConstantType source []
  | present {tokens : List Token} {type : TypeExpr}
      (reads : Reads source tokens (.type type)) :
      ConstantType source tokens

/-- One specification of a constant declaration. -/
inductive ReadsConstant (source : List Char) :
    Bool → List Token → ConstantSpec → Prop where
  | names {tokens : List Token} {names : List Identifier}
      (areNames : Names tokens names) :
      ReadsConstant source false tokens ⟨names, none⟩
  | typed {last : Bool} {nameTokens tokens : List Token}
      {names : List Identifier} {type : TypeExpr}
      (areNames : Names nameTokens names)
      (reads : Reads source tokens (.type type)) :
      ReadsConstant source last (nameTokens ++ tokens) ⟨names, none⟩
  | valued {nameTokens typeTokens tokens : List Token} {mark : Token}
      {names : List Identifier} {values : List ConstantExpr}
      (areNames : Names nameTokens names)
      (hasType : ConstantType source typeTokens)
      (isMark : mark.kind = .symbol .assign)
      (areValues : expressionsOf 0 tokens = some values) :
      ReadsConstant source false
        (nameTokens ++ (typeTokens ++ mark :: tokens))
        ⟨names, some values⟩

/-- The number of open groups after a token of a declaration that is passed over.  There is none
where the declaration ends. -/
def passAfter (depth : Nat) (token : Token) : Option Nat :=
  if depth = 0 ∧ token.kind = .symbol .semicolon then none
  else depthAfter depth token

/-- The number of open groups after some tokens of such a declaration. -/
def passing (depth : Nat) (tokens : List Token) : Option Nat :=
  tokens.foldlM passAfter depth

/-- A declaration after the imports. -/
inductive ReadsDeclaration (source : List Char) (last : Bool) :
    List Token → Declaration → Prop where
  | types {word : Token} {tokens : List Token}
      {declared : List TypeDeclaration}
      (isType : word.kind = .keyword .type)
      (grouped :
        Grouped (ReadsTypeDeclaration source) last tokens declared) :
      ReadsDeclaration source last (word :: tokens) (.types declared)
  | constants {word : Token} {tokens : List Token}
      {specs : List ConstantSpec}
      (isConst : word.kind = .keyword .const)
      (grouped : Grouped (ReadsConstant source) last tokens specs) :
      ReadsDeclaration source last (word :: tokens)
        (.constants (ConstantSpec.declareAll specs))
  | skipped {word : Token} {tokens : List Token}
      (isWord : word.kind = .keyword .var ∨ word.kind = .keyword .func)
      (passed : passing 0 tokens = some 0) :
      ReadsDeclaration source last (word :: tokens) .skipped

/-- The declarations up to the end of a file. -/
inductive ReadsDeclarations (source : List Char) :
    List Token → List Declaration → Prop where
  | done {semicolons : List Token}
      (leading : Semicolons semicolons) :
      ReadsDeclarations source semicolons []
  | more {semicolons tokens ending next : List Token}
      {first : Declaration} {others : List Declaration}
      (leading : Semicolons semicolons)
      (reads : ReadsDeclaration source (atEnd ending) tokens first)
      (ends : Ending ending next)
      (later : ReadsDeclarations source next others) :
      ReadsDeclarations source
        (semicolons ++ (tokens ++ (ending ++ next))) (first :: others)

/-- The imports and the declarations up to the end of a file. -/
inductive ReadsImports (source : List Char) :
    List Token → List ImportSpec → List Declaration → Prop where
  | none {tokens : List Token} {declarations : List Declaration}
      (later : ReadsDeclarations source tokens declarations) :
      ReadsImports source tokens [] declarations
  | more {semicolons tokens ending next : List Token} {word : Token}
      {first others : List ImportSpec} {declarations : List Declaration}
      (leading : Semicolons semicolons)
      (isImport : word.kind = .keyword .import)
      (grouped : Grouped ReadsImport (atEnd ending) tokens first)
      (ends : Ending ending next)
      (later : ReadsImports source next others declarations) :
      ReadsImports source
        (semicolons ++ word :: (tokens ++ (ending ++ next)))
        (first ++ others) declarations

/-- A source file up to its end. -/
inductive ReadsFile (source : List Char) :
    List Token → SourceFile → Prop where
  | file {semicolons ending next : List Token} {word name : Token}
      {imports : List ImportSpec} {declarations : List Declaration}
      (leading : Semicolons semicolons)
      (isPackage : word.kind = .keyword .package)
      (isName : name.kind = .identifier)
      (ends : Ending ending next)
      (later : ReadsImports source next imports declarations) :
      ReadsFile source (semicolons ++ word :: name :: (ending ++ next))
        (.ofDeclarations (identifierOf name) imports declarations)

end GoUnion.Reader
