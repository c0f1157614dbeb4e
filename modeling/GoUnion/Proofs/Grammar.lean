import GoUnion.TypeExpr.Reader

/-!
# The grammar of types

The relation `Reads` says which tokens form which piece of a type expression.
It is stated on the tokens of a piece alone: what follows the piece plays no
part, and neither do the rest of the tokens or the order in which a reader
tries its alternatives.  A piece is a `Phrase`, so that one relation covers all
nonterminals and one induction goes through all of them.

Spans and the text of an array length are those of the tokens of the piece.
-/

namespace GoUnion.Reader

/-- A piece of a type expression. -/
inductive Phrase where
  | type (expression : TypeExpr)
  /-- A type that is a name, together with its last identifier. -/
  | name (expression : TypeExpr) (last : Identifier)
  | function (expression : FunctionExpr)
  /-- Parameters between parentheses, and whether the last one is variadic. -/
  | parameters (allowed : Bool) (list : List ParameterExpr) (variadic : Bool)
  | entry (entry : ParameterEntry)
  /-- The fields of one declaration in a struct. -/
  | fields (list : List FieldExpr)
  | member (member : MemberExpr)
  | constraint (expression : TypeExpr)
  | term (term : TermExpr)

/-- The identifier that a token stands for. -/
def identifierOf (token : Token) : Identifier :=
  ⟨token.text, token.span⟩

/-- Pieces with a separator between them, and perhaps one more after the last. -/
inductive Separated (separator : TokenKind) (trailing : Bool) :
    List (List Token) → List Token → Prop where
  | last {piece : List Token} :
      Separated separator trailing [piece] piece
  | trailing {piece : List Token} {mark : Token}
      (allowed : trailing = true)
      (isMark : mark.kind = separator) :
      Separated separator trailing [piece] (piece ++ [mark])
  | cons {piece : List Token} {mark : Token}
      {pieces : List (List Token)} {tokens : List Token}
      (isMark : mark.kind = separator)
      (later : Separated separator trailing pieces tokens) :
      Separated separator trailing (piece :: pieces)
        (piece ++ mark :: tokens)

/-- Semicolons only. -/
def Semicolons (tokens : List Token) : Prop :=
  ∀ token ∈ tokens, token.kind = .symbol .semicolon

/-- Pieces up to a closing token, with semicolons between them and any number around them. -/
inductive Enclosed (closing : TokenKind) :
    List (List Token) → List Token → Prop where
  | close {semicolons : List Token} {mark : Token}
      (leading : Semicolons semicolons)
      (isClosing : mark.kind = closing) :
      Enclosed closing [] (semicolons ++ [mark])
  | last {semicolons piece : List Token} {mark : Token}
      (leading : Semicolons semicolons)
      (isClosing : mark.kind = closing) :
      Enclosed closing [piece] (semicolons ++ (piece ++ [mark]))
  | cons {semicolons piece : List Token} {mark : Token}
      {pieces : List (List Token)} {tokens : List Token}
      (leading : Semicolons semicolons)
      (isMark : mark.kind = .symbol .semicolon)
      (later : Enclosed closing pieces tokens) :
      Enclosed closing (piece :: pieces)
        (semicolons ++ (piece ++ mark :: tokens))

/-- Identifiers with commas between them. -/
inductive Names : List Token → List Identifier → Prop where
  | one {name : Token}
      (isName : name.kind = .identifier) :
      Names [name] [identifierOf name]
  | more {name comma : Token} {tokens : List Token}
      {identifiers : List Identifier}
      (isName : name.kind = .identifier)
      (isComma : comma.kind = .symbol .comma)
      (later : Names tokens identifiers) :
      Names (name :: comma :: tokens) (identifierOf name :: identifiers)

/-- An optional struct tag. -/
inductive Tagged : List Token → Option String → Prop where
  | absent : Tagged [] none
  | present {literal : Token} {text : String}
      (isLiteral : literal.kind = .string ∨ literal.kind = .rawString)
      (value : Literal.unquote? literal.text = some text) :
      Tagged [literal] (some text)

/-- Whether a token closes a group. -/
def closes (token : Token) : Bool :=
  match token.kind with
  | .symbol mark => mark.closes
  | _ => false

/-- The number of open groups after a token, given the number before it.  There is none where a
group is closed that is not open, or where the file ends. -/
def depthAfter (depth : Nat) (token : Token) : Option Nat :=
  match token.kind with
  | .endOfFile => none
  | .symbol mark =>
    if mark.opens then some (depth + 1)
    else if mark.closes then
      match depth with
      | 0 => none
      | depth + 1 => some depth
    else some depth
  | _ => some depth

/-- The number of open groups after some tokens. -/
def nesting (depth : Nat) (tokens : List Token) : Option Nat :=
  tokens.foldlM depthAfter depth

/-- The tokens that the length of an array takes up, its closing bracket included. -/
inductive LengthTokens (source : List Char) :
    List Token → ArrayLength → Prop where
  | ellipsis {dots closing : Token}
      (areDots : dots.kind = .symbol .ellipsis)
      (isClosing : closing.kind = .symbol .rightBracket) :
      LengthTokens source [dots, closing] .ellipsis
  | inside {inside : List Token} {closing : Token}
      {length : ArrayLength}
      (noEllipsis : ellipsis? (inside ++ [closing]) = none)
      (balanced : nesting 0 inside = some 0)
      (isClosing : closes closing = true)
      (isLength : lengthOf source inside = some length) :
      LengthTokens source (inside ++ [closing]) length

/-- Which tokens form which phrase. -/
inductive Reads (source : List Char) : List Token → Phrase → Prop where
  | named {tokens : List Token} {expression : TypeExpr}
      {last : Identifier}
      (reads : Reads source tokens (.name expression last)) :
      Reads source tokens (.type expression)
  | parens {opening closing : Token} {tokens : List Token}
      {expression : TypeExpr}
      (opens : opening.kind = .symbol .leftParen)
      (reads : Reads source tokens (.type expression))
      (closes : closing.kind = .symbol .rightParen) :
      Reads source (opening :: (tokens ++ [closing])) (.type expression)
  | pointer {star : Token} {tokens : List Token} {element : TypeExpr}
      (isStar : star.kind = .symbol .star)
      (reads : Reads source tokens (.type element)) :
      Reads source (star :: tokens)
        (.type (.pointer (spanTo (star :: tokens) []) element))
  | slice {opening closing : Token} {tokens : List Token}
      {element : TypeExpr}
      (opens : opening.kind = .symbol .leftBracket)
      (closes : closing.kind = .symbol .rightBracket)
      (reads : Reads source tokens (.type element)) :
      Reads source (opening :: closing :: tokens)
        (.type
          (.slice (spanTo (opening :: closing :: tokens) []) element))
  | array {opening : Token} {lengthTokens tokens : List Token}
      {length : ArrayLength} {element : TypeExpr}
      (opens : opening.kind = .symbol .leftBracket)
      (isLength : LengthTokens source lengthTokens length)
      (reads : Reads source tokens (.type element)) :
      Reads source (opening :: (lengthTokens ++ tokens))
        (.type
          (.array (spanTo (opening :: (lengthTokens ++ tokens)) [])
            length element))
  | map {word opening closing : Token} {keyTokens valueTokens : List Token}
      {key value : TypeExpr}
      (isMap : word.kind = .keyword .map)
      (opens : opening.kind = .symbol .leftBracket)
      (readsKey : Reads source keyTokens (.type key))
      (closes : closing.kind = .symbol .rightBracket)
      (readsValue : Reads source valueTokens (.type value)) :
      Reads source
        (word :: opening :: (keyTokens ++ closing :: valueTokens))
        (.type
          (.map
            (spanTo
              (word :: opening :: (keyTokens ++ closing :: valueTokens))
              [])
            key value))
  | channel {word : Token} {tokens : List Token} {element : TypeExpr}
      (isChan : word.kind = .keyword .chan)
      (noArrow : kind tokens ≠ .symbol .arrow)
      (reads : Reads source tokens (.type element)) :
      Reads source (word :: tokens)
        (.type (.channel (spanTo (word :: tokens) []) .both element))
  | sending {word arrow : Token} {tokens : List Token}
      {element : TypeExpr}
      (isChan : word.kind = .keyword .chan)
      (isArrow : arrow.kind = .symbol .arrow)
      (reads : Reads source tokens (.type element)) :
      Reads source (word :: arrow :: tokens)
        (.type
          (.channel (spanTo (word :: arrow :: tokens) []) .send element))
  | receiving {arrow word : Token} {tokens : List Token}
      {element : TypeExpr}
      (isArrow : arrow.kind = .symbol .arrow)
      (isChan : word.kind = .keyword .chan)
      (reads : Reads source tokens (.type element)) :
      Reads source (arrow :: word :: tokens)
        (.type
          (.channel (spanTo (arrow :: word :: tokens) [])
            .receive element))
  | functionType {word : Token} {tokens : List Token}
      {expression : FunctionExpr}
      (isFunc : word.kind = .keyword .func)
      (reads : Reads source tokens (.function expression)) :
      Reads source (word :: tokens)
        (.type (.function (spanTo (word :: tokens) []) expression))
  | record {word opening : Token} {tokens : List Token}
      {parts : List (List Token × List FieldExpr)}
      (isStruct : word.kind = .keyword .struct)
      (opens : opening.kind = .symbol .leftBrace)
      (enclosed :
        Enclosed (.symbol .rightBrace) (parts.map (·.1)) tokens)
      (reads : ∀ part ∈ parts, Reads source part.1 (.fields part.2)) :
      Reads source (word :: opening :: tokens)
        (.type
          (.record (spanTo (word :: opening :: tokens) [])
            (parts.map (·.2)).flatten))
  | interface {word opening : Token} {tokens : List Token}
      {parts : List (List Token × MemberExpr)}
      (isInterface : word.kind = .keyword .interface)
      (opens : opening.kind = .symbol .leftBrace)
      (enclosed :
        Enclosed (.symbol .rightBrace) (parts.map (·.1)) tokens)
      (reads : ∀ part ∈ parts, Reads source part.1 (.member part.2)) :
      Reads source (word :: opening :: tokens)
        (.type
          (.interface (spanTo (word :: opening :: tokens) [])
            (parts.map (·.2))))
  | plainName {name : Token}
      (isName : name.kind = .identifier) :
      Reads source [name]
        (.name
          (.name (spanTo [name] []) none (identifierOf name) [])
          (identifierOf name))
  | genericName {name opening closing : Token} {tokens : List Token}
      {parts : List (List Token × TypeExpr)}
      (isName : name.kind = .identifier)
      (opens : opening.kind = .symbol .leftBracket)
      (separated :
        Separated (.symbol .comma) true (parts.map (·.1)) tokens)
      (reads : ∀ part ∈ parts, Reads source part.1 (.type part.2))
      (closes : closing.kind = .symbol .rightBracket) :
      Reads source (name :: opening :: (tokens ++ [closing]))
        (.name
          (.name
            (spanTo (name :: opening :: (tokens ++ [closing])) [])
            none (identifierOf name) (parts.map (·.2)))
          (identifierOf name))
  | qualifiedName {qualifier dot : Token} {tokens : List Token}
      {span : Text.Span} {last : Identifier} {arguments : List TypeExpr}
      (isQualifier : qualifier.kind = .identifier)
      (isDot : dot.kind = .symbol .dot)
      (reads :
        Reads source tokens
          (.name (.name span none last arguments) last)) :
      Reads source (qualifier :: dot :: tokens)
        (.name
          (.name (spanTo (qualifier :: dot :: tokens) [])
            (some (identifierOf qualifier)) last arguments)
          last)
  | procedure {tokens : List Token} {parameters : List ParameterExpr}
      {variadic : Bool}
      (reads :
        Reads source tokens (.parameters true parameters variadic)) :
      Reads source tokens (.function ⟨parameters, [], variadic⟩)
  | oneResult {tokens resultTokens : List Token}
      {parameters : List ParameterExpr} {variadic : Bool}
      {result : TypeExpr}
      (reads :
        Reads source tokens (.parameters true parameters variadic))
      (noParens : kind resultTokens ≠ .symbol .leftParen)
      (readsResult : Reads source resultTokens (.type result)) :
      Reads source (tokens ++ resultTokens)
        (.function ⟨parameters, [⟨none, result⟩], variadic⟩)
  | results {tokens resultTokens : List Token}
      {parameters results : List ParameterExpr}
      {variadic spread : Bool}
      (reads :
        Reads source tokens (.parameters true parameters variadic))
      (readsResults :
        Reads source resultTokens (.parameters false results spread)) :
      Reads source (tokens ++ resultTokens)
        (.function ⟨parameters, results, variadic⟩)
  | noParameters {opening closing : Token} {allowed : Bool}
      (opens : opening.kind = .symbol .leftParen)
      (closes : closing.kind = .symbol .rightParen) :
      Reads source [opening, closing] (.parameters allowed [] false)
  | parameters {opening closing : Token} {tokens : List Token}
      {allowed variadic : Bool} {list : List ParameterExpr}
      {parts : List (List Token × ParameterEntry)}
      (opens : opening.kind = .symbol .leftParen)
      (separated :
        Separated (.symbol .comma) true (parts.map (·.1)) tokens)
      (reads : ∀ part ∈ parts, Reads source part.1 (.entry part.2))
      (closes : closing.kind = .symbol .rightParen)
      (resolved :
        ParameterEntry.resolve allowed closing.span (parts.map (·.2)) =
          .ok (list, variadic)) :
      Reads source (opening :: (tokens ++ [closing]))
        (.parameters allowed list variadic)
  | bareEntry {name : Token}
      (isName : name.kind = .identifier) :
      Reads source [name] (.entry (.bare (identifierOf name)))
  | unnamedEntry {tokens : List Token} {type : TypeExpr}
      (notBare : tokens.length ≠ 1)
      (reads : Reads source tokens (.type type)) :
      Reads source tokens (.entry (.unnamed type false))
  | spreadEntry {dots : Token} {tokens : List Token} {type : TypeExpr}
      (areDots : dots.kind = .symbol .ellipsis)
      (reads : Reads source tokens (.type type)) :
      Reads source (dots :: tokens) (.entry (.unnamed type true))
  | namedEntry {name : Token} {tokens : List Token} {type : TypeExpr}
      (isName : name.kind = .identifier)
      (reads : Reads source tokens (.type type)) :
      Reads source (name :: tokens)
        (.entry (.named (identifierOf name) type false))
  | namedSpreadEntry {name dots : Token} {tokens : List Token}
      {type : TypeExpr}
      (isName : name.kind = .identifier)
      (areDots : dots.kind = .symbol .ellipsis)
      (reads : Reads source tokens (.type type)) :
      Reads source (name :: dots :: tokens)
        (.entry (.named (identifierOf name) type true))
  | embeddedField {tokens tagTokens : List Token} {type : TypeExpr}
      {last : Identifier} {tag : Option String}
      (reads : Reads source tokens (.name type last))
      (tagged : Tagged tagTokens tag) :
      Reads source (tokens ++ tagTokens)
        (.fields [⟨last, type, tag, true⟩])
  | embeddedPointer {star : Token} {tokens tagTokens : List Token}
      {type : TypeExpr} {last : Identifier} {tag : Option String}
      (isStar : star.kind = .symbol .star)
      (reads : Reads source tokens (.name type last))
      (tagged : Tagged tagTokens tag) :
      Reads source (star :: (tokens ++ tagTokens))
        (.fields
          [⟨last, .pointer (spanTo (star :: tokens) []) type, tag, true⟩])
  | namedFields {nameTokens tokens tagTokens : List Token}
      {names : List Identifier} {type : TypeExpr} {tag : Option String}
      (areNames : Names nameTokens names)
      (reads : Reads source tokens (.type type))
      (tagged : Tagged tagTokens tag) :
      Reads source (nameTokens ++ (tokens ++ tagTokens))
        (.fields (fieldsOf names type tag))
  | method {name : Token} {tokens : List Token} {type : FunctionExpr}
      (isName : name.kind = .identifier)
      (reads : Reads source tokens (.function type)) :
      Reads source (name :: tokens)
        (.member (.method (identifierOf name) type))
  | embed {tokens : List Token} {type : TypeExpr}
      (reads : Reads source tokens (.constraint type)) :
      Reads source tokens (.member (.embed type))
  | single {tokens : List Token} {type : TypeExpr}
      (reads : Reads source tokens (.type type)) :
      Reads source tokens (.constraint type)
  | union {tokens : List Token}
      {parts : List (List Token × TermExpr)}
      (separated :
        Separated (.symbol .pipe) false (parts.map (·.1)) tokens)
      (reads : ∀ part ∈ parts, Reads source part.1 (.term part.2))
      (proper : ∀ type, parts.map (·.2) ≠ [⟨false, type⟩]) :
      Reads source tokens
        (.constraint (.union (spanTo tokens []) (parts.map (·.2))))
  | plainTerm {tokens : List Token} {type : TypeExpr}
      (reads : Reads source tokens (.type type)) :
      Reads source tokens (.term ⟨false, type⟩)
  | tildeTerm {tilde : Token} {tokens : List Token} {type : TypeExpr}
      (isTilde : tilde.kind = .symbol .tilde)
      (reads : Reads source tokens (.type type)) :
      Reads source (tilde :: tokens) (.term ⟨true, type⟩)

end GoUnion.Reader
