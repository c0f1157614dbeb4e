import GoUnion.Token.Reader
import GoUnion.Literal.Quoted

/-!
# Reading type expressions

The grammar of types by recursive descent.  A bracket after a name is the one
place where the grammar has to look ahead: it opens an array type that belongs
to the name before it, or the type arguments of a generic type, and only what
follows the matching bracket tells which.
-/

namespace GoUnion.Reader

open Text (Span)

/-- Whether a type can start with a token of this kind. -/
def startsType : TokenKind → Bool
  | .identifier => true
  | .symbol mark =>
    match mark with
    | .star | .leftBracket | .leftParen | .arrow => true
    | _ => false
  | .keyword word =>
    match word with
    | .func | .map | .chan | .struct | .interface => true
    | _ => false
  | _ => false

/-- At a name and an opening bracket, whether the bracket opens an array or slice type that belongs
to the name, as in a field or parameter declaration. -/
def namesArray (tokens : List Token) : Bool :=
  kindAt 2 tokens = .symbol .rightBracket ||
    match closeGroup? 0 (tokens.drop 2) with
    | some (_, after) => startsType (kindAt 1 after)
    | none => false

/-- A string literal in the role of a struct tag. -/
def tag (tokens : List Token) : Except SyntaxError (Option String × Remainder tokens) :=
  match (take? .string tokens).or (take? .rawString tokens) with
  | none => .ok (none, .all tokens)
  | some (token, rest) =>
    match Literal.unquote? token.text with
    | some text => .ok (some text, rest.toRemainder)
    | none => .error ⟨.tagLiteral, token.span⟩

/-- The length that the tokens between the brackets of an array type stand for. -/
def lengthOf (source : List Char) : List Token → Option ArrayLength
  | [] => none
  | [token] =>
    match token.kind with
    | .number =>
      match Literal.constant? token.text with
      | some length => some (.literal length)
      | none => some (.expression token.text)
    | .identifier => some (.name ⟨token.text, token.span⟩)
    | _ => some (.expression token.text)
  | first :: second :: more =>
    let last := (more.getLast?).getD second
    some (.expression
      (String.ofList (Span.slice ⟨first.span.start, last.span.stop⟩ source)))

/-- An ellipsis and the closing bracket right after it. -/
def ellipsis? (tokens : List Token) : Option (Shorter tokens) :=
  match eat? (.symbol .ellipsis) tokens with
  | none => none
  | some ⟨afterEllipsis, shorter⟩ =>
    (eat? (.symbol .rightBracket) afterEllipsis).map (·.after shorter)

/-- The tokens inside an open group, and the tokens after its closing token. -/
def group? (tokens : List Token) : Option (List Token × Shorter tokens) :=
  match _closed : closeGroup? 0 tokens with
  | some (inside, _ :: rest) =>
    some (inside, ⟨rest, length_le_of_closeGroup? _closed⟩)
  | _ => none

/-- The length of an array and the closing bracket, after the opening one. -/
def arrayLength (source : List Char) (tokens : List Token) : Read ArrayLength tokens :=
  match ellipsis? tokens with
  | some rest => .ok (.ellipsis, rest)
  | none =>
    match group? tokens with
    | none => .error (unexpected (.token (.symbol .rightBracket)) tokens)
    | some (inside, rest) =>
      match lengthOf source inside with
      | none => .error (unexpected .arrayLength tokens)
      | some length => .ok (length, rest)

/-- One entry of a parameter list, before it is known whether its names are names or types. -/
inductive ParameterEntry where
  | bare (identifier : Identifier)
  | named (identifier : Identifier) (type : TypeExpr) (variadic : Bool)
  | unnamed (type : TypeExpr) (variadic : Bool)

namespace ParameterEntry

/-- Whether the entry was written with an ellipsis. -/
def isVariadic : ParameterEntry → Bool
  | .bare _ => false
  | .named _ _ variadic | .unnamed _ variadic => variadic

/-- Whether the entry has both a name and a type. -/
def isNamed : ParameterEntry → Bool
  | .named .. => true
  | _ => false

/-- The parameters of a list in which some entry has a name: every type serves the names before
it that lack one.  The names that still wait for a type come first. -/
def shareTypes (close : Span) :
    List Identifier → List ParameterEntry → Except SyntaxError (List ParameterExpr)
  | [], [] => .ok []
  | _ :: _, [] => .error ⟨.mixedParameters, close⟩
  | pending, .bare identifier :: entries =>
    shareTypes close (pending ++ [identifier]) entries
  | pending, .named identifier type _ :: entries => do
    let others ← shareTypes close [] entries
    return (pending ++ [identifier]).map (⟨some ·, type⟩) ++ others
  | _, .unnamed type _ :: _ => .error ⟨.mixedParameters, type.span⟩

/-- The parameter of an entry in a list without names, where a lone identifier is a type. -/
def withoutName : ParameterEntry → ParameterExpr
  | .bare identifier => ⟨none, .name identifier.span none identifier []⟩
  | .named _ type _ | .unnamed type _ => ⟨none, type⟩

/-- Whether a list of entries ends with an ellipsis; one anywhere else is an error. -/
def variadic (allowed : Bool) (close : Span) (entries : List ParameterEntry) :
    Except SyntaxError Bool :=
  match entries.findIdx? isVariadic with
  | none => .ok false
  | some index =>
    if allowed && index + 1 = entries.length then .ok true
    else .error ⟨.variadicParameter, close⟩

/-- The parameters that the entries between two parentheses declare. -/
def resolve (allowed : Bool) (close : Span) (entries : List ParameterEntry) :
    Except SyntaxError (List ParameterExpr × Bool) := do
  let isVariadic ← variadic allowed close entries
  if entries.any isNamed then
    return (← shareTypes close [] entries, isVariadic)
  else
    return (entries.map withoutName, isVariadic)

end ParameterEntry

/-- Whether the tokens of a field declaration declare an embedded type. -/
def embeds? (tokens : List Token) : Option Bool :=
  match kind tokens with
  | .symbol .star => some true
  | .identifier =>
    match kindAt 1 tokens with
    | .symbol .dot | .symbol .semicolon | .symbol .rightBrace | .string | .rawString => some true
    | .symbol .leftBracket => some (!namesArray tokens)
    | _ => some false
  | _ => none

/-- How a parameter entry that opens with a name goes on. -/
inductive EntryForm where
  | bare
  | variadicName
  | name
  | type
  deriving DecidableEq

/-- The form of a parameter entry that opens with a name. -/
def entryForm (tokens : List Token) : EntryForm :=
  match kindAt 1 tokens with
  | .symbol .comma | .symbol .rightParen => .bare
  | .symbol .dot => .type
  | .symbol .ellipsis => .variadicName
  | .symbol .leftBracket => if namesArray tokens then .name else .type
  | next => if startsType next then .name else .type

/-- The fields that one declaration of a struct gives to its names. -/
def fieldsOf (identifiers : List Identifier) (type : TypeExpr) (tag : Option String) :
    List FieldExpr :=
  identifiers.map fun identifier => ⟨identifier, type, tag, false⟩

mutual

/-- A type. -/
def typeExpr (source : List Char) (tokens : List Token) : Read TypeExpr tokens :=
  match kind tokens with
  | .identifier => do
    let (⟨type, _⟩, rest) ← typeName source tokens
    return (type, rest)
  | .symbol .leftParen => do
    let (_, ⟨inner, _⟩) ← expect (.symbol .leftParen) tokens
    let (type, ⟨rest, _⟩) ← typeExpr source inner
    let (_, ⟨final, _⟩) ← expect (.symbol .rightParen) rest
    return (type, ⟨final, by omega⟩)
  | .symbol .star => do
    let (_, ⟨inner, _⟩) ← expect (.symbol .star) tokens
    let (element, ⟨rest, _⟩) ← typeExpr source inner
    return (.pointer (spanTo tokens rest) element, ⟨rest, by omega⟩)
  | .symbol .leftBracket => do
    let (_, ⟨inner, _⟩) ← expect (.symbol .leftBracket) tokens
    match eat? (.symbol .rightBracket) inner with
    | some ⟨afterBracket, _⟩ =>
      let (element, ⟨rest, _⟩) ← typeExpr source afterBracket
      return (.slice (spanTo tokens rest) element, ⟨rest, by omega⟩)
    | none =>
      let (length, ⟨afterBracket, _⟩) ← arrayLength source inner
      let (element, ⟨rest, _⟩) ← typeExpr source afterBracket
      return (.array (spanTo tokens rest) length element, ⟨rest, by omega⟩)
  | .keyword .map => do
    let (_, ⟨opening, _⟩) ← expect (.keyword .map) tokens
    let (_, ⟨inner, _⟩) ← expect (.symbol .leftBracket) opening
    let (key, ⟨closing, _⟩) ← typeExpr source inner
    let (_, ⟨afterBracket, _⟩) ← expect (.symbol .rightBracket) closing
    let (value, ⟨rest, _⟩) ← typeExpr source afterBracket
    return (.map (spanTo tokens rest) key value, ⟨rest, by omega⟩)
  | .keyword .chan => do
    let (_, ⟨afterChan, _⟩) ← expect (.keyword .chan) tokens
    match eat (.symbol .arrow) afterChan with
    | (sends, ⟨inner, _⟩) =>
      let (element, ⟨rest, _⟩) ← typeExpr source inner
      let direction := if sends then .send else .both
      return (.channel (spanTo tokens rest) direction element, ⟨rest, by omega⟩)
  | .symbol .arrow => do
    let (_, ⟨afterArrow, _⟩) ← expect (.symbol .arrow) tokens
    let (_, ⟨inner, _⟩) ← expect (.keyword .chan) afterArrow
    let (element, ⟨rest, _⟩) ← typeExpr source inner
    return (.channel (spanTo tokens rest) .receive element, ⟨rest, by omega⟩)
  | .keyword .func => do
    let (_, ⟨inner, _⟩) ← expect (.keyword .func) tokens
    let (type, ⟨rest, _⟩) ← functionExpr source inner
    return (.function (spanTo tokens rest) type, ⟨rest, by omega⟩)
  | .keyword .struct => do
    let (_, ⟨opening, _⟩) ← expect (.keyword .struct) tokens
    let (_, ⟨inner, _⟩) ← expect (.symbol .leftBrace) opening
    let (fields, ⟨rest, _⟩) ← items (.symbol .rightBrace) inner.length
      (fun inside _ => fieldExprs source inside) inner (Nat.le_refl _)
    return (.record (spanTo tokens rest) fields.flatten, ⟨rest, by omega⟩)
  | .keyword .interface => do
    let (_, ⟨opening, _⟩) ← expect (.keyword .interface) tokens
    let (_, ⟨inner, _⟩) ← expect (.symbol .leftBrace) opening
    let (members, ⟨rest, _⟩) ← items (.symbol .rightBrace) inner.length
      (fun inside _ => memberExpr source inside) inner (Nat.le_refl _)
    return (.interface (spanTo tokens rest) members, ⟨rest, by omega⟩)
  | _ => .error (unexpected .type tokens)
  termination_by 8 * tokens.length + 1

/-- A name with its qualifier and type arguments, together with its last identifier. -/
def typeName (source : List Char) (tokens : List Token) :
    Read (TypeExpr × Identifier) tokens := do
  let (first, ⟨afterFirst, _⟩) ← identifier tokens
  match eat? (.symbol .dot) afterFirst with
  | some ⟨afterDot, _⟩ =>
    let (second, ⟨afterName, _⟩) ← identifier afterDot
    let (arguments, ⟨rest, _⟩) ← typeArguments source afterName
    return ((.name (spanTo tokens rest) (some first) second arguments, second),
      ⟨rest, by omega⟩)
  | none =>
    let (arguments, ⟨rest, _⟩) ← typeArguments source afterFirst
    return ((.name (spanTo tokens rest) none first arguments, first), ⟨rest, by omega⟩)
  termination_by 8 * tokens.length

/-- The type arguments after a name, if a bracket opens them. -/
def typeArguments (source : List Char) (tokens : List Token) :
    Except SyntaxError (List TypeExpr × Remainder tokens) :=
  match eat? (.symbol .leftBracket) tokens with
  | some ⟨inner, _⟩ =>
    if kind inner = .symbol .rightBracket then .ok ([], ⟨tokens, Nat.le_refl _⟩)
    else do
      let (arguments, ⟨closing, _⟩) ← typeList source inner
      let (_, ⟨rest, _⟩) ← expect (.symbol .rightBracket) closing
      return (arguments, ⟨rest, by omega⟩)
  | none => .ok ([], ⟨tokens, Nat.le_refl _⟩)
  termination_by 8 * tokens.length + 3

/-- One or more types with commas between them; a comma may follow the last. -/
def typeList (source : List Char) (tokens : List Token) : Read (List TypeExpr) tokens := do
  let (first, ⟨rest, _⟩) ← typeExpr source tokens
  match eat? (.symbol .comma) rest with
  | none => return ([first], ⟨rest, by omega⟩)
  | some ⟨afterComma, _⟩ =>
    if kind afterComma = .symbol .rightBracket then
      return ([first], ⟨afterComma, by omega⟩)
    else
      let (others, ⟨final, _⟩) ← typeList source afterComma
      return (first :: others, ⟨final, by omega⟩)
  termination_by 8 * tokens.length + 2

/-- The parameters and results of a function. -/
def functionExpr (source : List Char) (tokens : List Token) : Read FunctionExpr tokens := do
  let ((parameters, variadic), ⟨afterParameters, _⟩) ← parameterList true source tokens
  if kind afterParameters = .symbol .leftParen then
    let ((results, _), ⟨rest, _⟩) ← parameterList false source afterParameters
    return (⟨parameters, results, variadic⟩, ⟨rest, by omega⟩)
  else if startsType (kind afterParameters) then
    let (result, ⟨rest, _⟩) ← typeExpr source afterParameters
    return (⟨parameters, [⟨none, result⟩], variadic⟩, ⟨rest, by omega⟩)
  else
    return (⟨parameters, [], variadic⟩, ⟨afterParameters, by omega⟩)
  termination_by 8 * tokens.length + 4

/-- Parameters between parentheses, and whether the last one is variadic. -/
def parameterList (variadicAllowed : Bool) (source : List Char) (tokens : List Token) :
    Read (List ParameterExpr × Bool) tokens := do
  let (_, ⟨inner, _⟩) ← expect (.symbol .leftParen) tokens
  let (entries, ⟨closing, _⟩) ← parameterEntries source inner
  let (close, ⟨rest, _⟩) ← expect (.symbol .rightParen) closing
  let parameters ← ParameterEntry.resolve variadicAllowed close.span entries
  return (parameters, ⟨rest, by omega⟩)
  termination_by 8 * tokens.length

/-- The entries of a parameter list; a comma may follow the last. -/
def parameterEntries (source : List Char) (tokens : List Token) :
    Except SyntaxError (List ParameterEntry × Remainder tokens) :=
  if kind tokens = .symbol .rightParen then .ok ([], ⟨tokens, Nat.le_refl _⟩)
  else do
    let (first, ⟨rest, _⟩) ← parameterEntry source tokens
    match eat? (.symbol .comma) rest with
    | none => return ([first], ⟨rest, by omega⟩)
    | some ⟨afterComma, _⟩ =>
      let (others, ⟨final, _⟩) ← parameterEntries source afterComma
      return (first :: others, ⟨final, by omega⟩)
  termination_by 8 * tokens.length + 3

/-- One entry of a parameter list. -/
def parameterEntry (source : List Char) (tokens : List Token) :
    Read ParameterEntry tokens := do
  match eat? (.symbol .ellipsis) tokens with
  | some ⟨inner, _⟩ =>
    let (type, ⟨rest, _⟩) ← typeExpr source inner
    return (.unnamed type true, ⟨rest, by omega⟩)
  | none =>
    if kind tokens ≠ .identifier then
      let (type, rest) ← typeExpr source tokens
      return (.unnamed type false, rest)
    else
      match entryForm tokens with
      | .bare =>
        let (name, rest) ← identifier tokens
        return (.bare name, rest)
      | .type =>
        let (type, rest) ← typeExpr source tokens
        return (.unnamed type false, rest)
      | .name =>
        let (name, ⟨afterName, _⟩) ← identifier tokens
        let (type, ⟨rest, _⟩) ← typeExpr source afterName
        return (.named name type false, ⟨rest, by omega⟩)
      | .variadicName =>
        let (name, ⟨afterName, _⟩) ← identifier tokens
        let (_, ⟨inner, _⟩) ← expect (.symbol .ellipsis) afterName
        let (type, ⟨rest, _⟩) ← typeExpr source inner
        return (.named name type true, ⟨rest, by omega⟩)
  termination_by 8 * tokens.length + 2

/-- One declaration of a struct: an embedded type, or names that share a type. -/
def fieldExprs (source : List Char) (tokens : List Token) : Read (List FieldExpr) tokens := do
  match embeds? tokens with
  | none => throw (unexpected .member tokens)
  | some true =>
    match eat (.symbol .star) tokens with
    | (isPointer, ⟨named, _⟩) =>
      let ((base, name), ⟨afterType, _⟩) ← typeName source named
      let type := if isPointer then .pointer (spanTo tokens afterType) base else base
      let (tag, ⟨rest, _⟩) ← tag afterType
      return ([⟨name, type, tag, true⟩], ⟨rest, by omega⟩)
  | some false =>
    let (names, ⟨afterNames, _⟩) ← identifiers tokens
    let (type, ⟨afterType, _⟩) ← typeExpr source afterNames
    let (tag, ⟨rest, _⟩) ← tag afterType
    return (fieldsOf names type tag, ⟨rest, by omega⟩)
  termination_by 8 * tokens.length + 2

/-- One element of an interface: a method, or an embedded type or type set. -/
def memberExpr (source : List Char) (tokens : List Token) : Read MemberExpr tokens :=
  if kind tokens = .identifier ∧ kindAt 1 tokens = .symbol .leftParen then do
    let (name, ⟨afterName, _⟩) ← identifier tokens
    let (type, ⟨rest, _⟩) ← functionExpr source afterName
    return (.method name type, ⟨rest, by omega⟩)
  else do
    let (type, rest) ← constraintExpr source tokens
    return (.embed type, rest)
  termination_by 8 * tokens.length + 4

/-- A type set; a single term without a tilde is the type itself. -/
def constraintExpr (source : List Char) (tokens : List Token) : Read TypeExpr tokens := do
  let (terms, ⟨rest, _⟩) ← termExprs source tokens
  match terms with
  | [⟨false, type⟩] => return (type, ⟨rest, by omega⟩)
  | terms => return (.union (spanTo tokens rest) terms, ⟨rest, by omega⟩)
  termination_by 8 * tokens.length + 3

/-- The terms of a type set. -/
def termExprs (source : List Char) (tokens : List Token) : Read (List TermExpr) tokens :=
  match eat (.symbol .tilde) tokens with
  | (approximate, ⟨inner, _⟩) => do
    let (type, ⟨rest, _⟩) ← typeExpr source inner
    match eat? (.symbol .pipe) rest with
    | none => return ([⟨approximate, type⟩], ⟨rest, by omega⟩)
    | some ⟨afterPipe, _⟩ =>
      let (others, ⟨final, _⟩) ← termExprs source afterPipe
      return (⟨approximate, type⟩ :: others, ⟨final, by omega⟩)
  termination_by 8 * tokens.length + 2

end

end GoUnion.Reader
