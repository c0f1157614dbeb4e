import GoUnion.Token
import GoUnion.Text.Escaped

/-!
# Syntax errors

What can be wrong with a source file before its declarations are resolved.  A
fault says the cause; an error adds the span it was found at.
-/

namespace GoUnion

open Text (Span)

/-- What the grammar asks for at a token. -/
inductive Expectation where
  | token (kind : TokenKind)
  | declaration
  | laterDeclaration
  | terminator
  | importPath
  | constraint
  | expression
  | arrayLength
  | type
  | member
  deriving DecidableEq, Repr

/-- The wording of an expectation. -/
def Expectation.describe : Expectation → String
  | .token kind => kind.describe
  | .declaration => "declaration"
  | .laterDeclaration => "declaration (imports must come first)"
  | .terminator => "`;` or newline"
  | .importPath => "import path"
  | .constraint => "type constraint"
  | .expression => "expression"
  | .arrayLength => "array length"
  | .type => "type"
  | .member => "field name or embedded type"

/-- The causes of syntax errors. -/
inductive SyntaxFault where
  | unexpectedText (text : String)
  | openComment
  | unexpectedToken (expected : Expectation) (found : Token)
  | importPathLiteral
  | tagLiteral
  | openDeclaration
  | variadicParameter
  | mixedParameters
  deriving DecidableEq, Repr

/-- The wording of a fault. -/
def SyntaxFault.message : SyntaxFault → String
  | .unexpectedText text => s!"unexpected character {Text.quoted text}"
  | .openComment => "comment not terminated"
  | .unexpectedToken expected found => s!"expected {expected.describe}, found {found.found}"
  | .importPathLiteral => "invalid import path literal"
  | .tagLiteral => "invalid struct tag literal"
  | .openDeclaration => "unterminated declaration"
  | .variadicParameter => "can only use ... with final parameter in list"
  | .mixedParameters => "mixed named and unnamed parameters"

/-- A fault and the span of the text it concerns. -/
structure SyntaxError where
  fault : SyntaxFault
  span : Span
  deriving DecidableEq, Repr

namespace SyntaxError

/-- The error for a token that does not fit the grammar. -/
def unexpected (expected : Expectation) (found : Token) : SyntaxError :=
  ⟨.unexpectedToken expected found, found.span⟩

end SyntaxError

end GoUnion
