import GoUnion.Token.Lexeme
import GoUnion.SyntaxError

/-!
# The tokens of a source text

A source text is cut into lexemes from its start.  Gaps and comments vanish,
but a newline, or a block comment that holds one, leaves a semicolon behind
when the token before it ends a statement; so does the end of the text.
-/

namespace GoUnion.Token

open Text (Span byteLength)

/-- The semicolon left by a line end at an offset, if the token before it calls for one. -/
def lineEnd? (pending : Bool) (offset : Nat) : List Token :=
  if pending then [lineEnd offset] else []

/-- The tokens of a text that starts at an offset.  The flag says whether the token before the
text ends a statement. -/
def tokensFrom (offset : Nat) (pending : Bool) :
    List Char → Except SyntaxError (List Token)
  | [] => .ok (lineEnd? pending offset ++ [endOfFile offset])
  | c :: tail =>
    let (lexeme, extra) := Lexeme.atHead c tail
    let text := c :: tail.take extra
    let next := offset + byteLength text
    match lexeme with
    | .gap | .lineComment => tokensFrom next pending (tail.drop extra)
    | .newline =>
      (tokensFrom next false (tail.drop extra)).map (lineEnd? pending offset ++ ·)
    | .blockComment =>
      if text.contains '\n' then
        (tokensFrom next false (tail.drop extra)).map (lineEnd? pending offset ++ ·)
      else
        tokensFrom next pending (tail.drop extra)
    | .token kind =>
      (tokensFrom next kind.endsStatement (tail.drop extra)).map
        (⟨kind, String.ofList text, ⟨offset, next⟩⟩ :: ·)
    | .openComment => .error ⟨.openComment, ⟨offset, next⟩⟩
    | .unknown => .error ⟨.unexpectedText (String.ofList text), ⟨offset, next⟩⟩
  termination_by text => text.length
  decreasing_by all_goals simp only [List.length_drop, List.length_cons]; omega

/-- The tokens of a whole source text, ended by one token for the end of the file. -/
def ofSource (text : List Char) : Except SyntaxError (List Token) :=
  tokensFrom 0 false text

end GoUnion.Token
