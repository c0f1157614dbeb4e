import GoUnion.Proofs.Lexing.Printed
import GoUnion.Proofs.Lexing.Replace

/-!
# String literals in source text

What the scanner takes for a string literal: a text between double quotes on one
line, in which a backslash keeps the next character from ending it, or a text
between back quotes.  A struct tag is written in one of these two forms, so it
is one token wherever it stands, and reading it gives the tag.
-/

namespace GoUnion

open Text (Span byteLength)

namespace Lexeme

/-- Whether a token is a string literal. -/
def isStringKind : TokenKind → Bool
  | .string | .rawString => true
  | _ => false

/-- No name is a string literal. -/
theorem avoidsString_nameAtHead (c : Char) :
    Finds (Avoids isStringKind) (nameAtHead c) := by
  intro rest lexeme extra found
  rw [(taken_of_nameAtHead found).2, avoids_token, wordKind]
  split
  · rfl
  · rfl

/-- A string literal opens with its quote. -/
theorem cases_of_atHead
    {c : Char} {rest : List Char} {kind : TokenKind} {extra : Nat}
    (found : atHead c rest = (.token kind, extra))
    (isString : isStringKind kind = true) :
    (c = '"' ∧ literal .string (quotedTail '"' rest) = (.token kind, extra)) ∨
      c = '\x60' ∧ literal .rawString (rawTail rest) = (.token kind, extra) := by
  by_cases isQuote : c = '"'
  · subst isQuote
    exact .inl ⟨rfl, found⟩
  by_cases isTick : c = '\x60'
  · subst isTick
    exact .inr ⟨rfl, found⟩
  have noString :=
    avoids_atHead (holdsOfMarks_avoids (by decide) rfl rfl)
      (fun _ => avoidsString_nameAtHead c)
      (fun isQuote' => absurd isQuote' isQuote)
      (fun isTick' => absurd isTick' isTick) rest _ extra found kind rfl
  rw [isString] at noString
  cases noString

theorem literal_eq_token
    {kind kind' : TokenKind} {found : Bool × Nat} {extra : Nat}
    (isLiteral : literal kind found = (.token kind', extra)) :
    kind' = kind ∧ found = (true, extra) := by
  rcases found with ⟨closed, count⟩
  cases closed with
  | false => cases isLiteral
  | true =>
      cases isLiteral
      exact ⟨rfl, rfl⟩

/-- What is scanned up to a closing quote is the body of a literal. -/
theorem exists_body_of_quotedTail
    {text : List Char} {extra : Nat}
    (closes : quotedTail '"' text = (true, extra)) :
    ∃ body, text.take extra = body ++ ['"'] ∧ Token.QuotedBody body := by
  fun_induction quotedTail '"' text generalizing extra with
  | case1 => cases closes
  | case2 => cases closes
  | case3 rest => cases closes
  | case4 c rest sameLine closed count searched ih =>
      cases closes
      rcases ih searched with ⟨body, taken, isBody⟩
      refine ⟨'\\' :: c :: body, ?_, .escape sameLine isBody⟩
      rw [List.take_succ_cons, List.take_succ_cons, taken]
      rfl
  | case5 rest _ _ =>
      cases closes
      exact ⟨[], rfl, .nil⟩
  | case6 => cases closes
  | case7 c rest noEnd noPair noQuote sameLine closed count searched ih =>
      cases closes
      have noEscape : c ≠ '\\' := by
        intro isEscape
        cases rest with
        | nil => exact noEnd isEscape rfl
        | cons d rest => exact noPair d rest isEscape rfl
      rcases ih searched with ⟨body, taken, isBody⟩
      refine ⟨c :: body, ?_, .plain ⟨noQuote, noEscape, sameLine⟩ isBody⟩
      rw [List.take_succ_cons, taken]
      rfl

theorem exists_body_of_rawTail
    {text : List Char} {extra : Nat}
    (closes : rawTail text = (true, extra)) :
    ∃ body, text.take extra = body ++ ['\x60'] ∧ '\x60' ∉ body := by
  fun_induction rawTail text generalizing extra with
  | case1 => cases closes
  | case2 rest =>
      cases closes
      exact ⟨[], rfl, List.not_mem_nil⟩
  | case3 c rest noQuote closed count searched ih =>
      cases closes
      rcases ih searched with ⟨body, taken, noQuote'⟩
      refine ⟨c :: body, ?_,
        List.not_mem_cons_of_ne_of_not_mem (Ne.symm noQuote) noQuote'⟩
      rw [List.take_succ_cons, taken]
      rfl

end Lexeme

namespace Token

/-- The text of a string literal of a kind. -/
inductive IsQuotation : TokenKind → List Char → Prop where
  | quoted {body : List Char} (isBody : QuotedBody body) :
      IsQuotation .string ('"' :: body ++ ['"'])
  | raw {body : List Char} (noQuote : '\x60' ∉ body) :
      IsQuotation .rawString ('\x60' :: body ++ ['\x60'])

theorem QuotedBody.not_mem_newline
    {body : List Char} (isBody : QuotedBody body) : '\n' ∉ body := by
  induction isBody with
  | nil => exact List.not_mem_nil
  | plain isPlain _ ih =>
      exact List.not_mem_cons_of_ne_of_not_mem (Ne.symm isPlain.2.2) ih
  | escape sameLine _ ih =>
      exact List.not_mem_cons_of_ne_of_not_mem (by decide)
        (List.not_mem_cons_of_ne_of_not_mem (Ne.symm sameLine) ih)

/-- An interpreted literal stands on one line. -/
theorem IsQuotation.sameLine
    {kind : TokenKind} {text : List Char} (isQuotation : IsQuotation kind text) :
    kind = .rawString ∨ kind = .string ∧ '\n' ∉ text := by
  cases isQuotation with
  | quoted isBody =>
      have noNewline := isBody.not_mem_newline
      exact .inr ⟨rfl, by simp [noNewline]⟩
  | raw => exact .inl rfl

/-- The text of a string literal that is scanned has the form of one. -/
theorem isQuotation_of_mem
    {source : List Char} {tokens : List Token} {token : Token}
    (scanned : ofSource source = .ok tokens) (isIn : token ∈ tokens)
    (isString : Lexeme.isStringKind token.kind = true) :
    IsQuotation token.kind token.text.toList := by
  have noSemicolon : token.kind ≠ .symbol .semicolon := by
    intro isSemicolon
    rw [isSemicolon] at isString
    cases isString
  have noEnd : token.kind ≠ .endOfFile := by
    intro isEnd
    rw [isEnd] at isString
    cases isString
  rcases scans_of_tokensFrom scanned with ⟨used, final, scans, rfl⟩
  have isUsed : token ∈ used :=
    (List.mem_append.mp isIn).resolve_right
      (not_mem_ending noSemicolon noEnd final _)
  rcases exists_atHead_of_mem scans isUsed noSemicolon with
    ⟨c, tail, more, found, isText⟩
  rw [isText, String.toList_ofList]
  rcases Lexeme.cases_of_atHead found isString with
    ⟨rfl, isLiteral⟩ | ⟨rfl, isLiteral⟩
  · rcases Lexeme.literal_eq_token isLiteral with ⟨isKind, closes⟩
    rcases Lexeme.exists_body_of_quotedTail closes with
      ⟨body, taken, isBody⟩
    rw [List.take_left] at taken
    rw [isKind, taken]
    exact .quoted isBody
  · rcases Lexeme.literal_eq_token isLiteral with ⟨isKind, closes⟩
    rcases Lexeme.exists_body_of_rawTail closes with
      ⟨body, taken, noQuote⟩
    rw [List.take_left] at taken
    rw [isKind, taken]
    exact .raw noQuote

/-- A struct tag is written as one literal, which stands on one line unless it is raw, and reading
it gives the tag. -/
theorem ofSource_tag (text : String) :
    ∃ kind,
      ofSource (Spelling.tag text).toList =
        .ok [⟨kind, Spelling.tag text,
            ⟨0, byteLength (Spelling.tag text).toList⟩⟩,
          lineEnd (byteLength (Spelling.tag text).toList),
          endOfFile (byteLength (Spelling.tag text).toList)] ∧
      (kind = .rawString ∨
        kind = .string ∧ '\n' ∉ (Spelling.tag text).toList) ∧
      Literal.unquote? (Spelling.tag text) = some text := by
  rcases scans_tag text with ⟨kind, isString, scans⟩
  have scanned := scans.ofSource
  rw [literalToken, String.ofList_toList, Nat.zero_add] at scanned
  refine ⟨kind, scanned, ?_, Literal.unquote?_tag text⟩
  have isString' : Lexeme.isStringKind kind = true := by
    rcases isString with rfl | rfl
    · rfl
    · rfl
  exact (isQuotation_of_mem scanned List.mem_cons_self isString').sameLine

end Token

end GoUnion
