import GoUnion.Proofs.Lexing.Breaks
import GoUnion.Proofs.Lexing.Layout

/-!
# The normal form of a source text

The texts of all tokens, with one space between each two and with a semicolon
for each line end that ended a statement, are a source text with the same
tokens.  No token runs over a space or changes when it is cut off there, a space
leaves nothing behind, and as no statement is left open the scanner adds no
semicolon of its own.  So a text written this way is its own normal form.
-/

namespace GoUnion.Token

open Text (Span byteLength)
open Lexeme (Breaks breaks_nil breaks_space)

/-- The token with its text, where a semicolon that stands for a line end gets one. -/
def writtenOut (token : Token) : Token :=
  if token.kind = .symbol .semicolon ∧ token.text = "" then
    { token with text := Symbol.semicolon.spelling }
  else token

/-- The texts of some tokens, each written out, with one space between each two. -/
def spaced (tokens : List Token) : List Char :=
  [' '].intercalate
    ((tokens.filter (·.kind ≠ .endOfFile)).map (·.writtenOut.text.toList))

@[simp]
theorem writtenOut_kind (token : Token) :
    token.writtenOut.kind = token.kind := by
  unfold writtenOut
  split
  · rfl
  · rfl

theorem writtenOut_of_text
    {token : Token} (hasText : token.text ≠ "") :
    token.writtenOut = token :=
  if_neg fun inserted => hasText inserted.2

@[simp]
theorem writtenOut_writtenOut (token : Token) :
    token.writtenOut.writtenOut = token.writtenOut := by
  by_cases inserted : token.kind = .symbol .semicolon ∧ token.text = ""
  · rw [writtenOut, writtenOut, if_pos inserted]
    refine if_neg fun again => ?_
    have noText : Symbol.semicolon.spelling = "" := again.2
    exact absurd noText (by decide)
  · rw [writtenOut, writtenOut, if_neg inserted, if_neg inserted]

/-- The token that the scanner adds behind the last line stays as it is. -/
theorem writtenOut_endOfFile (offset : Nat) :
    (endOfFile offset).writtenOut = endOfFile offset :=
  if_neg fun inserted => nomatch inserted.1

theorem writtenOut_lineEnd (offset : Nat) :
    (lineEnd offset).writtenOut =
      ⟨.symbol .semicolon, Symbol.semicolon.spelling, .point offset⟩ := rfl

theorem spaced_writtenOut (tokens : List Token) :
    spaced (tokens.map writtenOut) = spaced tokens := by
  rw [spaced, spaced, List.filter_map, List.map_map]
  simp [Function.comp_def]

/-- What tokens say decides how they are written. -/
theorem spaced_congr
    {tokens tokens' : List Token} (same : words tokens = words tokens') :
    spaced tokens = spaced tokens' := by
  have written (tokens : List Token) :
      (tokens.filter (·.kind ≠ .endOfFile)).map (·.writtenOut.text.toList) =
        ((words tokens).filter (·.1 ≠ .endOfFile)).map fun said =>
          (writtenOut ⟨said.1, said.2, .point 0⟩).text.toList := by
    rw [words, List.filter_map, List.map_map]
    refine List.map_congr_left fun token _ => ?_
    dsimp only [Function.comp_apply, word]
    rw [writtenOut, writtenOut]
    split
    · rfl
    · rfl
  rw [spaced, spaced, written, written, same]

/-! ## Tokens with the texts the scanner found for them -/

/-- The scanner finds the token in some text. -/
def IsScanned (token : Token) : Prop :=
  ∃ c tail more,
    Lexeme.atHead c (tail ++ more) = (.token token.kind, tail.length) ∧
      token.text.toList = c :: tail

theorem isScanned_lineEnd (offset : Nat) :
    IsScanned (lineEnd offset).writtenOut := by
  have isHead :
      Lexeme.atHead ';' [] = (.token (.symbol .semicolon), 0) := by
    decide
  rw [writtenOut_lineEnd]
  exact ⟨';', [], [], isHead,
    (by decide : Symbol.semicolon.spelling.toList = [';'])⟩

/-- The scanner finds its tokens, and written out also the semicolons it adds. -/
theorem Scans.isScanned
    {rest text : List Char} {offset : Nat} {pending final : Bool}
    {tokens : List Token}
    (scans : Scans rest offset pending text tokens final) :
    ∀ token ∈ tokens, IsScanned token.writtenOut := by
  induction scans with
  | stop => exact List.forall_mem_nil _
  | @lexeme offset pending after final c tail text lexeme tokens others
      isHead leaves _ ih =>
      rw [List.forall_mem_append]
      refine ⟨?_, ih⟩
      rcases leave_cases leaves with rfl | rfl | ⟨kind, rfl, -, rfl⟩
      · exact List.forall_mem_nil _
      · rw [List.forall_mem_singleton]
        exact isScanned_lineEnd offset
      · rw [List.forall_mem_singleton, writtenOut_of_text (by simp)]
        exact ⟨c, tail, text ++ rest, isHead, String.toList_ofList⟩

theorem IsScanned.noEnd {token : Token} (isScanned : IsScanned token) :
    token.kind ≠ .endOfFile := by
  rcases isScanned with ⟨c, tail, more, isHead, -⟩
  cases Lexeme.passes_of_atHead isHead (by simp) (by simp) with
  | token noEnd => exact noEnd

/-- The text of a token that was scanned does not open with a blank. -/
theorem IsScanned.stops
    {token : Token} (isScanned : IsScanned token) (more : List Char) :
    Lexeme.Stops Lexeme.isGap (token.text.toList ++ more) := by
  rcases isScanned with ⟨c, tail, rest, isHead, isText⟩
  rw [isText, List.cons_append, Lexeme.stops_cons, Bool.eq_false_iff]
  intro isBlank
  have noNewline : c ≠ '\n' := by
    rintro rfl
    revert isBlank
    decide
  rw [Lexeme.atHead, if_neg noNewline, if_pos isBlank] at isHead
  cases isHead

/-- A token that was scanned is scanned again in front of a break. -/
theorem IsScanned.scans
    {token : Token} (isScanned : IsScanned token) {stop : List Char}
    (breaks : Breaks stop) (offset : Nat) (pending : Bool) :
    ∃ token', word token' = word token ∧
      Scans stop offset pending token.text.toList [token']
        token.kind.endsStatement := by
  rcases isScanned with ⟨c, tail, more, isHead, isText⟩
  refine ⟨⟨token.kind, token.text,
    ⟨offset, offset + byteLength token.text.toList⟩⟩, rfl, ?_⟩
  have isString : token.text = String.ofList (c :: tail) := by
    rw [← isText, String.ofList_toList]
  rw [isText, isString]
  exact scans_of_atHead (.token token.kind)
    (Lexeme.settles_atHead c tail more token.kind isHead stop breaks) rfl

/-! ## Whether a statement may end -/

/-- Whether the last of some words ends a statement. -/
def endsAfter (pending : Bool) (said : List (TokenKind × String)) : Bool :=
  (said.getLast?.map (·.1.endsStatement)).getD pending

theorem endsAfter_append
    (pending : Bool) (front back : List (TokenKind × String)) :
    endsAfter pending (front ++ back) =
      endsAfter (endsAfter pending front) back := by
  rw [endsAfter, endsAfter, endsAfter, List.getLast?_append]
  cases back.getLast? with
  | none => rfl
  | some last => rfl

theorem endsAfter_writtenOut (pending : Bool) (tokens : List Token) :
    endsAfter pending (words (tokens.map writtenOut)) =
      endsAfter pending (words tokens) := by
  rw [endsAfter, endsAfter, words, words, List.getLast?_map,
    List.getLast?_map, List.getLast?_map]
  cases tokens.getLast? with
  | none => rfl
  | some last => simp [word]

theorem endsAfter_lineEnd? (pending : Bool) (offset : Nat) :
    endsAfter pending (words (lineEnd? pending offset)) = false := by
  cases pending with
  | false => rfl
  | true => rfl

theorem endsAfter_of_leave
    {lexeme : Lexeme} {offset : Nat} {pending after : Bool}
    {text : List Char} {tokens : List Token}
    (leaves : lexeme.leave offset pending text = some (tokens, after)) :
    after = endsAfter pending (words tokens) := by
  cases lexeme with
  | gap | lineComment | token kind =>
      cases leaves
      rfl
  | newline =>
      cases leaves
      exact (endsAfter_lineEnd? pending offset).symm
  | blockComment =>
      rw [Lexeme.leave] at leaves
      split at leaves
      · cases leaves
        exact (endsAfter_lineEnd? pending offset).symm
      · cases leaves
        rfl
  | openComment | unknown => cases leaves

/-- The last token says whether a statement may end behind the text. -/
theorem Scans.final_eq
    {rest text : List Char} {offset : Nat} {pending final : Bool}
    {tokens : List Token}
    (scans : Scans rest offset pending text tokens final) :
    final = endsAfter pending (words tokens) := by
  induction scans with
  | stop => rfl
  | lexeme _ leaves _ ih =>
      rw [ih, endsAfter_of_leave leaves, words_append, endsAfter_append]

/-! ## The normal form -/

theorem IsScanned.stops_spaced
    {token : Token} (isScanned : IsScanned token) (tokens : List Token) :
    Lexeme.Stops Lexeme.isGap
      ([' '].intercalate ((token :: tokens).map (·.text.toList))) := by
  cases tokens with
  | nil => simpa using isScanned.stops []
  | cons next tokens =>
      rw [List.map_cons, List.map_cons, List.intercalate_cons_cons,
        List.append_assoc]
      exact isScanned.stops _

/-- Tokens that were scanned are scanned again with single spaces between them. -/
theorem scans_spaced
    {tokens : List Token} (each : ∀ token ∈ tokens, IsScanned token)
    (offset : Nat) (pending : Bool) :
    ∃ tokens' final, words tokens' = words tokens ∧
      Scans [] offset pending
        ([' '].intercalate (tokens.map (·.text.toList))) tokens' final := by
  induction tokens generalizing offset pending with
  | nil => exact ⟨[], pending, rfl, .stop⟩
  | cons token tokens ih =>
      rw [List.forall_mem_cons] at each
      rcases each with ⟨isScanned, each⟩
      cases tokens with
      | nil =>
          rcases isScanned.scans breaks_nil offset pending with
            ⟨token', same, scans⟩
          exact ⟨[token'], _, congrArg (fun said => [said]) same,
            by simpa using scans⟩
      | cons next tokens =>
          have stops :=
            (List.forall_mem_cons.mp each).1.stops_spaced tokens
          rw [List.map_cons, List.map_cons, List.intercalate_cons_cons,
            List.append_assoc]
          rw [List.map_cons] at ih stops
          generalize [' '].intercalate
            (next.text.toList :: tokens.map (·.text.toList)) = behind
            at ih stops ⊢
          rcases isScanned.scans (breaks_space behind) offset pending with
            ⟨token', same, scans⟩
          have space :
              Scans behind (offset + byteLength token.text.toList)
                token.kind.endsStatement [' '] []
                token.kind.endsStatement :=
            scans_gap (by simp) (List.forall_mem_singleton.mpr rfl) stops
          rcases ih each
            (offset + byteLength token.text.toList + byteLength [' '])
            token.kind.endsStatement with ⟨tokens', final, same', later⟩
          rw [← List.append_nil behind] at scans space
          refine ⟨token' :: tokens', final, ?_,
            scans.append (space.append later)⟩
          rw [words_cons, words_cons, same, same']

/-- Every text is scanned to the tokens of its normal form, and the normal form to the same tokens
with the semicolons of line ends written out. -/
theorem ofSource_spaced
    {text : List Char} {tokens : List Token}
    (scanned : ofSource text = .ok tokens) :
    ∃ tokens', ofSource (spaced tokens) = .ok tokens' ∧
      words tokens' = words (tokens.map writtenOut) ∧
        spaced tokens' = spaced tokens := by
  rcases scans_of_tokensFrom scanned with ⟨used, final, scans, rfl⟩
  rw [Nat.zero_add]
  generalize byteLength text = stop
  let written := (used ++ lineEnd? final stop).map writtenOut
  have each : ∀ token ∈ written, IsScanned token := by
    intro token isIn
    rcases List.mem_map.mp isIn with ⟨token, isPart, rfl⟩
    rcases List.mem_append.mp isPart with isUsed | isMark
    · exact scans.isScanned token isUsed
    · cases final with
      | false => cases isMark
      | true =>
          rw [List.mem_singleton.mp isMark]
          exact isScanned_lineEnd stop
  have isWhole :
      (used ++ (lineEnd? final stop ++ [endOfFile stop])).map writtenOut =
        written ++ [endOfFile stop] := by
    rw [← List.append_assoc, List.map_append, List.map_singleton,
      writtenOut_endOfFile]
  have isSpaced :
      spaced (used ++ (lineEnd? final stop ++ [endOfFile stop])) =
        [' '].intercalate (written.map (·.text.toList)) := by
    rw [← spaced_writtenOut, isWhole, spaced, List.filter_append,
      List.filter_eq_self.mpr fun token isIn =>
        decide_eq_true (each token isIn).noEnd]
    simp [written, endOfFile, Function.comp_def]
  rcases scans_spaced each 0 false with ⟨tokens', final', same, scans'⟩
  have closed : final' = false := by
    rw [scans'.final_eq, same, endsAfter_writtenOut, words_append,
      endsAfter_append, ← scans.final_eq, endsAfter_lineEnd?]
  subst closed
  rw [← spaced_writtenOut (used ++ _), isWhole] at isSpaced ⊢
  have said (offset : Nat) :
      words (tokens' ++ (lineEnd? false offset ++ [endOfFile offset])) =
        words (written ++ [endOfFile stop]) := by
    rw [words_append, same, words_append, words_append]
    rfl
  rw [isSpaced]
  refine ⟨_, scans'.ofSource, said _, ?_⟩
  rw [← isSpaced]
  exact spaced_congr (said _)

/-- Comments vanish, line ends become semicolons, and a slash stays apart from a star. -/
theorem ofSource_spaced_comment :
    ∃ tokens tokens',
      ofSource "x++/1.e7i//y\n`a\nb`/ *p".toList = .ok tokens ∧
        ofSource "x ++ / 1.e7i ; `a\nb` / * p ;".toList = .ok tokens' ∧
          words tokens' = words (tokens.map writtenOut) ∧
            spaced tokens' =
              "x ++ / 1.e7i ; `a\nb` / * p ;".toList := by
  have scanned :
      ofSource "x++/1.e7i//y\n`a\nb`/ *p".toList =
        .ok [⟨.identifier, "x", ⟨0, 1⟩⟩,
          ⟨.symbol .increment, "++", ⟨1, 3⟩⟩,
          ⟨.symbol .slash, "/", ⟨3, 4⟩⟩, ⟨.number, "1.e7i", ⟨4, 9⟩⟩,
          lineEnd 12, ⟨.rawString, "`a\nb`", ⟨13, 18⟩⟩,
          ⟨.symbol .slash, "/", ⟨18, 19⟩⟩,
          ⟨.symbol .star, "*", ⟨20, 21⟩⟩,
          ⟨.identifier, "p", ⟨21, 22⟩⟩, lineEnd 22, endOfFile 22] := by
    decide +kernel
  rcases ofSource_spaced scanned with ⟨tokens', scanned', said, isSpaced⟩
  exact ⟨_, tokens', scanned, scanned', said, isSpaced⟩

end GoUnion.Token
