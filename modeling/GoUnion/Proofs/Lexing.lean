import GoUnion.Proofs.Grammar.Consumption
import GoUnion.Proofs.Lexing.Extent
import GoUnion.Token.Source

/-!
# Scanning a piece of a text

The relation `Scans` says which tokens a piece of a text gives, where the piece
ends between two lexemes.  It depends on what is behind the piece, since the
longest match wins, but no token behind the piece plays a part.  Pieces that
follow each other scan to tokens that follow each other, so the tokens of a long
text come from those of its pieces.
-/

namespace GoUnion

open Text (Span byteLength byteLength_append)
open Reader (bind_eq_ok)

theorem map_eq_ok
    {ε α β : Type} {first : Except ε α} {next : α → β} {result : β}
    (succeeds : first.map next = .ok result) :
    ∃ value, first = .ok value ∧ next value = result := by
  cases first with
  | error fault => cases succeeds
  | ok value =>
      cases succeeds
      exact ⟨value, rfl, rfl⟩

theorem map_eq_error
    {ε α β : Type} {first : Except ε α} {next : α → β} {error : ε}
    (fails : first.map next = .error error) :
    first = .error error := by
  cases first with
  | error fault =>
      cases fails
      rfl
  | ok value => cases fails

/-- The tokens that a lexeme with some text leaves, and whether the statement may end behind it.
Nothing is left where a text is not made of lexemes. -/
def Lexeme.leave
    (lexeme : Lexeme) (offset : Nat) (pending : Bool) (text : List Char) :
    Option (List Token × Bool) :=
  match lexeme with
  | .gap | .lineComment => some ([], pending)
  | .newline => some (Token.lineEnd? pending offset, false)
  | .blockComment =>
    if text.contains '\n' then some (Token.lineEnd? pending offset, false)
    else some ([], pending)
  | .token kind =>
    some ([⟨kind, String.ofList text, ⟨offset, offset + byteLength text⟩⟩],
      kind.endsStatement)
  | .openComment | .unknown => none

namespace Token

/-- The tokens of a piece of a text that starts at an offset, given what is behind it.  The flags
say whether the statement may end before and behind the piece. -/
inductive Scans (rest : List Char) :
    Nat → Bool → List Char → List Token → Bool → Prop where
  | stop {offset : Nat} {pending : Bool} :
      Scans rest offset pending [] [] pending
  | lexeme {offset : Nat} {pending after final : Bool} {c : Char}
      {tail text : List Char} {lexeme : Lexeme}
      {tokens others : List Token}
      (isHead :
        Lexeme.atHead c (tail ++ (text ++ rest)) = (lexeme, tail.length))
      (leaves :
        lexeme.leave offset pending (c :: tail) = some (tokens, after))
      (later :
        Scans rest (offset + byteLength (c :: tail)) after text others
          final) :
      Scans rest offset pending (c :: (tail ++ text)) (tokens ++ others)
        final

theorem Scans.append
    {offset : Nat} {pending after final : Bool}
    {text more rest : List Char} {tokens others : List Token}
    (scans : Scans (more ++ rest) offset pending text tokens after)
    (later :
      Scans rest (offset + byteLength text) after more others final) :
    Scans rest offset pending (text ++ more) (tokens ++ others) final := by
  induction scans with
  | stop => simpa [byteLength] using later
  | @lexeme offset pending after last c tail text lexeme tokens middle
      isHead leaves _ ih =>
      rw [List.cons_append, List.append_assoc, List.append_assoc]
      refine .lexeme ?_ leaves (ih ?_)
      · rw [List.append_assoc]
        exact isHead
      · rw [Nat.add_assoc, ← byteLength_append]
        exact later

/-- One step of the scanner. -/
theorem tokensFrom_of_leave
    {offset extra : Nat} {pending after : Bool} {c : Char}
    {tail : List Char} {lexeme : Lexeme} {tokens : List Token}
    (isHead : Lexeme.atHead c tail = (lexeme, extra))
    (leaves :
      lexeme.leave offset pending (c :: tail.take extra) =
        some (tokens, after)) :
    tokensFrom offset pending (c :: tail) =
      (tokensFrom (offset + byteLength (c :: tail.take extra)) after
        (tail.drop extra)).map (tokens ++ ·) := by
  rw [tokensFrom, isHead]
  have same {result : Except SyntaxError (List Token)} :
      result = result.map ([] ++ ·) := by
    cases result <;> rfl
  cases lexeme with
  | gap | lineComment =>
      cases leaves
      exact same
  | newline =>
      cases leaves
      rfl
  | blockComment =>
      rw [Lexeme.leave] at leaves
      dsimp only
      split at leaves
      case isTrue holds =>
        cases leaves
        rw [if_pos holds]
      case isFalse holds =>
        cases leaves
        rw [if_neg holds]
        exact same
  | token kind =>
      cases leaves
      rfl
  | openComment | unknown => cases leaves

/-- What the scanner accepts opens with a lexeme that leaves something. -/
theorem exists_leave
    {offset extra : Nat} {pending : Bool} {c : Char} {tail : List Char}
    {lexeme : Lexeme} {tokens : List Token}
    (isHead : Lexeme.atHead c tail = (lexeme, extra))
    (succeeds : tokensFrom offset pending (c :: tail) = .ok tokens) :
    ∃ first after,
      lexeme.leave offset pending (c :: tail.take extra) =
        some (first, after) := by
  cases lexeme with
  | gap | newline | lineComment | token kind => exact ⟨_, _, rfl⟩
  | blockComment =>
      rw [Lexeme.leave]
      split
      · exact ⟨_, _, rfl⟩
      · exact ⟨_, _, rfl⟩
  | openComment | unknown =>
      rw [tokensFrom, isHead] at succeeds
      cases succeeds

theorem Scans.tokensFrom_append
    {offset : Nat} {pending final : Bool} {text rest : List Char}
    {tokens : List Token}
    (scans : Scans rest offset pending text tokens final) :
    tokensFrom offset pending (text ++ rest) =
      (tokensFrom (offset + byteLength text) final rest).map
        (tokens ++ ·) := by
  induction scans with
  | @stop offset pending =>
      cases succeeds : tokensFrom offset pending rest with
      | ok tokens => simp [byteLength, succeeds, Except.map]
      | error fault => simp [byteLength, succeeds, Except.map]
  | @lexeme offset pending after final c tail text lexeme tokens others
      isHead leaves _ ih =>
      rw [List.cons_append, List.append_assoc]
      rw [tokensFrom_of_leave isHead (by rw [List.take_left]; exact leaves),
        List.take_left, List.drop_left, ih]
      have length :
          offset + byteLength (c :: (tail ++ text)) =
            offset + byteLength (c :: tail) + byteLength text := by
        rw [Nat.add_assoc, ← byteLength_append, List.cons_append]
      rw [length]
      cases tokensFrom (offset + byteLength (c :: tail) + byteLength text)
        final rest with
      | ok tokens => simp [Except.map]
      | error fault => rfl

/-- A whole text scans to its tokens up to the end of the file. -/
theorem scans_of_tokensFrom
    {offset : Nat} {pending : Bool} {text : List Char}
    {tokens : List Token}
    (succeeds : tokensFrom offset pending text = .ok tokens) :
    ∃ used final, Scans [] offset pending text used final ∧
      tokens = used ++ (lineEnd? final (offset + byteLength text) ++
        [endOfFile (offset + byteLength text)]) := by
  generalize size : text.length = length
  induction length using Nat.strongRecOn
    generalizing offset pending text tokens with
  | ind length ih =>
      cases text with
      | nil =>
          rw [tokensFrom] at succeeds
          cases succeeds
          exact ⟨[], pending, .stop, by simp [byteLength]⟩
      | cons c tail =>
          rcases isHead : Lexeme.atHead c tail with ⟨lexeme, extra⟩
          rcases exists_leave isHead succeeds with ⟨first, after, leaves⟩
          rw [tokensFrom_of_leave isHead leaves] at succeeds
          rcases map_eq_ok succeeds with ⟨later, scanned, rfl⟩
          have shorter : (tail.drop extra).length < length := by
            rw [← size, List.length_drop, List.length_cons]
            omega
          rcases ih _ shorter scanned rfl with
            ⟨used, final, scans, rfl⟩
          have bound : extra ≤ tail.length := by
            refine (Lexeme.sees_atHead c tail lexeme extra isHead ?_ ?_).1
            · rintro rfl
              cases leaves
            · rintro rfl
              cases leaves
          have taken : (tail.take extra).length = extra := by
            rw [List.length_take, Nat.min_eq_left bound]
          have cut : tail.take extra ++ tail.drop extra = tail :=
            List.take_append_drop extra tail
          have length :
              offset + byteLength (c :: tail.take extra) +
                  byteLength (tail.drop extra) =
                offset + byteLength (c :: tail) := by
            rw [Nat.add_assoc, ← byteLength_append, List.cons_append, cut]
          refine ⟨first ++ used, final, ?_, ?_⟩
          · have whole :
                Scans [] offset pending
                  (c :: (tail.take extra ++ tail.drop extra))
                  (first ++ used) final :=
              .lexeme (by rw [List.append_nil, cut, taken]; exact isHead)
                leaves scans
            rwa [cut] at whole
          · rw [length, List.append_assoc]

/-- What a whole text scans to is what the scanner returns, with the end of the file. -/
theorem Scans.ofSource
    {text : List Char} {tokens : List Token} {final : Bool}
    (scans : Scans [] 0 false text tokens final) :
    Token.ofSource text =
      .ok (tokens ++ (lineEnd? final (byteLength text) ++
        [endOfFile (byteLength text)])) := by
  have whole := scans.tokensFrom_append
  rw [List.append_nil, tokensFrom, Nat.zero_add] at whole
  exact whole

end Token

end GoUnion
