import GoUnion.Proofs.Lexing

/-!
# Scanning around a changed piece

What a piece of a text scans to does not change when the text around it does,
as long as the characters right behind it stay.  Where the piece starts matters
for the spans of its tokens only, so their kinds and texts are the same wherever
the piece is moved.
-/

namespace GoUnion.Token

open Text (Span byteLength byteLength_append)

/-- What a token says without its place. -/
def word (token : Token) : TokenKind × String :=
  (token.kind, token.text)

/-- What some tokens say. -/
def words (tokens : List Token) : List (TokenKind × String) :=
  tokens.map word

@[simp]
theorem words_nil : words [] = [] := rfl

@[simp]
theorem words_cons (token : Token) (tokens : List Token) :
    words (token :: tokens) = word token :: words tokens := rfl

@[simp]
theorem words_append (front back : List Token) :
    words (front ++ back) = words front ++ words back :=
  List.map_append

theorem words_lineEnd? (pending : Bool) (offset other : Nat) :
    words (lineEnd? pending offset) = words (lineEnd? pending other) := by
  cases pending with
  | false => rfl
  | true => rfl

/-- A lexeme leaves the same words everywhere. -/
theorem leave_shift
    {lexeme : Lexeme} {offset : Nat} {pending after : Bool}
    {text : List Char} {tokens : List Token}
    (leaves : lexeme.leave offset pending text = some (tokens, after))
    (offset' : Nat) :
    ∃ tokens', lexeme.leave offset' pending text = some (tokens', after) ∧
      words tokens' = words tokens := by
  cases lexeme with
  | gap | lineComment | token kind =>
      cases leaves
      exact ⟨_, rfl, rfl⟩
  | newline =>
      cases leaves
      exact ⟨_, rfl, words_lineEnd? pending offset' offset⟩
  | blockComment =>
      rw [Lexeme.leave] at leaves ⊢
      split at leaves
      case isTrue holds =>
        cases leaves
        rw [if_pos holds]
        exact ⟨_, rfl, words_lineEnd? pending offset' offset⟩
      case isFalse holds =>
        cases leaves
        rw [if_neg holds]
        exact ⟨_, rfl, rfl⟩
  | openComment | unknown => cases leaves

theorem Scans.shift
    {rest text : List Char} {offset : Nat} {pending final : Bool}
    {tokens : List Token}
    (scans : Scans rest offset pending text tokens final)
    (offset' : Nat) :
    ∃ tokens', Scans rest offset' pending text tokens' final ∧
      words tokens' = words tokens := by
  induction scans generalizing offset' with
  | stop => exact ⟨[], .stop, rfl⟩
  | lexeme isHead leaves _ ih =>
      rcases leave_shift leaves offset' with ⟨first, leaves', same⟩
      rcases ih (offset' + byteLength (_ :: _)) with
        ⟨others, scans', same'⟩
      refine ⟨first ++ others, .lexeme isHead leaves' scans', ?_⟩
      rw [words_append, words_append, same, same']

/-- Only three characters behind a piece matter for its tokens. -/
theorem Scans.behind
    {near far text : List Char} {offset : Nat} {pending final : Bool}
    {tokens : List Token}
    (scans : Scans (near ++ far) offset pending text tokens final)
    (enough : 3 ≤ near.length) (far' : List Char) :
    Scans (near ++ far') offset pending text tokens final := by
  induction scans with
  | stop => exact .stop
  | @lexeme offset pending after final c tail text lexeme tokens others
      isHead leaves _ ih =>
      refine .lexeme ?_ leaves ih
      apply (Lexeme.sees_atHead c _ lexeme _ isHead ?_ ?_).2
      · have regroup (far : List Char) :
            tail ++ (text ++ (near ++ far)) =
              (tail ++ (text ++ near)) ++ far := by
          simp only [List.append_assoc]
        have long : tail.length + 3 ≤ (tail ++ (text ++ near)).length := by
          rw [List.length_append, List.length_append]
          omega
        rw [regroup, regroup, List.take_append_of_le_length long,
          List.take_append_of_le_length long]
      · rintro rfl
        cases leaves
      · rintro rfl
        cases leaves

/-- A lexeme leaves one token at most. -/
theorem leave_cases
    {lexeme : Lexeme} {offset : Nat} {pending after : Bool}
    {text : List Char} {tokens : List Token}
    (leaves : lexeme.leave offset pending text = some (tokens, after)) :
    tokens = [] ∨ tokens = [lineEnd offset] ∨
      ∃ kind, lexeme = .token kind ∧ after = kind.endsStatement ∧
        tokens =
          [⟨kind, String.ofList text,
            ⟨offset, offset + byteLength text⟩⟩] := by
  have ends {pending : Bool} :
      lineEnd? pending offset = [] ∨
        lineEnd? pending offset = [lineEnd offset] := by
    cases pending with
    | false => exact .inl rfl
    | true => exact .inr rfl
  cases lexeme with
  | gap | lineComment =>
      cases leaves
      exact .inl rfl
  | newline =>
      cases leaves
      exact ends.imp_right .inl
  | blockComment =>
      rw [Lexeme.leave] at leaves
      split at leaves
      · cases leaves
        exact ends.imp_right .inl
      · cases leaves
        exact .inl rfl
  | token kind =>
      cases leaves
      exact .inr (.inr ⟨kind, rfl, rfl, rfl⟩)
  | openComment | unknown => cases leaves

/-- A token of a piece, with what stands before it, in it and behind it. -/
structure Cut
    (rest : List Char) (offset : Nat) (pending : Bool)
    (front : List Token) (token : Token) (back : List Token)
    (final : Bool) (before inside behind : List Char) : Prop where
  text : token.text = String.ofList inside
  start : token.span.start = offset + byteLength before
  stop : token.span.stop = offset + byteLength before + byteLength inside
  scansBefore : ∃ between,
    Scans (inside ++ (behind ++ rest)) offset pending before front between
  scansInside : ∀ between,
    Scans (behind ++ rest) (offset + byteLength before) between inside
      [token] token.kind.endsStatement
  scansBehind :
    Scans rest (offset + byteLength before + byteLength inside)
      token.kind.endsStatement behind back final

theorem Cut.prepend
    {rest tail before inside behind : List Char} {c : Char} {offset : Nat}
    {pending after final : Bool} {lexeme : Lexeme} {token : Token}
    {tokens front back : List Token}
    (isHead :
      Lexeme.atHead c (tail ++ ((before ++ (inside ++ behind)) ++ rest)) =
        (lexeme, tail.length))
    (leaves :
      lexeme.leave offset pending (c :: tail) = some (tokens, after))
    (cut :
      Cut rest (offset + byteLength (c :: tail)) after front token back
        final before inside behind) :
    Cut rest offset pending (tokens ++ front) token back final
      (c :: (tail ++ before)) inside behind := by
  have length :
      offset + byteLength (c :: (tail ++ before)) =
        offset + byteLength (c :: tail) + byteLength before := by
    rw [Nat.add_assoc, ← byteLength_append, List.cons_append]
  rcases cut.scansBefore with ⟨between, scansBefore⟩
  exact {
    text := cut.text
    start := by rw [length, cut.start]
    stop := by rw [length, cut.stop]
    scansBefore :=
      ⟨between, .lexeme
        (by rw [← isHead]; simp only [List.append_assoc]) leaves
        scansBefore⟩
    scansInside := by
      rw [length]
      exact cut.scansInside
    scansBehind := by
      rw [length]
      exact cut.scansBehind }

theorem Scans.cut
    {rest text : List Char} {offset : Nat} {pending final : Bool}
    {front back : List Token} {token : Token}
    (scans :
      Scans rest offset pending text (front ++ token :: back) final)
    (hasText : token.text ≠ "") :
    ∃ before inside behind,
      text = before ++ (inside ++ behind) ∧
        Cut rest offset pending front token back final before inside
          behind := by
  generalize shape : front ++ token :: back = tokens at scans
  induction scans generalizing front with
  | stop => simp at shape
  | @lexeme offset pending after final c tail text lexeme tokens others
      isHead leaves later ih =>
      have within (inner : List Token) (whole : front = tokens ++ inner) :
          ∃ before inside behind,
            c :: (tail ++ text) = before ++ (inside ++ behind) ∧
              Cut rest offset pending front token back final before inside
                behind := by
        subst whole
        rw [List.append_assoc] at shape
        rcases ih (List.append_cancel_left shape) with
          ⟨before, inside, behind, rfl, cut⟩
        exact ⟨c :: (tail ++ before), inside, behind, by simp,
          cut.prepend isHead leaves⟩
      rcases leave_cases leaves with rfl | rfl | ⟨kind, rfl, rfl, rfl⟩
      · exact within front rfl
      · cases front with
        | nil =>
            cases shape
            exact absurd rfl hasText
        | cons first front =>
            cases shape
            exact within front rfl
      · cases front with
        | nil =>
            cases shape
            refine ⟨[], c :: tail, text, rfl, ?_⟩
            exact {
              text := rfl
              start := rfl
              stop := rfl
              scansBefore := ⟨pending, .stop⟩
              scansInside := fun between => by
                have single :
                    Scans (text ++ rest) offset between
                      (c :: (tail ++ [])) ([_] ++ []) _ :=
                  .lexeme isHead rfl .stop
                rw [List.append_nil, List.append_nil] at single
                exact single
              scansBehind := later }
        | cons first front =>
            cases shape
            exact within front rfl

end GoUnion.Token
