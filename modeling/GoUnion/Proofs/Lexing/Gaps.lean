import GoUnion.Proofs.Lexing.Names
import GoUnion.Proofs.Lexing.Splice

/-!
# Gaps between tokens

A gap is a run of blanks, newlines and comments.  A line comment goes up to a
newline or the end of the source, and a block comment up to the first closing
mark.  What the scanner passes over without a token is such a run, and it leaves
a semicolon exactly where the run holds a newline and a statement may end.
-/

namespace GoUnion

open Text (Span byteLength byteLength_append)

/-- The blanks within a line. -/
def Token.blanks : List Char :=
  [' ', '\t', '\x0c', '\r']

/-- A run of blanks, newlines and comments, given what is behind it. -/
inductive Token.Gap (rest : List Char) : List Char → Prop where
  | nil : Gap rest []
  | blank {c : Char} {gap : List Char}
      (isBlank : c ∈ Token.blanks) (later : Gap rest gap) :
      Gap rest (c :: gap)
  | newline {gap : List Char} (later : Gap rest gap) :
      Gap rest ('\n' :: gap)
  | lineComment {body gap : List Char}
      (inLine : '\n' ∉ body) (ends : ∀ c ∈ (gap ++ rest).head?, c = '\n')
      (later : Gap rest gap) :
      Gap rest ('/' :: '/' :: (body ++ gap))
  | blockComment {body gap : List Char}
      (closesOnce : ¬['*', '/'] <:+: body) (later : Gap rest gap) :
      Gap rest ('/' :: '*' :: (body ++ '*' :: '/' :: gap))

namespace Lexeme

open Token (Gap blanks)

theorem isGap_iff {c : Char} : isGap c = true ↔ c ∈ blanks := by
  simp [isGap, blanks, or_assoc]

/-! ## Lexemes that are tokens -/

/-- A lexeme is a token of the source, or nothing known. -/
def IsToken (lexeme : Lexeme) : Prop :=
  lexeme = .unknown ∨ ∃ kind, lexeme = .token kind ∧ kind ≠ .endOfFile

theorem isToken_of_ne
    {kind : TokenKind} (noEnd : kind ≠ .endOfFile) :
    IsToken (.token kind) :=
  .inr ⟨kind, rfl, noEnd⟩

theorem fixed_ne_endOfFile :
    ∀ entry ∈ fixed, entry.2 ≠ .endOfFile := by
  decide

theorem holdsOfMarks_isToken : HoldsOfMarks IsToken where
  unknown := .inl rfl
  fixed := fun entry isIn => isToken_of_ne (fixed_ne_endOfFile entry isIn)
  number := isToken_of_ne (by simp)
  rune := isToken_of_ne (by simp)

theorem findsToken_nameAtHead (c : Char) : Finds IsToken (nameAtHead c) := by
  intro rest lexeme extra found
  rw [nameAtHead] at found
  split at found
  · cases found
    exact isToken_of_ne (by simp)
  · cases found
    exact isToken_of_ne (by simp)

/-- What opens with neither a newline, nor a blank, nor a slash is a token. -/
theorem findsToken_atHead
    {c : Char} (noNewline : c ≠ '\n') (noBlank : ¬isGap c = true)
    (noSlash : c ≠ '/') :
    Finds IsToken (atHead c) :=
  finds_atHead holdsOfMarks_isToken (fun holds => absurd holds noNewline)
    (fun holds => absurd holds noBlank) (fun holds => absurd holds noSlash)
    (fun _ => findsToken_nameAtHead c) (fun _ => isToken_of_ne (by simp))
    (fun _ => isToken_of_ne (by simp))

/-! ## Lexemes that are gaps -/

/-- A closed block comment goes up to the first closing mark. -/
theorem exists_body_of_commentTail
    {text : List Char} {count : Nat}
    (closed : commentTail text = (true, count)) :
    ∃ body rest, text = body ++ '*' :: '/' :: rest ∧
      count = body.length + 2 ∧ ¬['*', '/'] <:+: body := by
  fun_induction commentTail text generalizing count with
  | case1 => cases closed
  | case2 rest =>
      cases closed
      exact ⟨[], rest, rfl, rfl, by simp⟩
  | case3 c rest notHere isClosed inner found ih =>
      rw [Prod.mk.injEq] at closed
      rcases closed with ⟨rfl, rfl⟩
      rcases ih found with ⟨body, behind, rfl, rfl, closesOnce⟩
      refine ⟨c :: body, behind, rfl, rfl, ?_⟩
      intro isInfix
      rcases List.infix_cons_iff.mp isInfix with isPrefix | isInner
      · rcases isPrefix with ⟨more, shape⟩
        rw [List.cons_append, List.cons_append] at shape
        cases shape
        exact notHere _ rfl rfl
      · exact closesOnce isInner

/-- A run of a class that is as long as a piece is that piece, and goes no further. -/
theorem run_of_length
    {inClass : Char → Bool} {front text : List Char}
    (isLength :
      ((front ++ text).takeWhile inClass).length = front.length) :
    (∀ c ∈ front, inClass c = true) ∧ Stops inClass text := by
  induction front with
  | nil =>
      cases text with
      | nil => simp
      | cons c tail =>
          rw [List.nil_append, List.length_nil, List.length_eq_zero_iff,
            List.takeWhile_cons] at isLength
          split at isLength
          case isTrue => cases isLength
          case isFalse fails => simpa using fails
  | cons c front ih =>
      rw [List.cons_append, List.takeWhile_cons] at isLength
      split at isLength
      case isTrue holds =>
        rw [List.length_cons, List.length_cons,
          Nat.add_right_cancel_iff] at isLength
        rw [List.forall_mem_cons]
        exact ⟨⟨holds, (ih isLength).1⟩, (ih isLength).2⟩
      case isFalse => cases isLength

/-- The lexemes that the scanner goes on behind, with their texts and what is behind them. -/
inductive Passes (text : List Char) : Lexeme → List Char → Prop where
  | newline : Passes text .newline ['\n']
  | blanks {piece : List Char} (each : ∀ c ∈ piece, c ∈ blanks) :
      Passes text .gap piece
  | lineComment {body : List Char}
      (inLine : '\n' ∉ body) (ends : ∀ c ∈ text.head?, c = '\n') :
      Passes text .lineComment ('/' :: '/' :: body)
  | blockComment {body : List Char} (closesOnce : ¬['*', '/'] <:+: body) :
      Passes text .blockComment ('/' :: '*' :: (body ++ ['*', '/']))
  | token {kind : TokenKind} {piece : List Char}
      (noEnd : kind ≠ .endOfFile) :
      Passes text (.token kind) piece

theorem passes_of_slashAtHead
    {tail text : List Char} {lexeme : Lexeme}
    (isHead : slashAtHead (tail ++ text) = (lexeme, tail.length))
    (noOpen : lexeme ≠ .openComment) (known : lexeme ≠ .unknown) :
    Passes text lexeme ('/' :: tail) := by
  generalize whole : tail ++ text = rest at isHead
  unfold slashAtHead at isHead
  split at isHead
  case h_1 line =>
    rcases Prod.mk.inj isHead with ⟨rfl, isLength⟩
    cases tail with
    | nil => exact absurd isLength (by simp)
    | cons c body =>
        cases whole
        rw [List.length_cons, Nat.add_comm,
          Nat.add_right_cancel_iff] at isLength
        rcases run_of_length isLength with ⟨inLine, stops⟩
        refine .lineComment (fun isIn => by simpa using inLine _ isIn) ?_
        intro d isNext
        simpa using stops d isNext
  case h_2 body =>
    split at isHead
    case h_1 count isClosed =>
      rcases Prod.mk.inj isHead with ⟨rfl, isLength⟩
      rcases exists_body_of_commentTail isClosed with
        ⟨inner, behind, rfl, rfl, closesOnce⟩
      have cut :
          tail ++ text = '*' :: (inner ++ ['*', '/']) ++ behind := by
        rw [whole]
        simp
      rcases List.append_inj cut (by simp [← isLength]; omega) with
        ⟨rfl, rfl⟩
      exact .blockComment closesOnce
    case h_2 => exact absurd (congrArg Prod.fst isHead).symm noOpen
  case h_3 =>
    rcases finds_fixedAtHead holdsOfMarks_isToken _ _ _ _ isHead with
      isUnknown | ⟨kind, rfl, noEnd⟩
    · exact absurd isUnknown known
    · exact .token noEnd

theorem passes_of_atHead
    {c : Char} {tail text : List Char} {lexeme : Lexeme}
    (isHead : atHead c (tail ++ text) = (lexeme, tail.length))
    (noOpen : lexeme ≠ .openComment) (known : lexeme ≠ .unknown) :
    Passes text lexeme (c :: tail) := by
  by_cases isNewline : c = '\n'
  · subst isNewline
    rw [atHead, if_pos rfl] at isHead
    rcases Prod.mk.inj isHead with ⟨rfl, isEmpty⟩
    rw [List.length_eq_zero_iff.mp isEmpty.symm]
    exact .newline
  by_cases isBlank : isGap c = true
  · rw [atHead, if_neg isNewline, if_pos isBlank] at isHead
    rcases Prod.mk.inj isHead with ⟨rfl, isLength⟩
    refine .blanks ?_
    rw [List.forall_mem_cons]
    exact ⟨isGap_iff.mp isBlank,
      fun d isIn => isGap_iff.mp ((run_of_length isLength).1 d isIn)⟩
  by_cases isSlash : c = '/'
  · subst isSlash
    rw [atHead, if_neg isNewline, if_neg isBlank, if_pos rfl] at isHead
    exact passes_of_slashAtHead isHead noOpen known
  · rcases findsToken_atHead isNewline isBlank isSlash _ _ _ isHead with
      isUnknown | ⟨kind, rfl, noEnd⟩
    · exact absurd isUnknown known
    · exact .token noEnd

/-- What the scanner passes over without a token opens any gap that goes on behind it. -/
theorem Passes.gap
    {lexeme : Lexeme} {piece gap rest : List Char}
    (passes : Passes (gap ++ rest) lexeme piece)
    (isOther : ∀ kind, lexeme ≠ .token kind) (isRun : Gap rest gap) :
    Gap rest (piece ++ gap) := by
  cases passes with
  | newline => exact .newline isRun
  | blanks each =>
      induction piece with
      | nil => exact isRun
      | cons c piece ih =>
          rw [List.forall_mem_cons] at each
          exact .blank each.1 (ih each.2)
  | lineComment inLine ends => exact .lineComment inLine ends isRun
  | blockComment closesOnce =>
      have longer := Gap.blockComment closesOnce isRun
      simpa using longer
  | token => exact absurd rfl (isOther _)

/-- What the scanner passes over leaves a semicolon if it holds a newline. -/
theorem Passes.leave
    {lexeme : Lexeme} {piece text : List Char}
    (passes : Passes text lexeme piece)
    (isOther : ∀ kind, lexeme ≠ .token kind)
    (offset : Nat) (pending : Bool) :
    lexeme.leave offset pending piece =
      some (if '\n' ∈ piece then (Token.lineEnd? pending offset, false)
        else ([], pending)) := by
  cases passes with
  | newline => rfl
  | blanks each =>
      have inLine : '\n' ∉ piece := by
        intro isIn
        have isBlank := each _ isIn
        revert isBlank
        decide
      rw [if_neg inLine]
      rfl
  | lineComment inLine ends =>
      rw [if_neg (by simp [inLine])]
      rfl
  | blockComment =>
      simp only [Lexeme.leave, List.contains_iff_mem]
      split
      · rfl
      · rfl
  | token => exact absurd rfl (isOther _)

end Lexeme

end GoUnion
