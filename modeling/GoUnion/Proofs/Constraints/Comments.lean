import GoUnion.Proofs.Constraints.Blocks
import GoUnion.Proofs.Lexing.Layout
import GoUnion.Proofs.Lexing.Replace
import GoUnion.Text.Location

/-!
# Constraints are comments in front of the first token

The scanner cuts a source into lexemes, the reader of headers goes through its
lines, and the two know nothing of each other.  Still, they agree on the text in
front of the first token.  While both walk through it, the part of a line that
was already passed is white space, or ends with a block comment, or is a line
comment.  So a constraint is always a line comment there, and what follows the
lines in front of the first token cannot change the constraints.

One thing does change them: where the end of the file is the first token, its
line may be such a comment.
-/

namespace GoUnion

/-! ## What is behind the first gap -/

/-- A text is empty or begins with something that is neither white space nor a comment. -/
structure Token.Begins (text : List Char) : Prop where
  solid : ∀ c ∈ text.head?, Text.isBlank c = false
  noLine : ¬['/', '/'] <+: text
  noBlock : ¬['/', '*'] <+: text

/-- Whether a lexeme that is no white space may begin with a character. -/
def Lexeme.mayBegin (c : Char) : Bool :=
  c = '/' || startsName c || Numeral.isDigit c || c = '.' || c = '"' ||
    c = '\x60' || c = '\'' || fixed.any fun entry => entry.1.head?.all (· = c)

theorem Lexeme.atHead_of_not_mayBegin
    {c : Char} (noNewline : c ≠ '\n') (noGap : isGap c = false)
    (unknown : mayBegin c = false) (tail : List Char) :
    atHead c tail = (.unknown, 0) := by
  simp only [mayBegin, Bool.or_eq_false_iff, decide_eq_false_iff_not,
    List.any_eq_false] at unknown
  obtain ⟨others, noFixed⟩ := unknown
  obtain ⟨⟨⟨others, noQuote⟩, noRaw⟩, noRune⟩ := others
  obtain ⟨⟨⟨noSlash, noName⟩, noDigit⟩, noPoint⟩ := others
  have noEntry : longest fixed (c :: tail) = none := by
    cases found : longest fixed (c :: tail) with
    | none => rfl
    | some entry =>
        rcases longest_eq_some found with ⟨isEntry, opens⟩
        refine absurd ?_ (noFixed entry isEntry)
        rcases shape : entry.1 with _ | ⟨d, rest⟩
        · rfl
        · rw [shape, List.cons_prefix_cons] at opens
          simp [opens.1]
  simp [atHead, noNewline, noGap, noSlash, noName, noDigit, noPoint, noQuote,
    noRaw, noRune, fixedAtHead, noEntry]

/-- White space that is in no gap is in no token either. -/
theorem Lexeme.not_token_of_isBlank
    {c : Char} (blank : Text.isBlank c = true) (tail : List Char)
    (kind : TokenKind) (extra : Nat) :
    atHead c tail ≠ (.token kind, extra) := by
  have known : (c = '\n' || isGap c || !mayBegin c) = true :=
    Text.CharSet.of_contains
      (fun c => c = '\n' || isGap c || !mayBegin c) (by decide +kernel)
      blank
  intro isHead
  by_cases isNewline : c = '\n'
  · subst isNewline
    cases isHead
  cases gap : isGap c with
  | true =>
      rw [atHead, if_neg isNewline, if_pos gap] at isHead
      cases isHead
  | false =>
      have unknown : mayBegin c = false := by
        simpa [isNewline, gap] using known
      rw [atHead_of_not_mayBegin isNewline gap unknown] at isHead
      cases isHead

theorem Token.begins_of_atHead
    {c : Char} {tail : List Char} {kind : TokenKind} {extra : Nat}
    (isHead : Lexeme.atHead c tail = (.token kind, extra)) :
    Token.Begins (c :: tail) where
  solid := by
    intro d isHead'
    cases isHead'
    cases blank : Text.isBlank c with
    | false => rfl
    | true => exact absurd isHead (Lexeme.not_token_of_isBlank blank _ _ _)
  noLine := by
    rintro ⟨rest, shape⟩
    cases shape
    change Lexeme.slashAtHead ('/' :: rest) = _ at isHead
    cases isHead
  noBlock := by
    rintro ⟨rest, shape⟩
    cases shape
    change Lexeme.slashAtHead ('*' :: rest) = _ at isHead
    rw [Lexeme.slashAtHead] at isHead
    split at isHead <;> cases isHead

/-- In front of the first token of a text is a gap. -/
theorem Token.Scans.opening
    {offset : Nat} {pending final : Bool} {text : List Char}
    {tokens : List Token}
    (scans : Scans [] offset pending text tokens final)
    (fresh : pending = false) :
    ∃ gap behind, text = gap ++ behind ∧ Gap behind gap ∧ Begins behind ∧
      ((behind = [] ∧ tokens = [] ∧ final = false) ∨
        behind ≠ [] ∧ ∃ first others, tokens = first :: others ∧
          first.span.start = offset + Text.byteLength gap) := by
  induction scans with
  | stop =>
      exact ⟨[], [], rfl, .nil, ⟨by simp, by simp, by simp⟩,
        .inl ⟨rfl, rfl, fresh⟩⟩
  | @lexeme offset pending after final c tail text lexeme first others
      isHead leaves _ ih =>
      subst fresh
      rw [List.append_nil] at isHead
      by_cases isToken : ∃ kind, lexeme = .token kind
      · rcases isToken with ⟨kind, rfl⟩
        cases leaves
        exact ⟨[], _, rfl, .nil, begins_of_atHead isHead,
          .inr ⟨List.cons_ne_nil _ _, _, _, rfl, rfl⟩⟩
      · have isOther : ∀ kind, lexeme ≠ .token kind :=
          fun kind isKind => isToken ⟨kind, isKind⟩
        have passes :=
          Lexeme.passes_of_atHead isHead (by rintro rfl; cases leaves)
            (by rintro rfl; cases leaves)
        rw [passes.leave isOther] at leaves
        have none : first = [] ∧ after = false := by
          split at leaves <;> cases leaves <;> exact ⟨rfl, rfl⟩
        rcases none with ⟨rfl, rfl⟩
        rcases ih rfl with ⟨gap, behind, rfl, isGap, begins, found⟩
        refine ⟨c :: tail ++ gap, behind, by simp, passes.gap isOther isGap,
          begins, ?_⟩
        rcases found with isEnd | ⟨nonempty, first, others, rfl, isStart⟩
        · exact .inl isEnd
        · refine .inr ⟨nonempty, first, others, rfl, ?_⟩
          rw [isStart, Text.byteLength_append, Nat.add_assoc]

/-- In front of the first token of a source is a gap. -/
theorem Token.exists_opening
    {source : List Char} {first : Token} {others : List Token}
    (succeeds : Token.ofSource source = .ok (first :: others)) :
    ∃ gap behind, source = gap ++ behind ∧ Gap behind gap ∧
      Begins behind ∧ first.span.start = Text.byteLength gap ∧
      (behind = [] → first.kind = .endOfFile) := by
  rcases scans_of_tokensFrom succeeds with ⟨used, final, scans, shape⟩
  rcases scans.opening rfl with ⟨gap, behind, rfl, isGap, begins, found⟩
  refine ⟨gap, behind, rfl, isGap, begins, ?_⟩
  rcases found with
    ⟨rfl, rfl, rfl⟩ | ⟨nonempty, token, later, rfl, isStart⟩
  · cases shape
    exact ⟨by simp [endOfFile, Text.Span.point], fun _ => rfl⟩
  · cases shape
    exact ⟨by rw [isStart, Nat.zero_add],
      fun isEmpty => absurd isEmpty nonempty⟩

theorem Token.Gap.append
    {front middle rest : List Char} (isFront : Gap (middle ++ rest) front)
    (isMiddle : Gap rest middle) : Gap rest (front ++ middle) := by
  induction isFront with
  | nil => exact isMiddle
  | blank isBlank _ ih => exact .blank isBlank ih
  | newline _ ih => exact .newline ih
  | lineComment inLine ends _ ih =>
      rw [List.cons_append, List.cons_append, List.append_assoc]
      refine .lineComment inLine ?_ ih
      rwa [List.append_assoc]
  | blockComment closesOnce _ ih =>
      have longer := Gap.blockComment closesOnce ih
      simpa using longer

namespace Build.Header

open Text (Blank isBlank byteLength trim trimStart trimEnd)
open Token (Gap Begins)

variable {indent text : List Char} {commentOpen : Bool}

theorem classify_of_begins
    {c : Char} (isIndent : Blank indent) (solid : isBlank c = false)
    (noLine : ¬['/', '/'] <+: c :: text)
    (noBlock : ¬['/', '*'] <+: c :: text) :
    classify false (indent ++ c :: text) = .ends := by
  have kept : trimEnd (c :: text) = c :: trimEnd text :=
    Text.trimEnd_append_cons solid [] text
  have isPrefix : c :: trimEnd text <+: c :: text :=
    (List.prefix_cons_inj c).mpr (Text.trimEnd_prefix text)
  rw [classify, trim, Text.trimStart_blank_append isIndent,
    Text.trimStart_of_starts solid, kept, if_neg Bool.false_ne_true]
  split
  case h_1 isEmpty => cases isEmpty
  case h_2 rest shape =>
    rw [shape] at isPrefix
    exact absurd (.trans ⟨rest, rfl⟩ isPrefix) noBlock
  case h_3 comment shape =>
    rw [shape] at isPrefix
    exact absurd (.trans ⟨comment, rfl⟩ isPrefix) noLine
  case h_4 => rfl

/-- No constraint is on a line that begins with a token. -/
theorem constraints_of_begins
    {c : Char} (isIndent : Blank indent) (inLine : '\n' ∉ indent)
    (begins : Begins (c :: text)) (offset : Nat) :
    constraints offset false (indent ++ c :: text) = [] := by
  have solid := begins.solid c rfl
  refine constraints_of_solid inLine solid (fun line isPrefix => ?_) offset
  have isPrefix := (List.prefix_cons_inj c).mpr isPrefix
  exact classify_of_begins isIndent solid
    (fun opens => begins.noLine (opens.trans isPrefix))
    (fun opens => begins.noBlock (opens.trans isPrefix))

/-! ## Going through a gap -/

/-- A constraint is a line comment of a source that the scanner comes to without a token. -/
structure Constraint.IsComment
    (source before indent body after : List Char)
    (constraint : Constraint) : Prop where
  source_eq : source = before ++ (indent ++ '/' :: '/' :: (body ++ after))
  offset_eq : constraint.offset = byteLength before
  line_eq :
    constraint.line = indent ++ '/' :: '/' :: (body ++ after.take 1)
  whole : Whole before
  isIndent : Blank indent
  indentInLine : '\n' ∉ indent
  inLine : '\n' ∉ body
  ends : ∀ c ∈ after.head?, c = '\n'
  isGap : Gap ('/' :: '/' :: (body ++ after)) (before ++ indent)

/-- What was passed of a line, given the lines before it and the text behind it, and whether a
block comment was open before the line. -/
inductive Passed (lines behind : List Char) : Bool → List Char → Prop where
  | indent {indent : List Char} (isIndent : Blank indent) :
      Passed lines behind false indent
  | block {commentOpen : Bool} {passed : List Char}
      (closed : Closed commentOpen passed) :
      Passed lines behind commentOpen passed
  | comment {indent body : List Char} (isIndent : Blank indent)
      (ends : ∀ c ∈ behind.head?, c = '\n')
      (isGap : Gap ('/' :: '/' :: (body ++ behind)) (lines ++ indent)) :
      Passed lines behind false (indent ++ '/' :: '/' :: body)

theorem classify_of_blank (isIndent : Blank indent) :
    classify false indent = .plain := by
  rw [classify, Text.trim_eq_nil.mpr isIndent]
  rfl

theorem leaves_ofComment (comment : List Char) :
    (ofComment comment).leaves? = some false := by
  rw [ofComment]
  split
  · split <;> rfl
  · split
    · split <;> rfl
    · rfl

/-- Where a line ends that was passed so far, the header goes on outside of comments. -/
theorem Passed.leaves
    {lines behind passed : List Char}
    (isPassed : Passed lines behind commentOpen passed) :
    (classify commentOpen passed).leaves? = some false := by
  cases isPassed with
  | indent isIndent =>
      rw [classify_of_blank isIndent]
      rfl
  | block closed =>
      rw [closed.plain]
      rfl
  | comment isIndent =>
      rw [classify_of_comment isIndent]
      exact leaves_ofComment _

/-- Some lines and a part of a line were passed by the scanner, and the reader of headers is at that
line. -/
structure Reached
    (lines passed behind : List Char) (commentOpen : Bool) : Prop where
  whole : Whole lines
  inLine : '\n' ∉ passed
  isPassed : Passed lines behind commentOpen passed
  isFront : Gap behind (lines ++ passed)

namespace Reached

variable {lines passed behind body : List Char} {c : Char}
  {constraint : Constraint}

/-- Where a line ends that was passed so far, it is a constraint only if it is a comment. -/
theorem isComment
    (reached : Reached lines passed behind commentOpen)
    (isIn : constraint ∈ ((classify commentOpen passed).constraint?
      (byteLength lines) (passed ++ behind.take 1)).toList) :
    ∃ indent body, constraint.IsComment (lines ++ (passed ++ behind))
      lines indent body behind := by
  rcases reached with ⟨whole, inLine, isPassed, -⟩
  rcases mem_constraint? isIn with ⟨isOffset, isLine⟩
  cases isPassed with
  | indent isIndent =>
      rw [classify_of_blank isIndent] at isIn
      cases isIn
  | block closed =>
      rw [closed.plain] at isIn
      cases isIn
  | @comment indent body isIndent ends isGap =>
      rw [List.mem_append, List.mem_cons, List.mem_cons, not_or, not_or,
        not_or] at inLine
      exact ⟨indent, body, {
        source_eq := by simp
        offset_eq := isOffset
        line_eq := by rw [isLine]; simp
        whole
        isIndent
        indentInLine := inLine.1
        inLine := inLine.2.2.2
        ends
        isGap }⟩

/-- A token ends the header. -/
theorem token
    (reached : Reached lines passed (c :: behind) commentOpen)
    (begins : Begins (c :: behind)) :
    constraints (byteLength lines) commentOpen (passed ++ c :: behind) =
      [] := by
  rcases reached with ⟨-, inLine, isPassed, -⟩
  cases isPassed with
  | indent isIndent => exact constraints_of_begins isIndent inLine begins _
  | block closed =>
      exact closed.constraints_eq_nil inLine (begins.solid c rfl) _ _
  | comment _ ends _ =>
      cases ends c rfl
      cases begins.solid _ rfl

theorem blank
    (reached : Reached lines passed (c :: behind) commentOpen)
    (isBlank : c ∈ Token.blanks) :
    Reached lines (passed ++ [c]) behind commentOpen := by
  rcases reached with ⟨whole, inLine, isPassed, isFront⟩
  have plain : Text.isBlank c = true ∧ '\n' ≠ c := by
    have each :
        Token.blanks.all (fun c => Text.isBlank c && '\n' != c) = true := by
      decide
    simpa using List.all_eq_true.mp each c isBlank
  have single : Gap behind [c] := .blank isBlank .nil
  refine ⟨whole, by simp [inLine, plain.2], ?_, ?_⟩
  · cases isPassed with
    | indent isIndent =>
        exact .indent (List.forall_mem_append.mpr
          ⟨isIndent, by simpa using plain.1⟩)
    | block closed => exact .block (closed.blank plain.1)
    | comment _ ends _ => exact absurd (ends c rfl).symm plain.2
  · rw [← List.append_assoc]
    exact Token.Gap.append isFront single

theorem newline
    (reached : Reached lines passed ('\n' :: behind) commentOpen) :
    Reached (lines ++ (passed ++ ['\n'])) [] behind false := by
  rcases reached with ⟨whole, -, -, isFront⟩
  have single : Gap behind ['\n'] := .newline .nil
  refine ⟨whole.append (whole_line passed), List.not_mem_nil,
    .indent Text.blank_nil, ?_⟩
  rw [List.append_nil, ← List.append_assoc]
  exact Token.Gap.append isFront single

/-- A line comment may be a constraint, except behind a block comment, where it ends the header. -/
theorem lineComment
    (reached :
      Reached lines passed ('/' :: '/' :: (body ++ behind)) commentOpen)
    (inLine : '\n' ∉ body) (ends : ∀ c ∈ behind.head?, c = '\n') :
    constraints (byteLength lines) commentOpen
        (passed ++ '/' :: '/' :: (body ++ behind)) = [] ∨
      Reached lines (passed ++ '/' :: '/' :: body) behind commentOpen := by
  rcases reached with ⟨whole, inLine', isPassed, isFront⟩
  cases isPassed with
  | block closed =>
      exact .inl (closed.constraints_eq_nil inLine' (by decide) _ _)
  | comment _ ends _ => cases ends '/' rfl
  | indent isIndent =>
      have single : Gap behind ('/' :: '/' :: (body ++ [])) :=
        .lineComment inLine ends .nil
      rw [List.append_nil] at single
      refine .inr ⟨whole, by simp [inLine', inLine],
        .comment isIndent ends isFront, ?_⟩
      rw [← List.append_assoc]
      exact Token.Gap.append isFront single

/-- Behind a block comment, its last line was passed, except behind another, where it ends the
header. -/
theorem blockComment
    (reached :
      Reached lines passed ('/' :: '*' :: (body ++ '*' :: '/' :: behind))
        commentOpen)
    (closesOnce : ¬['*', '/'] <:+: body) :
    let text := passed ++ '/' :: '*' :: (body ++ '*' :: '/' :: behind)
    constraints (byteLength lines) commentOpen text = [] ∨
      ∃ lines' passed' still, Reached lines' passed' behind still ∧
        lines ++ text = lines' ++ (passed' ++ behind) ∧
        constraints (byteLength lines) commentOpen text =
          constraints (byteLength lines') still (passed' ++ behind) := by
  rcases reached with ⟨whole, inLine, isPassed, isFront⟩
  cases isPassed with
  | block closed =>
      exact .inl (closed.constraints_eq_nil inLine (by decide) _ _)
  | comment _ ends _ => cases ends '/' rfl
  | indent isIndent =>
      rcases exists_closed isIndent inLine closesOnce with
        ⟨more, last, still, cut, wholeMore, inLast, closed, same⟩
      have shape :
          passed ++ '/' :: '*' :: (body ++ '*' :: '/' :: behind) =
            more ++ (last ++ behind) := by
        rw [← List.append_assoc more, ← cut]
        simp
      have single :
          Gap behind ('/' :: '*' :: (body ++ '*' :: '/' :: [])) :=
        .blockComment closesOnce .nil
      have isFront' : Gap behind ((lines ++ more) ++ last) := by
        rw [List.append_assoc, ← cut, ← List.append_assoc]
        exact Token.Gap.append (by simpa using isFront) single
      refine .inr ⟨lines ++ more, last, still,
        ⟨whole.append wholeMore, inLast, .block closed, isFront'⟩, ?_, ?_⟩
      · rw [shape, List.append_assoc]
      · rw [shape, same, Text.byteLength_append]

end Reached

/-- The constraints that are found from the first gap on are comments in it. -/
theorem exists_comment
    {gap behind : List Char} (isGap : Gap behind gap) (begins : Begins behind)
    {lines passed : List Char} {commentOpen : Bool}
    (reached : Reached lines passed (gap ++ behind) commentOpen)
    {constraint : Constraint}
    (isIn : constraint ∈ constraints (byteLength lines) commentOpen
      (passed ++ (gap ++ behind))) :
    ∃ before indent body after,
      constraint.IsComment (lines ++ (passed ++ (gap ++ behind)))
        before indent body (after ++ behind) := by
  induction isGap generalizing lines passed commentOpen with
  | nil =>
      rw [List.nil_append] at isIn reached ⊢
      cases behind with
      | nil =>
          rw [List.append_nil, constraints_last reached.inLine] at isIn
          rcases reached.isComment (by simpa using isIn) with
            ⟨indent, body, isComment⟩
          exact ⟨lines, indent, body, [], isComment⟩
      | cons c behind =>
          rw [reached.token begins] at isIn
          cases isIn
  | @blank c gap isBlank later ih =>
      have shape :
          passed ++ (c :: gap ++ behind) =
            (passed ++ [c]) ++ (gap ++ behind) := by
        simp
      rw [shape] at isIn ⊢
      exact ih (reached.blank isBlank) isIn
  | @newline gap later ih =>
      rw [List.cons_append, constraints_line reached.inLine,
        reached.isPassed.leaves] at isIn
      rcases List.mem_append.mp isIn with here | next
      · rcases reached.isComment (by simpa using here) with
          ⟨indent, body, isComment⟩
        exact ⟨lines, indent, body, '\n' :: gap, isComment⟩
      · dsimp only at next
        rw [← Text.byteLength_append] at next
        rcases ih reached.newline next with
          ⟨before, indent, body, after, isComment⟩
        refine ⟨before, indent, body, after, ?_⟩
        simpa using isComment
  | @lineComment body gap inLine ends later ih =>
      have shape :
          passed ++ ('/' :: '/' :: (body ++ gap) ++ behind) =
            (passed ++ '/' :: '/' :: body) ++ (gap ++ behind) := by
        simp
      rw [List.cons_append, List.cons_append, List.append_assoc] at reached
      rcases reached.lineComment inLine ends with none | reached
      · rw [List.cons_append, List.cons_append, List.append_assoc,
          none] at isIn
        cases isIn
      · rw [shape] at isIn ⊢
        exact ih reached isIn
  | @blockComment body gap closesOnce later ih =>
      have shape :
          passed ++ ('/' :: '*' :: (body ++ '*' :: '/' :: gap) ++ behind) =
            passed ++
              '/' :: '*' :: (body ++ '*' :: '/' :: (gap ++ behind)) := by
        simp
      rw [List.append_cancel_left shape] at reached
      rw [shape] at isIn ⊢
      rcases reached.blockComment closesOnce with
        none | ⟨lines', passed', still, reached, whole, same⟩
      · rw [none] at isIn
        cases isIn
      · rw [same] at isIn
        rw [whole]
        exact ih reached isIn

/-- The constraints of a source are line comments in front of its first token. -/
theorem exists_comment_of_tokens
    {source : List Char} {first : Token} {others : List Token}
    (succeeds : Token.ofSource source = .ok (first :: others))
    {constraint : Constraint}
    (isIn : constraint ∈ constraints 0 false source) :
    ∃ before indent body after behind,
      constraint.IsComment source before indent body (after ++ behind) ∧
      Begins behind ∧ (behind = [] → first.kind = .endOfFile) ∧
      first.span.start =
        byteLength (before ++ (indent ++ '/' :: '/' :: (body ++ after))) := by
  rcases Token.exists_opening succeeds with
    ⟨gap, behind, rfl, isGap, begins, isStart, isEnd⟩
  have start : Reached [] [] (gap ++ behind) false :=
    ⟨whole_nil, List.not_mem_nil, .indent Text.blank_nil, .nil⟩
  rcases exists_comment isGap begins start isIn with
    ⟨before, indent, body, after, isComment⟩
  refine ⟨before, indent, body, after, behind, isComment, begins, isEnd, ?_⟩
  have same :
      gap ++ behind =
        (before ++ (indent ++ '/' :: '/' :: (body ++ after))) ++ behind := by
    simpa using isComment.source_eq
  rw [isStart, List.append_cancel_right same]

end Build.Header

namespace Text

/-- The offset at which the line with an offset starts. -/
def lineStart (text : List Char) (offset : Nat) : Nat :=
  let before := takeBytes offset text
  byteLength before - byteLength (Location.lastLine before)

/-- Behind whole lines, the last line is the rest. -/
theorem Location.lastLine_append
    {front line : List Char} (whole : Build.Header.Whole front)
    (noNewline : '\n' ∉ line) :
    lastLine (front ++ line) = line := by
  have stops : Lexeme.Stops (· ≠ '\n') front.reverse := by
    intro c isHead
    rw [List.head?_reverse] at isHead
    simpa using whole c isHead
  rw [lastLine, List.reverse_append, Lexeme.takeWhile_of_stops _ stops,
    List.reverse_reverse]
  intro c isIn
  rw [List.mem_reverse] at isIn
  rw [decide_eq_true_eq]
  rintro rfl
  exact noNewline isIn

theorem lineStart_append
    {front line : List Char} (whole : Build.Header.Whole front)
    (noNewline : '\n' ∉ line) (behind : List Char) :
    lineStart (front ++ (line ++ behind)) (byteLength (front ++ line)) =
      byteLength front := by
  rw [lineStart, ← List.append_assoc, takeBytes_append,
    Location.lastLine_append whole noNewline, byteLength_append,
    Nat.add_sub_cancel]

end Text

namespace Build

open Header (constraints)
open Text (byteLength takeBytes lineStart)

/-- Where a source has no token but the end of the file, the line that it is on is no constraint. -/
def Header.EndsFree (source : List Char) (first : Token) : Prop :=
  first.kind = .endOfFile →
    ∀ constraint ∈ constraints 0 false source,
      constraint.offset ≠ lineStart source first.span.start

/-- What is in front of a newline starts before the last line does. -/
theorem Header.byteLength_lt_of_newline
    {front line before after : List Char} (noNewline : '\n' ∉ line)
    (same : front ++ line = before ++ '\n' :: after) :
    byteLength before < byteLength front := by
  rcases List.append_eq_append_iff.mp same with
    ⟨middle, rfl, rfl⟩ | ⟨middle, rfl, shape⟩
  · exact absurd (by simp) noNewline
  · cases middle with
    | nil =>
        rw [List.nil_append] at shape
        exact absurd (by simp [← shape]) noNewline
    | cons c middle =>
        have positive := c.utf8Size_pos
        rw [Text.byteLength_append, byteLength]
        omega

/-- The constraints of a source are those of the lines in front of the line with the first
token. -/
theorem Header.constraints_eq_takeBytes
    {source : List Char} {first : Token} {others : List Token}
    (succeeds : Token.ofSource source = .ok (first :: others))
    (free : EndsFree source first) :
    constraints 0 false source =
      constraints 0 false
        (takeBytes (lineStart source first.span.start) source) := by
  rcases Token.exists_opening succeeds with
    ⟨gap, behind, rfl, -, -, isStart, -⟩
  rcases exists_last_line gap with ⟨front, line, rfl, whole, noNewline⟩
  have atLine :
      lineStart (front ++ line ++ behind) first.span.start =
        byteLength front := by
    rw [isStart, List.append_assoc, Text.lineStart_append whole noNewline]
  rcases constraints_append whole 0 false (line ++ behind) with
    ⟨later, shape, behindFront⟩
  rw [atLine, List.append_assoc, takeBytes_append, shape]
  suffices none : later = [] by
    rw [none, List.append_nil]
  rw [List.eq_nil_iff_forall_not_mem]
  intro constraint isLater
  have bound := behindFront constraint isLater
  have isIn : constraint ∈ constraints 0 false (front ++ line ++ behind) := by
    rw [List.append_assoc, shape]
    exact List.mem_append_right _ isLater
  rcases exists_comment_of_tokens succeeds isIn with
    ⟨before, indent, body, after, behind', isComment, begins, isEnd,
      isStart'⟩
  have same :
      front ++ line = before ++ (indent ++ '/' :: '/' :: (body ++ after)) := by
    have whole' :
        front ++ line ++ behind =
          before ++ (indent ++ '/' :: '/' :: (body ++ after)) ++ behind' := by
      simpa using isComment.source_eq
    rw [← takeBytes_append (front ++ line) behind, whole', ← isStart,
      isStart', takeBytes_append]
  rw [isComment.offset_eq, Nat.zero_add] at bound
  rcases after with _ | ⟨c, after⟩
  · -- The comment goes up to the end of the source, so its line is the one that was ruled out.
    have noToken : behind' = [] := by
      rcases behind' with _ | ⟨c, behind'⟩
      · rfl
      · cases isComment.ends c rfl
        cases begins.solid _ rfl
    rw [List.append_nil] at same
    have commentInLine : '\n' ∉ indent ++ '/' :: '/' :: body := by
      simp [isComment.indentInLine, isComment.inLine]
    refine free (isEnd noToken) constraint isIn ?_
    rw [isComment.offset_eq, atLine,
      whole.unique isComment.whole noNewline commentInLine same]
  · cases isComment.ends c rfl
    have shorter :
        byteLength (before ++ (indent ++ '/' :: '/' :: body)) <
          byteLength front :=
      byteLength_lt_of_newline noNewline (by simpa using same)
    rw [Text.byteLength_append] at shorter
    omega

/-- Only what is in front of the first token can constrain the build.  A constraint is a line
comment that the scanner passes over before the first token.  So sources that are the same up to the
lines of their first tokens give the same answer, or fail the same way, in every context. -/
theorem Context.admitsSource_header :
    (∀ source, Header.ofSource source =
      (constraints 0 false source).foldlM Header.add Header.empty) ∧
    (∀ {source : List Char} {first : Token} {others : List Token},
      Token.ofSource source = .ok (first :: others) →
      ∀ constraint ∈ constraints 0 false source,
        ∃ before indent body after,
          constraint.IsComment source before indent body after ∧
          Lexeme.atHead '/' ('/' :: (body ++ after)) =
            (.lineComment, 1 + body.length) ∧
          byteLength (before ++ (indent ++ '/' :: '/' :: body)) ≤
            first.span.start) ∧
    ∀ (context : Context) {source source' : List Char}
      {first first' : Token} {others others' : List Token},
      Token.ofSource source = .ok (first :: others) →
      Token.ofSource source' = .ok (first' :: others') →
      Header.EndsFree source first → Header.EndsFree source' first' →
      lineStart source first.span.start =
        lineStart source' first'.span.start →
      takeBytes (lineStart source first.span.start) source =
        takeBytes (lineStart source first.span.start) source' →
      context.admitsSource source = context.admitsSource source' := by
  refine ⟨fun source => Header.scanFrom_eq 0 false Header.empty source,
    ?_, ?_⟩
  · intro source first others scans constraint isIn
    rcases Header.exists_comment_of_tokens scans isIn with
      ⟨before, indent, body, after, behind, isComment, -, -, isStart⟩
    refine ⟨before, indent, body, after ++ behind, isComment, ?_, ?_⟩
    · have stops : Lexeme.Stops (· ≠ '\n') (after ++ behind) := by
        intro c isHead
        simpa using isComment.ends c isHead
      have run :
          (body ++ (after ++ behind)).takeWhile (· ≠ '\n') = body := by
        refine Lexeme.takeWhile_of_stops (fun c isIn => ?_) stops
        rw [decide_eq_true_eq]
        rintro rfl
        exact isComment.inLine isIn
      change Lexeme.slashAtHead ('/' :: (body ++ (after ++ behind))) = _
      rw [Lexeme.slashAtHead, run]
    · rw [isStart]
      exact Token.byteLength_mono ⟨after, by simp⟩
  · intro context source source' first first' others others' scans scans'
      free free' sameStart sameText
    have same : constraints 0 false source = constraints 0 false source' := by
      rw [Header.constraints_eq_takeBytes scans free, sameText, sameStart,
        ← Header.constraints_eq_takeBytes scans' free']
    rw [admitsSource, admitsSource, Header.ofSource, Header.ofSource,
      Header.scanFrom_eq, Header.scanFrom_eq, same]

/-- Constraints inside of a block comment and behind a token do not count, and the one between the
two does. -/
theorem Context.admitsSource_header_between_comments :
    let context := Context.ofPlatform "linux" "amd64"
    let header := "/*\n//go:build ignore\n*/\n// +build linux\n"
    let source := (header ++ "package p").toList
    let source' := (header ++ " \"\" /*\n//go:build ignore\n*/").toList
    (constraints 0 false source).map (·.offset) = [24] ∧
    (∀ constraint ∈ constraints 0 false source,
      ∃ before indent body after,
        constraint.IsComment source before indent body after ∧
        byteLength (before ++ (indent ++ '/' :: '/' :: body)) ≤ 40) ∧
    context.admitsSource source = .ok true ∧
    context.admitsSource source' = .ok true := by
  intro context header source source'
  let first : Token := ⟨.keyword .package, "package", ⟨40, 47⟩⟩
  let first' : Token := ⟨.string, "\"\"", ⟨41, 43⟩⟩
  have scans :
      Token.ofSource source = .ok [first, ⟨.identifier, "p", ⟨48, 49⟩⟩,
        Token.lineEnd 49, Token.endOfFile 49] := by
    decide +kernel
  have scans' :
      Token.ofSource source' =
        .ok [first', Token.lineEnd 44, Token.endOfFile 67] := by
    decide +kernel
  have free : Header.EndsFree source first := fun isEnd => by cases isEnd
  have free' : Header.EndsFree source' first' := fun isEnd => by cases isEnd
  have answer : context.admitsSource source = .ok true := by decide +kernel
  refine ⟨by decide +kernel, ?_, answer, ?_⟩
  · intro constraint isIn
    rcases Context.admitsSource_header.2.1 scans constraint isIn with
      ⟨before, indent, body, after, isComment, -, inFront⟩
    exact ⟨before, indent, body, after, isComment, inFront⟩
  · rw [← answer]
    exact (Context.admitsSource_header.2.2 context scans scans' free free'
      (by decide +kernel) (by decide +kernel)).symm

/-- Where the end of the file is the first token, the text in front of its line does not decide: the
line may be a constraint. -/
theorem Context.admitsSource_only_comment :
    let context := Context.ofPlatform "linux" "amd64"
    let source := "//go:build linux".toList
    let source' := "//go:build windows".toList
    let first := Token.endOfFile 16
    let first' := Token.endOfFile 18
    Token.ofSource source = .ok [first] ∧
    Token.ofSource source' = .ok [first'] ∧
    lineStart source first.span.start =
      lineStart source' first'.span.start ∧
    takeBytes (lineStart source first.span.start) source =
      takeBytes (lineStart source first.span.start) source' ∧
    context.admitsSource source ≠ context.admitsSource source' := by
  decide +kernel

end Build

end GoUnion
