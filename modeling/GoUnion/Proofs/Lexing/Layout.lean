import GoUnion.Proofs.Lexing.Gaps
import GoUnion.Proofs.Spans

/-!
# What the tokens of a source text cover

The tokens of a source text and the gaps between them make up the whole text.  A
token with a text of its own stands for that text, and between two such tokens
there is one semicolon exactly where the first of them ends a statement and the
gap holds a newline.
-/

namespace GoUnion.Token

open Text (Span byteLength byteLength_append dropBytes)
open Lexeme (Passes)

/-- Whether a token stands for no text: the semicolon of a line end or the end of the file. -/
def isInserted (token : Token) : Bool :=
  token.kind = .endOfFile ||
    (token.kind = .symbol .semicolon && token.text = "")

@[simp]
theorem isInserted_lineEnd (offset : Nat) :
    (lineEnd offset).isInserted = true := rfl

@[simp]
theorem isInserted_endOfFile (offset : Nat) :
    (endOfFile offset).isInserted = true := rfl

theorem isInserted_of_mem_lineEnd?
    {pending : Bool} {offset : Nat} {token : Token}
    (isIn : token ∈ lineEnd? pending offset) :
    token.isInserted = true := by
  cases pending with
  | false => cases isIn
  | true =>
      rw [List.mem_singleton.mp isIn]
      rfl

/-- Behind the last written token only inserted ones stand. -/
theorem isInserted_of_eq_finish
    {pending : Bool} {mark stop : Nat} {front back : List Token}
    {token : Token}
    (shape :
      lineEnd? pending mark ++ [endOfFile stop] = front ++ token :: back) :
    token.isInserted = true := by
  have isIn : token ∈ front ++ token :: back := by simp
  rw [← shape] at isIn
  rcases List.mem_append.mp isIn with isMark | isEnd
  · exact isInserted_of_mem_lineEnd? isMark
  · rw [List.mem_singleton.mp isEnd]
    rfl

theorem isInserted_of_text
    {kind : TokenKind} {body : List Char} (hasText : body ≠ [])
    (noEnd : kind ≠ .endOfFile) (span : Span) :
    isInserted ⟨kind, String.ofList body, span⟩ = false := by
  simp [isInserted, hasText, noEnd]

/-! ## Texts cut into gaps and tokens -/

/-- The tokens of a text that starts at an offset, read off a cut of the text into gaps and
tokens.  The flag says whether the token before the text ends a statement. -/
inductive Layout : Nat → Bool → List Char → List Token → Prop where
  | finish {offset : Nat} {ends : Bool} {gap before : List Char}
      (isGap : Gap [] gap) (marks : before <+: gap) :
      Layout offset ends gap
        (lineEnd? ends (offset + byteLength before) ++
          [endOfFile (offset + byteLength gap)])
  | token {offset : Nat} {ends : Bool} {kind : TokenKind}
      {gap before body rest : List Char} {tokens : List Token}
      (isGap : Gap (body ++ rest) gap) (marks : before <+: gap)
      (hasText : body ≠ []) (noEnd : kind ≠ .endOfFile)
      (later :
        Layout (offset + byteLength gap + byteLength body)
          kind.endsStatement rest tokens) :
      Layout offset ends (gap ++ (body ++ rest))
        (lineEnd? (ends && gap.contains '\n')
            (offset + byteLength before) ++
          ⟨kind, String.ofList body,
            ⟨offset + byteLength gap,
              offset + byteLength gap + byteLength body⟩⟩ :: tokens)

/-- A text without a newline that opens the first gap. -/
theorem Layout.prepend
    {offset : Nat} {ends : Bool} {piece text : List Char}
    {tokens : List Token}
    (opens : ∀ gap rest, text = gap ++ rest → Gap rest gap →
      Gap rest (piece ++ gap))
    (inLine : '\n' ∉ piece)
    (layout : Layout (offset + byteLength piece) ends text tokens) :
    Layout offset ends (piece ++ text) tokens := by
  cases layout with
  | @finish _ _ _ before isGap marks =>
      have longer : Layout offset ends (piece ++ text) _ :=
        .finish (opens text [] (by simp) isGap)
          ((List.prefix_append_right_inj piece).mpr marks)
      simpa [Nat.add_assoc] using longer
  | @token _ _ kind gap before body rest tokens isGap marks hasText noEnd
      later =>
      have longer :
          Layout offset ends ((piece ++ gap) ++ (body ++ rest)) _ :=
        .token (opens gap _ rfl isGap)
          ((List.prefix_append_right_inj piece).mpr marks) hasText noEnd
          (by simpa [Nat.add_assoc] using later)
      have same :
          (piece ++ gap).contains '\n' = gap.contains '\n' := by
        simp [inLine]
      rw [same] at longer
      simpa [Nat.add_assoc] using longer

/-- A text with a newline that opens the first gap. -/
theorem Layout.breakLine
    {offset : Nat} {piece text : List Char} {tokens : List Token}
    (opens : ∀ gap rest, text = gap ++ rest → Gap rest gap →
      Gap rest (piece ++ gap))
    (isBreak : '\n' ∈ piece)
    (layout : Layout (offset + byteLength piece) false text tokens)
    (ends : Bool) :
    Layout offset ends (piece ++ text) (lineEnd? ends offset ++ tokens) := by
  cases layout with
  | finish isGap marks =>
      have longer : Layout offset ends (piece ++ text) _ :=
        .finish (opens text [] (by simp) isGap) List.nil_prefix
      simpa [byteLength, lineEnd?, Nat.add_assoc] using longer
  | @token _ _ kind gap before body rest tokens isGap marks hasText noEnd
      later =>
      have longer :
          Layout offset ends ((piece ++ gap) ++ (body ++ rest)) _ :=
        .token (opens gap _ rfl isGap) List.nil_prefix hasText noEnd
          (by simpa [Nat.add_assoc] using later)
      have same : (piece ++ gap).contains '\n' = true := by
        simp [isBreak]
      rw [same] at longer
      simpa [byteLength, lineEnd?, Nat.add_assoc] using longer

theorem Scans.layout
    {offset : Nat} {pending final : Bool} {text : List Char}
    {tokens : List Token}
    (scans : Scans [] offset pending text tokens final) :
    Layout offset pending text
      (tokens ++ (lineEnd? final (offset + byteLength text) ++
        [endOfFile (offset + byteLength text)])) := by
  induction scans with
  | @stop offset pending => exact .finish .nil List.nil_prefix
  | @lexeme offset pending after final c tail text lexeme first others
      isHead leaves _ ih =>
      have length :
          offset + byteLength (c :: (tail ++ text)) =
            offset + byteLength (c :: tail) + byteLength text := by
        rw [Nat.add_assoc, ← byteLength_append, List.cons_append]
      rw [length, List.append_assoc, ← List.cons_append]
      rw [List.append_nil] at isHead
      have passes :=
        Lexeme.passes_of_atHead isHead (by rintro rfl; cases leaves)
          (by rintro rfl; cases leaves)
      -- A token ends the gap in front of it; anything else joins the gap that opens the rest.
      by_cases isToken : ∃ kind, lexeme = .token kind
      · rcases isToken with ⟨kind, rfl⟩
        cases leaves
        cases passes with
        | token noEnd =>
            have first :
                Layout offset pending ([] ++ ((c :: tail) ++ text)) _ :=
              .token .nil List.nil_prefix (List.cons_ne_nil c tail) noEnd
                ih
            simpa [lineEnd?, Text.byteLength] using first
      · have isOther : ∀ kind, lexeme ≠ .token kind :=
          fun kind isKind => isToken ⟨kind, isKind⟩
        have opens : ∀ gap rest, text = gap ++ rest → Gap rest gap →
            Gap rest ((c :: tail) ++ gap) := by
          rintro gap rest rfl isGap
          exact passes.gap isOther isGap
        rw [passes.leave isOther] at leaves
        split at leaves
        case isTrue isBreak =>
          cases leaves
          exact ih.breakLine opens isBreak _
        case isFalse inLine =>
          cases leaves
          exact ih.prepend opens inLine

theorem layout_of_ofSource
    {text : List Char} {tokens : List Token}
    (succeeds : ofSource text = .ok tokens) :
    Layout 0 false text tokens := by
  rcases scans_of_tokensFrom succeeds with ⟨used, final, scans, rfl⟩
  exact scans.layout

/-! ## What a cut says about the tokens -/

/-- A semicolon somewhere in a span, or no token at all. -/
def SemicolonIf (condition : Prop) (span : Span) (tokens : List Token) :
    Prop :=
  (condition → ∃ offset, span.start ≤ offset ∧ offset ≤ span.stop ∧
    tokens = [lineEnd offset]) ∧
  (¬condition → tokens = [])

/-- What the tokens of a text have to do with it. -/
structure Covers (text : List Char) (tokens : List Token) : Prop where
  /-- Tokens stand at valid spans, for the texts there. -/
  spanned : ∀ token ∈ tokens, token.span.Valid text ∧
    token.text = String.ofList (token.span.slice text)
  /-- Only inserted tokens are empty. -/
  nonempty : ∀ token ∈ tokens, token.isInserted = false →
    token.span.start < token.span.stop
  /-- Each token stands behind those before it. -/
  increasing :
    tokens.Pairwise fun first later => first.span.stop ≤ later.span.start
  /-- In front of the first written token is a gap, and no semicolon. -/
  opening : ∀ inserted first back,
    tokens = inserted ++ first :: back → first.isInserted = false →
      (∀ token ∈ inserted, token.isInserted = true) →
        Gap (dropBytes first.span.start text)
          (Span.slice ⟨0, first.span.start⟩ text) ∧ inserted = []
  /-- Between two written tokens is a gap, and a semicolon if a statement ends there. -/
  between : ∀ front last inserted next back,
    tokens = front ++ last :: (inserted ++ next :: back) →
      last.isInserted = false → next.isInserted = false →
      (∀ token ∈ inserted, token.isInserted = true) →
        let span : Span := ⟨last.span.stop, next.span.start⟩
        Gap (dropBytes next.span.start text) (span.slice text) ∧
          SemicolonIf
            (last.kind.endsStatement = true ∧ '\n' ∈ span.slice text)
            span inserted
  /-- Behind the last written token is a gap, and a semicolon if a statement ends there. -/
  closing : ∀ front last inserted,
    tokens = front ++ last :: inserted → last.isInserted = false →
      (∀ token ∈ inserted, token.isInserted = true) →
        let span : Span := ⟨last.span.stop, byteLength text⟩
        Gap [] (span.slice text) ∧
          ∃ semicolon,
            inserted = semicolon ++ [endOfFile (byteLength text)] ∧
            SemicolonIf (last.kind.endsStatement = true) span semicolon
  /-- Where no token is written, the text is a gap. -/
  blank : (∀ token ∈ tokens, token.isInserted = true) →
    Gap [] text ∧ tokens = [endOfFile (byteLength text)]
  /-- The end of the file is the last token, and only that. -/
  ends : ∃ others, tokens = others ++ [endOfFile (byteLength text)] ∧
    ∀ token ∈ others, token.kind ≠ .endOfFile

theorem semicolonIf_lineEnd?
    {condition : Prop} {pending : Bool} {span : Span} {offset : Nat}
    (holds : condition ↔ pending = true) (start : span.start ≤ offset)
    (stop : offset ≤ span.stop) :
    SemicolonIf condition span (lineEnd? pending offset) := by
  rw [SemicolonIf, holds]
  cases pending with
  | false => exact ⟨by simp, fun _ => rfl⟩
  | true => exact ⟨fun _ => ⟨offset, start, stop, rfl⟩, by simp⟩

theorem byteLength_mono
    {front text : List Char} (isPrefix : front <+: text) :
    byteLength front ≤ byteLength text := by
  rcases isPrefix with ⟨back, rfl⟩
  rw [byteLength_append]
  exact Nat.le_add_right _ _

/-- A written token behind inserted ones is the first written token, or stands behind it. -/
theorem split_of_written
    {inserted later front back : List Token} {token last : Token}
    (same : inserted ++ token :: later = front ++ last :: back)
    (each : ∀ token ∈ inserted, token.isInserted = true)
    (written : last.isInserted = false) :
    (front = inserted ∧ last = token ∧ back = later) ∨
      ∃ between, front = inserted ++ token :: between ∧
        later = between ++ last :: back := by
  rcases List.append_eq_append_iff.mp same with
    ⟨between, rfl, shape⟩ | ⟨between, rfl, shape⟩
  · cases between with
    | nil =>
        cases shape
        exact .inl ⟨by simp, rfl, rfl⟩
    | cons first between =>
        cases shape
        exact .inr ⟨between, rfl, rfl⟩
  · cases between with
    | nil =>
        cases shape
        exact .inl ⟨by simp, rfl, rfl⟩
    | cons first between =>
        cases shape
        rw [each last (by simp)] at written
        cases written

/-- The first written token stands where only inserted ones are in front of it. -/
theorem eq_of_first_written
    {inserted later front back : List Token} {token last : Token}
    (same : inserted ++ token :: later = front ++ last :: back)
    (each : ∀ token ∈ inserted, token.isInserted = true)
    (written : last.isInserted = false)
    (each' : ∀ token ∈ front, token.isInserted = true)
    (written' : token.isInserted = false) :
    front = inserted ∧ last = token ∧ back = later := by
  rcases split_of_written same each written with first | ⟨between, rfl, -⟩
  · exact first
  · rw [each' token (by simp)] at written'
    cases written'

theorem span_of_mem_lineEnd?
    {pending : Bool} {offset : Nat} {token : Token}
    (isIn : token ∈ lineEnd? pending offset) :
    token.span = .point offset ∧ token.text = "" := by
  cases pending with
  | false => cases isIn
  | true =>
      rw [List.mem_singleton.mp isIn]
      exact ⟨rfl, rfl⟩

namespace Layout

variable {offset : Nat} {ends : Bool} {text : List Char}
  {tokens : List Token}

theorem le_start (layout : Layout offset ends text tokens) :
    ∀ token ∈ tokens, offset ≤ token.span.start := by
  induction layout with
  | finish =>
      rw [List.forall_mem_append, List.forall_mem_singleton]
      refine ⟨fun token isIn => ?_, Nat.le_add_right _ _⟩
      rw [(span_of_mem_lineEnd? isIn).1]
      exact Nat.le_add_right _ _
  | token _ _ _ _ _ ih =>
      rw [List.forall_mem_append, List.forall_mem_cons]
      refine ⟨fun token isIn => ?_, Nat.le_add_right _ _,
        fun token isIn => ?_⟩
      · rw [(span_of_mem_lineEnd? isIn).1]
        exact Nat.le_add_right _ _
      · have le := ih token isIn
        omega

theorem increasing (layout : Layout offset ends text tokens) :
    tokens.Pairwise fun first later =>
      first.span.stop ≤ later.span.start := by
  have single {pending : Bool} {mark : Nat} :
      (lineEnd? pending mark).Pairwise fun first later =>
        first.span.stop ≤ later.span.start := by
    cases pending with
    | false => exact .nil
    | true => exact List.pairwise_singleton _ _
  induction layout with
  | finish _ marks =>
      rw [List.pairwise_append]
      refine ⟨single, List.pairwise_singleton _ _, ?_⟩
      intro first isFirst last isLast
      rw [(span_of_mem_lineEnd? isFirst).1, List.mem_singleton.mp isLast]
      exact Nat.add_le_add_left (byteLength_mono marks) _
  | @token offset ends kind gap before body rest later _ marks _ _ layout
      ih =>
      have behind : ∀ token ∈ later,
          offset + byteLength gap + byteLength body ≤ token.span.start :=
        layout.le_start
      have le := byteLength_mono marks
      rw [List.pairwise_append, List.pairwise_cons]
      refine ⟨single, ⟨behind, ih⟩, ?_⟩
      intro first isFirst
      rw [(span_of_mem_lineEnd? isFirst).1, List.forall_mem_cons]
      refine ⟨Nat.add_le_add_left le _, ?_⟩
      intro token isIn
      have le' := behind token isIn
      simp only [Span.point]
      omega

theorem nonempty (layout : Layout offset ends text tokens) :
    ∀ token ∈ tokens, token.isInserted = false →
      token.span.start < token.span.stop := by
  induction layout with
  | finish =>
      rw [List.forall_mem_append, List.forall_mem_singleton]
      refine ⟨?_, by simp⟩
      intro token isIn written
      rw [isInserted_of_mem_lineEnd? isIn] at written
      cases written
  | @token _ _ _ _ _ body _ _ _ _ hasText _ _ ih =>
      rw [List.forall_mem_append, List.forall_mem_cons]
      refine ⟨?_, ?_, ih⟩
      · intro token isIn written
        rw [isInserted_of_mem_lineEnd? isIn] at written
        cases written
      · intro _
        cases body with
        | nil => exact absurd rfl hasText
        | cons c tail =>
            exact Nat.lt_add_of_pos_right
              (Nat.add_pos_left c.utf8Size_pos _)

theorem ends_with (layout : Layout offset ends text tokens) :
    ∃ others,
      tokens = others ++ [endOfFile (offset + byteLength text)] ∧
        ∀ token ∈ others, token.kind ≠ .endOfFile := by
  have noEnd {pending : Bool} {mark : Nat} :
      ∀ token ∈ lineEnd? pending mark, token.kind ≠ .endOfFile := by
    intro token isIn
    cases pending with
    | false => cases isIn
    | true =>
        rw [List.mem_singleton.mp isIn]
        simp [lineEnd]
  induction layout with
  | finish => exact ⟨_, rfl, noEnd⟩
  | @token offset ends kind gap before body rest later _ _ _ isOther _
      ih =>
      rcases ih with ⟨others, rfl, each⟩
      have length :
          offset + byteLength (gap ++ (body ++ rest)) =
            offset + byteLength gap + byteLength body +
              byteLength rest := by
        simp [Nat.add_assoc]
      rw [length]
      refine ⟨_, (List.append_assoc _ (_ :: others) _).symm, ?_⟩
      rw [List.forall_mem_append, List.forall_mem_cons]
      exact ⟨noEnd, isOther, each⟩

theorem spanned
    (layout : Layout offset ends text tokens) (before : List Char)
    (isOffset : offset = byteLength before) :
    ∀ token ∈ tokens, token.span.Valid (before ++ text) ∧
      token.text = String.ofList (token.span.slice (before ++ text)) := by
  have point {whole : List Char} {mark : Nat} {token : Token}
      (isBoundary : Text.IsBoundary whole mark)
      (isPoint : token.span = .point mark ∧ token.text = "") :
      token.span.Valid whole ∧
        token.text = String.ofList (token.span.slice whole) := by
    rw [isPoint.1, isPoint.2, Span.slice_point]
    exact ⟨.point isBoundary, rfl⟩
  -- What is read joins the text in front, so spans stay those of the whole text.
  induction layout generalizing before with
  | @finish offset ends gap inner isGap marks =>
      subst isOffset
      rcases marks with ⟨behind, rfl⟩
      rw [List.forall_mem_append, List.forall_mem_singleton]
      constructor
      · intro token isIn
        refine point ?_ (span_of_mem_lineEnd? isIn)
        rw [← byteLength_append, ← List.append_assoc]
        exact Text.isBoundary_append _ _
      · refine point ?_ ⟨rfl, rfl⟩
        rw [← byteLength_append]
        simpa using Text.isBoundary_append (before ++ (inner ++ behind)) []
  | @token offset ends kind gap inner body rest later isGap marks hasText
      noEnd _ ih =>
      subst isOffset
      rcases marks with ⟨behind, rfl⟩
      have atToken :
          before ++ (inner ++ behind ++ (body ++ rest)) =
            (before ++ (inner ++ behind)) ++ (body ++ rest) := by
        simp
      have atRest :
          before ++ (inner ++ behind ++ (body ++ rest)) =
            (before ++ (inner ++ behind) ++ body) ++ rest := by
        simp
      rw [List.forall_mem_append, List.forall_mem_cons]
      refine ⟨?_, ⟨?_, ?_⟩, ?_⟩
      · intro token isIn
        refine point ?_ (span_of_mem_lineEnd? isIn)
        rw [← byteLength_append, List.append_assoc inner,
          ← List.append_assoc before]
        exact Text.isBoundary_append _ _
      · rw [atToken, ← byteLength_append]
        exact Span.valid_append _ _ _
      · rw [atToken, ← byteLength_append]
        exact congrArg String.ofList (Span.slice_append _ _ _).symm
      · rw [atRest]
        exact ih _ (by simp only [byteLength_append])

/-- The first written token of a text. -/
theorem opening
    {inserted back : List Token} {first : Token}
    (layout : Layout offset ends text tokens) (before : List Char)
    (isOffset : offset = byteLength before)
    (shape : tokens = inserted ++ first :: back)
    (written : first.isInserted = false)
    (each : ∀ token ∈ inserted, token.isInserted = true) :
    let span : Span := ⟨offset, first.span.start⟩
    let whole := before ++ text
    Gap (dropBytes first.span.start whole) (span.slice whole) ∧
      SemicolonIf (ends = true ∧ '\n' ∈ span.slice whole) span inserted := by
  cases layout with
  | finish =>
      rw [isInserted_of_eq_finish shape] at written
      cases written
  | @token _ _ kind gap inner body rest later isGap marks hasText noEnd _ =>
      rcases eq_of_first_written shape
          (fun _ isIn => isInserted_of_mem_lineEnd? isIn) written each
          (isInserted_of_text hasText noEnd _) with
        ⟨rfl, rfl, rfl⟩
      subst isOffset
      have isRest :
          dropBytes (byteLength before + byteLength gap)
            (before ++ (gap ++ (body ++ rest))) = body ++ rest := by
        rw [← byteLength_append, ← List.append_assoc, dropBytes_append]
      simp only [Span.slice_append, isRest]
      refine ⟨isGap, semicolonIf_lineEnd? (by simp) ?_ ?_⟩
      · exact Nat.le_add_right _ _
      · exact Nat.add_le_add_left (byteLength_mono marks) _

/-- A text without written tokens. -/
theorem blank
    (layout : Layout offset ends text tokens)
    (each : ∀ token ∈ tokens, token.isInserted = true) :
    Gap [] text ∧ ∃ semicolon,
      tokens = semicolon ++ [endOfFile (offset + byteLength text)] ∧
        SemicolonIf (ends = true) ⟨offset, offset + byteLength text⟩
          semicolon := by
  cases layout with
  | finish isGap marks =>
      refine ⟨isGap, _, rfl, semicolonIf_lineEnd? Iff.rfl ?_ ?_⟩
      · exact Nat.le_add_right _ _
      · exact Nat.add_le_add_left (byteLength_mono marks) _
  | token _ _ hasText noEnd _ =>
      have written := each _ (List.mem_append_right _ List.mem_cons_self)
      rw [isInserted_of_text hasText noEnd] at written
      cases written

/-- What stands behind a written token is cut from its end on. -/
theorem behind
    {front back : List Token} {last : Token}
    (layout : Layout offset ends text tokens) (before : List Char)
    (isOffset : offset = byteLength before)
    (shape : tokens = front ++ last :: back)
    (written : last.isInserted = false) :
    ∃ before' text', before ++ text = before' ++ text' ∧
      last.span.stop = byteLength before' ∧
      Layout last.span.stop last.kind.endsStatement text' back := by
  induction layout generalizing before front with
  | finish =>
      rw [isInserted_of_eq_finish shape] at written
      cases written
  | @token offset ends kind gap inner body rest later isGap marks hasText
      noEnd layout ih =>
      subst isOffset
      have longer :
          before ++ (gap ++ (body ++ rest)) =
            (before ++ gap ++ body) ++ rest := by
        simp
      have isStop :
          byteLength before + byteLength gap + byteLength body =
            byteLength (before ++ gap ++ body) := by
        simp only [byteLength_append]
      rcases split_of_written shape
          (fun _ isIn => isInserted_of_mem_lineEnd? isIn) written with
        ⟨-, rfl, rfl⟩ | ⟨between, -, shape'⟩
      · exact ⟨_, rest, longer, isStop, layout⟩
      · rw [longer]
        exact ih _ isStop shape'

end Layout

/-- The tokens of a source text stand for its pieces between the gaps, with a semicolon where a
statement ends before a newline. -/
theorem ofSource_covers
    {text : List Char} {tokens : List Token}
    (succeeds : ofSource text = .ok tokens) :
    Covers text tokens := by
  have layout := layout_of_ofSource succeeds
  refine {
    spanned := layout.spanned [] rfl
    nonempty := layout.nonempty
    increasing := layout.increasing
    opening := ?_
    between := ?_
    closing := ?_
    blank := ?_
    ends := by simpa using layout.ends_with }
  · intro inserted first back shape written each
    rcases layout.opening [] rfl shape written each with
      ⟨isGap, -, isNone⟩
    exact ⟨isGap, isNone (by simp)⟩
  · intro front last inserted next back shape written written' each
    rcases layout.behind [] rfl shape written with
      ⟨before, text', whole, isStop, later⟩
    rw [List.nil_append] at whole
    rw [whole]
    exact later.opening before isStop rfl written' each
  · intro front last inserted shape written each
    rcases layout.behind [] rfl shape written with
      ⟨before, text', whole, isStop, later⟩
    rw [List.nil_append] at whole
    rcases later.blank each with ⟨isGap, semicolon, rfl, semicolonIf⟩
    have isEnd : last.span.stop + byteLength text' = byteLength text := by
      rw [isStop, ← byteLength_append, whole]
    rw [isEnd] at semicolonIf ⊢
    have isSlice : Span.slice ⟨last.span.stop, byteLength text⟩ text =
        text' := by
      rw [← isEnd, isStop, whole]
      simpa using Span.slice_append before text' []
    exact ⟨isSlice ▸ isGap, semicolon, rfl, semicolonIf⟩
  · intro each
    rcases layout.blank each with ⟨isGap, semicolon, rfl, -, isNone⟩
    rw [isNone (by simp), Nat.zero_add]
    exact ⟨isGap, rfl⟩

/-- A newline inside a block comment ends a statement, and so does the end of the text. -/
theorem ofSource_covers_comment :
    ofSource "x /*\n*/ y // z".toList =
        .ok [⟨.identifier, "x", ⟨0, 1⟩⟩, lineEnd 2,
          ⟨.identifier, "y", ⟨8, 9⟩⟩, lineEnd 14, endOfFile 14] ∧
      Covers "x /*\n*/ y // z".toList
        [⟨.identifier, "x", ⟨0, 1⟩⟩, lineEnd 2,
          ⟨.identifier, "y", ⟨8, 9⟩⟩, lineEnd 14, endOfFile 14] := by
  have scanned :
      ofSource "x /*\n*/ y // z".toList =
        .ok [⟨.identifier, "x", ⟨0, 1⟩⟩, lineEnd 2,
          ⟨.identifier, "y", ⟨8, 9⟩⟩, lineEnd 14, endOfFile 14] := by
    decide +kernel
  exact ⟨scanned, ofSource_covers scanned⟩

end GoUnion.Token
