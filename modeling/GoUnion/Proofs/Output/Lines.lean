import GoUnion.Proofs.FileGrammar.Completeness
import GoUnion.Proofs.Spelling.RoundTrip

/-!
# Printed lines

A printed line is a list of parts: names, reserved words, marks, gaps, literals
and texts of types.  A part is valid by construction, and whether two parts may
stand next to each other depends on their constructors only.  So the tokens of a
line, and the number of groups that are open behind it, are found by looking at
its parts, whatever its names and its types are.
-/

namespace GoUnion

open Lexeme (IsName EndsName Stops isGap stops_cons)
open Reader (passing passAfter nesting)
open Token
open Text (byteLength)

/-! ## Parts -/

/-- Whether a mark is scanned on its own: it starts neither a comment nor a number. -/
def Symbol.isPlain : Symbol → Bool
  | .slash | .dot | .ellipsis => false
  | _ => true

/-- Whether nothing can go on behind a mark. -/
def Symbol.isDelimiter : Symbol → Bool
  | .leftParen | .rightParen | .leftBracket | .rightBracket | .leftBrace
  | .rightBrace | .comma | .semicolon => true
  | _ => false

theorem Symbol.opens_of_isPlain
    {mark : Symbol} (isPlain : mark.isPlain = true) :
    mark.spelling.toList.head?.all opensMark = true := by
  cases mark with
  | slash | dot | ellipsis => cases isPlain
  | _ => decide

theorem Symbol.continuations_of_isDelimiter
    {mark : Symbol} (isDelimiter : mark.isDelimiter = true) :
    continuations mark = [] := by
  cases mark with
  | leftParen | rightParen | leftBracket | rightBracket | leftBrace
  | rightBrace | comma | semicolon => decide
  | _ => cases isDelimiter

/-- Tokens that leave the number of open groups alone wherever enough groups are open. -/
def PassedFrom (least : Nat) (tokens : List Token) : Prop :=
  ∀ depth, least ≤ depth → passing depth tokens = some depth

theorem passing_append
    {depth next : Nat} {front : List Token}
    (passed : passing depth front = some next) (back : List Token) :
    passing depth (front ++ back) = passing next back := by
  rw [passing, List.foldlM_append]
  show (passing depth front).bind (passing · back) = _
  rw [passed]
  rfl

/-- A part of a printed line. -/
inductive Part where
  | name (text : String) (isName : IsName text)
  | word (reserved : Keyword)
  | mark (symbol : Symbol) (isPlain : symbol.isPlain = true)
  | point
  | gap (first : Char) (others : List Char)
    (areGaps : ∀ c ∈ first :: others, isGap c = true)
  | quoted (text : String)
  /-- A text that is passed over where at least some number of groups is open. -/
  | form (text : String) (least : Nat)
    (forms : Forms text.toList (PassedFrom least))
  | comment (text : List Char) (oneLine : '\n' ∉ text)
  | newline

namespace Part

/-- The characters of a part. -/
def text : Part → List Char
  | .name text _ => text.toList
  | .word reserved => reserved.spelling.toList
  | .mark symbol _ => symbol.spelling.toList
  | .point => ['.']
  | .gap first others _ => first :: others
  | .quoted text => (Text.quoted text).toList
  | .form text _ _ => text.toList
  | .comment text _ => '/' :: '/' :: text
  | .newline => ['\n']

/-- What has to be behind a part for it to be scanned as it is. -/
def Ends (rest : List Char) : Part → Prop
  | .name .. | .word _ | .form .. => EndsName rest
  | .mark symbol _ => EndsMark symbol rest
  | .point => Stops Numeral.isDigit rest ∧ EndsMark .dot rest
  | .gap .. => Stops isGap rest
  | .comment .. => ∃ later, rest = '\n' :: later
  | .quoted _ | .newline => True

/-- Whether the statement may end behind a part, given whether it may end before it. -/
def endsStatement (pending : Bool) : Part → Bool
  | .name .. | .quoted _ | .form .. => true
  | .word reserved => (TokenKind.keyword reserved).endsStatement
  | .mark symbol _ => (TokenKind.symbol symbol).endsStatement
  | .point | .newline => false
  | .gap .. | .comment .. => pending

/-- What the tokens of a part are, given whether the statement may end before it. -/
def Leaves (pending : Bool) (tokens : List Token) : Part → Prop
  | .name text _ => ∃ offset, tokens = [wordToken text offset]
  | .word reserved => ∃ offset,
    tokens = [wordToken reserved.spelling offset]
  | .mark symbol _ => ∃ offset, tokens = [markToken symbol offset]
  | .point => ∃ offset, tokens = [markToken .dot offset]
  | .quoted text => ∃ offset,
    tokens = [literalToken .string (Text.quoted text).toList offset]
  | .form _ least _ => PassedFrom least tokens
  | .newline => ∃ offset, tokens = lineEnd? pending offset
  | .gap .. | .comment .. => tokens = []

/-- A part is scanned to its tokens. -/
theorem scans
    {part : Part} {rest : List Char} (ends : part.Ends rest) (offset : Nat)
    (pending : Bool) :
    ∃ tokens,
      Scans rest offset pending part.text tokens
          (part.endsStatement pending) ∧
        part.Leaves pending tokens := by
  cases part with
  | name text isName => exact ⟨_, scans_name isName ends, offset, rfl⟩
  | word reserved =>
      exact ⟨_, scans_keyword reserved ends, offset, rfl⟩
  | mark symbol isPlain =>
      exact ⟨_, scans_mark symbol (Symbol.opens_of_isPlain isPlain) ends,
        offset, rfl⟩
  | point => exact ⟨_, scans_point ends.1 ends.2, offset, rfl⟩
  | gap first others areGaps =>
      exact ⟨_, scans_gap (List.cons_ne_nil _ _) areGaps ends, rfl⟩
  | quoted text => exact ⟨_, scans_quotedText text, offset, rfl⟩
  | form text least forms => exact forms.scans offset pending rest ends
  | comment text oneLine =>
      rcases ends with ⟨later, rfl⟩
      exact ⟨_, scans_comment oneLine later, rfl⟩
  | newline => exact ⟨_, scans_newline, offset, rfl⟩

/-- Whether the text of a part may continue a name. -/
def startsWord : Part → Bool
  | .name .. | .word _ | .form .. => true
  | _ => false

/-- Whether no mark goes on with the text of a part. -/
def endsMarks : Part → Bool
  | .name .. | .word _ | .gap .. | .newline => true
  | _ => false

/-- Whether a part may stand right before another one. -/
def mayPrecede : Part → Part → Bool
  | .name .., next | .word _, next | .form .., next => !next.startsWord
  | .mark symbol _, .form .. => symbol.isDelimiter || symbol == .star
  | .mark symbol _, next => symbol.isDelimiter || next.endsMarks
  | .point, .name .. => true
  | .point, .mark symbol _ => symbol == .leftParen
  | .point, _ => false
  | .gap .., .gap .. => false
  | .gap .., _ => true
  | .comment .., .newline => true
  | .comment .., _ => false
  | .quoted _, _ | .newline, _ => true

/-- The characters that stand between words go on with no word, number or mark. -/
theorem ends_of_gap
    {c : Char} (separates : isGap c = true ∨ c = '\n') :
    Lexeme.continuesName c = false ∧ Numeral.isDigit c = false ∧
      ∀ mark, c ∉ continuations mark := by
  simp only [isGap, Bool.or_eq_true, decide_eq_true_eq] at separates
  have each : ∀ mark, ∀ d ∈ [' ', '\t', '\x0c', '\r', '\n'],
      d ∉ continuations mark := by
    intro mark
    cases mark with
    | _ => exact List.forall_iff_forall_mem.mp (by decide)
  rcases separates with (((rfl | rfl) | rfl) | rfl) | rfl
  all_goals
    exact ⟨by decide, by decide, fun mark => each mark _ (by simp)⟩

variable {part next : Part} {rest : List Char}

/-- A part that does not start like a word ends a name. -/
theorem endsName_of_startsWord
    (other : next.startsWord = false) :
    EndsName (next.text ++ rest) := by
  cases next with
  | name | word | form => cases other
  | mark symbol =>
      cases symbol with
      | _ => exact stops_cons.mpr (by decide)
  | gap first others areGaps =>
      rcases List.forall_mem_cons.mp areGaps with ⟨isFirst, -⟩
      exact stops_cons.mpr (ends_of_gap (.inl isFirst)).1
  | quoted text =>
      rw [Part.text, Text.quoted, String.toList_ofList]
      exact stops_cons.mpr (by decide)
  | point | comment | newline => exact stops_cons.mpr (by decide)

/-- A part that goes on with no mark ends each of them. -/
theorem endsMark_of_endsMarks
    (other : next.endsMarks = true) (mark : Symbol) :
    EndsMark mark (next.text ++ rest) := by
  cases next with
  | name text isName => exact endsMark_name isName mark rest
  | word reserved =>
      rcases solid_keyword reserved with ⟨c, tail, shape, -, -⟩
      have starts := Lexeme.isWord_cons.mp (shape ▸ isWord_keyword reserved)
      rw [text, shape, List.cons_append]
      exact endsMark_of_startsName starts.1
  | gap first others areGaps =>
      rcases List.forall_mem_cons.mp areGaps with ⟨isFirst, -⟩
      exact endsMark_cons ((ends_of_gap (.inl isFirst)).2.2 mark)
  | newline => exact endsMark_cons ((ends_of_gap (.inr rfl)).2.2 mark)
  | mark | point | quoted | form | comment => cases other

/-- A part that is no gap stops one. -/
theorem stops_isGap
    (noGap : ∀ first others areGaps, next ≠ .gap first others areGaps) :
    Stops isGap (next.text ++ rest) := by
  cases next with
  | name text isName => exact ((solid_name isName).append rest).stops
  | word reserved => exact ((solid_keyword reserved).append rest).stops
  | form text least forms => exact (forms.solid.append rest).stops
  | gap first others areGaps =>
      exact absurd rfl (noGap first others areGaps)
  | mark symbol =>
      cases symbol with
      | _ => exact stops_cons.mpr (by decide)
  | quoted text =>
      rw [Part.text, Text.quoted, String.toList_ofList]
      exact stops_cons.mpr (by decide)
  | point | comment | newline => exact stops_cons.mpr (by decide)

/-- A part that may stand before another one is scanned as it is there. -/
theorem ends_of_mayPrecede
    (allowed : part.mayPrecede next = true) :
    part.Ends (next.text ++ rest) := by
  cases part with
  | name | word | form =>
      refine endsName_of_startsWord ?_
      simpa [mayPrecede] using allowed
  | mark symbol isPlain =>
      have closed (isDelimiter : symbol.isDelimiter = true) :
          EndsMark symbol (next.text ++ rest) :=
        endsMark_of_closed (Symbol.continuations_of_isDelimiter
          isDelimiter) _
      cases next with
      | form text least forms =>
          simp only [mayPrecede, Bool.or_eq_true, beq_iff_eq] at allowed
          rcases allowed with isDelimiter | rfl
          · exact closed isDelimiter
          · exact (forms.solid.append rest).endsMark_star
      | _ =>
          rcases Bool.or_eq_true_iff.mp allowed with isDelimiter | ends
          · exact closed isDelimiter
          · exact endsMark_of_endsMarks ends symbol
  | point =>
      cases next with
      | name text isName =>
          exact ⟨stops_isDigit_name isName rest,
            endsMark_name isName .dot rest⟩
      | mark symbol isPlain =>
          simp only [mayPrecede, beq_iff_eq] at allowed
          subst allowed
          exact ⟨stops_cons.mpr (by decide), endsMark_cons (by decide)⟩
      | _ => cases allowed
  | gap =>
      refine stops_isGap ?_
      rintro first others areGaps rfl
      cases allowed
  | comment =>
      cases next with
      | newline => exact ⟨rest, rfl⟩
      | _ => cases allowed
  | quoted | newline => trivial

/-! ## Lists of parts -/

/-- The text of some parts. -/
def render (parts : List Part) : List Char :=
  parts.flatMap text

/-- Whether each of some parts may stand before the next one. -/
def chained : List Part → Bool
  | first :: second :: others =>
    first.mayPrecede second && chained (second :: others)
  | _ => true

/-- Whether the statement may end behind some parts. -/
def endStatement (pending : Bool) : List Part → Bool
  | [] => pending
  | first :: others => endStatement (first.endsStatement pending) others

/-- What the tokens of some parts are. -/
inductive Leave : Bool → List Part → List Token → Prop where
  | nil {pending : Bool} :
      Leave pending [] []
  | cons {pending : Bool} {first : Part} {others : List Part}
      {tokens later : List Token}
      (leaves : first.Leaves pending tokens)
      (leave : Leave (first.endsStatement pending) others later) :
      Leave pending (first :: others) (tokens ++ later)

/-- Some parts are scanned one after the other. -/
theorem scans_render
    {parts : List Part} (isChained : chained parts = true)
    (ends : ∀ part ∈ parts.getLast?, part.Ends rest)
    (offset : Nat) (pending : Bool) :
    ∃ tokens,
      Scans rest offset pending (render parts) tokens
          (endStatement pending parts) ∧
        Leave pending parts tokens := by
  induction parts generalizing offset pending with
  | nil => exact ⟨[], .stop, .nil⟩
  | cons first others ih =>
      have first' : first.Ends (render others ++ rest) := by
        cases others with
        | nil => exact ends first rfl
        | cons second others =>
            rw [render, List.flatMap_cons, List.append_assoc]
            exact ends_of_mayPrecede (Bool.and_eq_true_iff.mp isChained).1
      have others' : chained others = true := by
        cases others with
        | nil => rfl
        | cons second others => exact (Bool.and_eq_true_iff.mp isChained).2
      have last : ∀ part ∈ others.getLast?, part.Ends rest := by
        intro part isLast
        refine ends part ?_
        rw [List.getLast?_cons, isLast]
        rfl
      rcases Part.scans first' offset pending with ⟨tokens, scans, leaves⟩
      rcases ih others' last (offset + byteLength first.text)
        (first.endsStatement pending) with ⟨later, scansLater, leave⟩
      exact ⟨tokens ++ later, scans.append scansLater, .cons leaves leave⟩

/-- The number of open groups behind a part of a declaration that is passed over. -/
def depthAfter (depth : Nat) (pending : Bool) : Part → Option Nat
  | .mark symbol _ => passAfter depth (markToken symbol 0)
  | .form _ least _ => if least ≤ depth then some depth else none
  | .newline => passing depth (lineEnd? pending 0)
  | _ => some depth

/-- The number of open groups behind some parts. -/
def depthBehind (depth : Nat) (pending : Bool) :
    List Part → Option Nat
  | [] => some depth
  | first :: others =>
    (first.depthAfter depth pending).bind
      (depthBehind · (first.endsStatement pending) others)

theorem passing_of_leaves
    {depth depth' : Nat} {pending : Bool} {tokens : List Token}
    (after : part.depthAfter depth pending = some depth')
    (leaves : part.Leaves pending tokens) :
    passing depth tokens = some depth' := by
  have one {token : Token} (step : passAfter depth token = some depth') :
      passing depth [token] = some depth' := by
    rw [Reader.passing_cons, step]
    rfl
  have neutral {token : Token} (same : depth = depth')
      (noSymbol : ∀ mark, token.kind ≠ .symbol mark)
      (notEnd : token.kind ≠ .endOfFile) :
      passing depth [token] = some depth' := by
    refine one ?_
    rw [passAfter, if_neg fun stops => noSymbol _ stops.2, ← same]
    exact Reader.depthAfter_eq_self depth notEnd fun mark isMark =>
      absurd isMark (noSymbol mark)
  cases part with
  | name text isName =>
      rcases leaves with ⟨offset, rfl⟩
      refine neutral (Option.some.inj after) ?_ ?_
      · simp [wordToken_kind isName]
      · simp [wordToken_kind isName]
  | word reserved =>
      rcases leaves with ⟨offset, rfl⟩
      refine neutral (Option.some.inj after) ?_ ?_
      · simp [wordToken_keyword]
      · simp [wordToken_keyword]
  | quoted text =>
      rcases leaves with ⟨offset, rfl⟩
      exact neutral (Option.some.inj after) (by simp [literalToken])
        (by simp [literalToken])
  | mark symbol isPlain =>
      rcases leaves with ⟨offset, rfl⟩
      exact one after
  | point =>
      rcases leaves with ⟨offset, rfl⟩
      cases after
      refine one ?_
      simp [passAfter, Reader.depthAfter, markToken, Symbol.opens,
        Symbol.closes]
  | form text least forms =>
      rw [Part.depthAfter] at after
      split at after
      case isTrue enough =>
        cases after
        exact leaves depth enough
      case isFalse => cases after
  | newline =>
      rcases leaves with ⟨offset, rfl⟩
      cases pending with
      | false => exact after
      | true => exact after
  | gap | comment =>
      cases leaves
      exact after

/-- The open groups behind the tokens of some parts are those behind the parts. -/
theorem Leave.passing_eq
    {depth depth' : Nat} {pending : Bool} {parts : List Part}
    {tokens : List Token}
    (leave : Leave pending parts tokens)
    (behind : depthBehind depth pending parts = some depth') :
    passing depth tokens = some depth' := by
  induction leave generalizing depth with
  | nil => exact behind
  | cons leaves _ ih =>
      rcases Option.bind_eq_some_iff.mp behind with ⟨next, after, behind⟩
      rw [passing_append (passing_of_leaves after leaves)]
      exact ih behind

/-- Whether the statement may end behind some parts is up to the last of them. -/
theorem endStatement_of_last
    {parts : List Part} {last : Part} {ends : Bool}
    (isLast : parts.getLast? = some last)
    (same : ∀ pending, last.endsStatement pending = ends)
    (pending : Bool) :
    endStatement pending parts = ends := by
  induction parts generalizing pending with
  | nil => cases isLast
  | cons first others ih =>
      cases others with
      | nil =>
          cases isLast
          exact same pending
      | cons second others => exact ih isLast _

/-- Whole lines are scanned in front of any text. -/
theorem scans_lines
    {text : List Char} {parts : List Part} (same : text = render parts)
    (isChained : chained parts = true)
    (isLast : parts.getLast? = some .newline)
    (offset : Nat) (pending : Bool) (rest : List Char) :
    ∃ tokens,
      Scans rest offset pending text tokens false ∧
        Leave pending parts tokens := by
  subst same
  have ends : ∀ part ∈ parts.getLast?, part.Ends rest := by
    intro part isIn
    rw [isLast] at isIn
    cases isIn
    trivial
  have found := scans_render isChained ends offset pending
  rwa [endStatement_of_last isLast (fun _ => rfl) pending] at found

/-- Lines in which a text that forms something stands between parts. -/
theorem scans_around
    {whole text : List Char} {front back : List Part} {next : Part}
    {first : Char} {others : List Char}
    {areGaps : ∀ c ∈ first :: others, isGap c = true}
    {Holds : List Token → Prop} (forms : Forms text Holds)
    (same : whole = render front ++ (text ++ render back))
    (frontChained : chained front = true)
    (frontLast : front.getLast? = some (.gap first others areGaps))
    (backChained : chained back = true)
    (backFirst : back.head? = some next)
    (backLast : back.getLast? = some .newline)
    (noWord : next.startsWord = false)
    (offset : Nat) (pending : Bool) (rest : List Char) :
    ∃ opening inner closing,
      Scans rest offset pending whole (opening ++ (inner ++ closing))
          false ∧
        Leave pending front opening ∧ Holds inner ∧
          Leave true back closing := by
  subst same
  have endsFront : ∀ part ∈ front.getLast?,
      part.Ends (text ++ render back ++ rest) := by
    intro part isIn
    rw [frontLast] at isIn
    cases isIn
    rw [List.append_assoc]
    exact (forms.solid.append _).stops
  have endsText : EndsName (render back ++ rest) := by
    cases back with
    | nil => cases backFirst
    | cons part back =>
        cases backFirst
        rw [render, List.flatMap_cons, List.append_assoc]
        exact endsName_of_startsWord noWord
  rcases scans_render frontChained endsFront offset pending with
    ⟨opening, scansFront, leaveFront⟩
  rcases forms.scans (offset + byteLength (render front))
    (endStatement pending front) (render back ++ rest) endsText with
    ⟨inner, scansText, holds⟩
  rcases scans_lines (Eq.refl (render back)) backChained backLast
    (offset + byteLength (render front) + byteLength text) true rest with
    ⟨closing, scansBack, leaveBack⟩
  exact ⟨opening, inner, closing,
    scansFront.append (scansText.append scansBack), leaveFront, holds,
    leaveBack⟩

/-- Whether a part ends where a name does, and a statement with it. -/
def endsLikeName : Part → Bool
  | .name .. | .quoted _ | .form .. => true
  | _ => false

/-- Parts that end like a name form what they leave. -/
theorem forms_render
    {parts : List Part} {last : Part} (solid : Solid (render parts))
    (isChained : chained parts = true)
    (isLast : parts.getLast? = some last)
    (likeName : last.endsLikeName = true) :
    Forms (render parts) fun tokens =>
      ∃ pending, Leave pending parts tokens := by
  refine ⟨solid, ?_⟩
  intro offset pending rest endsName
  have ends : last.Ends rest ∧
      ∀ pending, last.endsStatement pending = true := by
    cases last with
    | name | form => exact ⟨endsName, fun _ => rfl⟩
    | quoted => exact ⟨trivial, fun _ => rfl⟩
    | word | mark | point | gap | comment | newline => cases likeName
  have ends' : ∀ part ∈ parts.getLast?, part.Ends rest := by
    intro part isIn
    rw [isLast] at isIn
    cases isIn
    exact ends.1
  rcases scans_render isChained ends' offset pending with
    ⟨tokens, scans, leave⟩
  rw [endStatement_of_last isLast ends.2 pending] at scans
  exact ⟨tokens, scans, pending, leave⟩

end Part

end GoUnion
