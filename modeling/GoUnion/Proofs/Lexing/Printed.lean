import GoUnion.Proofs.Lexing
import GoUnion.Proofs.Lexing.Names
import GoUnion.Proofs.Literal
import Mathlib.Data.List.Nodup

/-!
# Scanning printed text

How the pieces of which printed source text is made are scanned: words, gaps,
line ends, comments, delimiters, numbers and literals.  Where the longest match
could go beyond a piece, a condition on the character behind it rules that out.
-/

namespace GoUnion.Token

open Text (Span byteLength byteLength_append)
open Lexeme

variable {rest : List Char} {offset : Nat} {pending : Bool}

/-- A piece that is one lexeme. -/
theorem scans_of_atHead
    (lexeme : Lexeme) {c : Char} {tail : List Char} {tokens : List Token}
    {after : Bool}
    (isHead : atHead c (tail ++ rest) = (lexeme, tail.length))
    (leaves :
      lexeme.leave offset pending (c :: tail) = some (tokens, after)) :
    Scans rest offset pending (c :: tail) tokens after := by
  have whole :
      Scans rest offset pending (c :: (tail ++ [])) (tokens ++ []) after :=
    .lexeme isHead leaves .stop
  rwa [List.append_nil, List.append_nil] at whole

/-! ## Words -/

/-- The token of a word at an offset. -/
def wordToken (word : String) (offset : Nat) : Token :=
  ⟨wordKind word, word, ⟨offset, offset + byteLength word.toList⟩⟩

theorem scans_word
    {word : String} (valid : isWord word.toList = true)
    (ends : EndsName rest) :
    Scans rest offset pending word.toList [wordToken word offset]
      (wordKind word).endsStatement := by
  have same : String.ofList word.toList = word := String.ofList_toList
  rcases shape : word.toList with _ | ⟨c, tail⟩
  · rw [shape] at valid
    cases valid
  · rw [shape] at valid same
    rcases isWord_cons.mp valid with ⟨starts, continues⟩
    apply scans_of_atHead _ (atHead_word starts continues ends)
    rw [leave, same, wordToken, shape]

theorem scans_name
    {name : String} (isName : IsName name) (ends : EndsName rest) :
    Scans rest offset pending name.toList [wordToken name offset] true := by
  have scans :
      Scans rest offset pending name.toList [wordToken name offset]
        (wordKind name).endsStatement :=
    scans_word isName.word ends
  rwa [isName.wordKind_eq] at scans

theorem wordToken_kind
    {name : String} (isName : IsName name) (offset : Nat) :
    (wordToken name offset).kind = .identifier :=
  isName.wordKind_eq

theorem isWord_keyword (word : Keyword) :
    isWord word.spelling.toList = true := by
  cases word <;> decide

theorem wordKind_keyword (word : Keyword) :
    wordKind word.spelling = .keyword word := by
  rw [wordKind, Keyword.ofString?_spelling]

theorem wordToken_keyword (word : Keyword) (offset : Nat) :
    (wordToken word.spelling offset).kind = .keyword word :=
  wordKind_keyword word

theorem scans_keyword
    (word : Keyword) (ends : EndsName rest) :
    Scans rest offset pending word.spelling.toList
      [wordToken word.spelling offset]
      (TokenKind.keyword word).endsStatement := by
  have scans :
      Scans rest offset pending word.spelling.toList
        [wordToken word.spelling offset]
        (wordKind word.spelling).endsStatement :=
    scans_word (isWord_keyword word) ends
  rwa [wordKind_keyword] at scans

/-! ## Gaps, line ends and comments -/

theorem scans_gap
    {gap : List Char} (nonempty : gap ≠ [])
    (isGaps : ∀ c ∈ gap, isGap c = true) (ends : Stops isGap rest) :
    Scans rest offset pending gap [] pending := by
  cases gap with
  | nil => exact absurd rfl nonempty
  | cons c tail =>
      rcases List.forall_mem_cons.mp isGaps with ⟨first, others⟩
      have noNewline : c ≠ '\n' := by
        rintro rfl
        revert first
        decide
      apply scans_of_atHead .gap
      · rw [atHead, if_neg noNewline, if_pos first,
          takeWhile_of_stops others ends]
      · rfl

theorem scans_newline :
    Scans rest offset pending ['\n'] (lineEnd? pending offset) false :=
  scans_of_atHead .newline rfl rfl

/-- A line comment is scanned to the end of its line. -/
theorem scans_comment
    {body : List Char} (oneLine : '\n' ∉ body) (later : List Char) :
    Scans ('\n' :: later) offset pending ('/' :: '/' :: body) []
      pending := by
  have inside : ∀ c ∈ body, decide (c ≠ '\n') = true := by
    intro c inBody
    refine decide_eq_true ?_
    rintro rfl
    exact oneLine inBody
  have taken :
      (body ++ '\n' :: later).takeWhile (· ≠ '\n') = body :=
    takeWhile_of_stops inside (by simp)
  apply scans_of_atHead .lineComment
  · show slashAtHead ('/' :: (body ++ '\n' :: later)) = _
    rw [slashAtHead, taken, List.length_cons, Nat.add_comm]
  · rfl

/-! ## Delimiters and operators -/

/-- The token of a mark at an offset. -/
def markToken (mark : Symbol) (offset : Nat) : Token :=
  ⟨.symbol mark, mark.spelling,
    ⟨offset, offset + byteLength mark.spelling.toList⟩⟩

/-- The characters with which longer operators go on after a mark. -/
def continuations (mark : Symbol) : List Char :=
  fixed.filterMap fun (text, _) =>
    (text.drop mark.spelling.toList.length).head?.filter fun _ =>
      mark.spelling.toList.isPrefixOf text

/-- No operator goes on with the next character. -/
def EndsMark (mark : Symbol) (text : List Char) : Prop :=
  ∀ c ∈ text.head?, c ∉ continuations mark

theorem mem_continuations
    {mark : Symbol} {c : Char} {more : List Char}
    {entry : List Char × TokenKind} (inFixed : entry ∈ fixed)
    (longer : mark.spelling.toList ++ c :: more = entry.1) :
    c ∈ continuations mark := by
  refine List.mem_filterMap.mpr ⟨entry, inFixed, ?_⟩
  have isPrefix : mark.spelling.toList.isPrefixOf entry.1 = true :=
    List.isPrefixOf_iff_prefix.mpr ⟨c :: more, longer⟩
  dsimp only
  rw [← longer] at isPrefix ⊢
  rw [List.drop_left, isPrefix]
  rfl

theorem endsMark_of_closed
    {mark : Symbol} (closed : continuations mark = []) (text : List Char) :
    EndsMark mark text := by
  intro c _
  rw [closed]
  exact List.not_mem_nil

theorem endsMark_cons
    {mark : Symbol} {c : Char} {tail : List Char}
    (other : c ∉ continuations mark) :
    EndsMark mark (c :: tail) := by
  intro d isHead
  cases isHead
  exact other

/-- The one entry that is longer than all others that open a text is found. -/
theorem longest_eq
    {table : List (List Char × TokenKind)} {text : List Char}
    {entry : List Char × TokenKind}
    (inTable : entry ∈ table) (isPrefix : entry.1 <+: text)
    (nonempty : entry.1 ≠ [])
    (isLongest : ∀ other ∈ table, other.1 <+: text → other ≠ entry →
      other.1.length < entry.1.length) :
    longest table text = some entry := by
  have start :
      (none : Option (List Char × TokenKind)) = some entry ∨
        entry ∈ table ∧
          ((none : Option (List Char × TokenKind)).map (·.1.length)).getD 0 <
            entry.1.length :=
    .inr ⟨inTable, List.length_pos_iff.mpr nonempty⟩
  rw [longest]
  clear inTable
  revert start
  generalize (none : Option (List Char × TokenKind)) = best
  induction table generalizing best with
  | nil =>
      rintro (rfl | ⟨inTable, -⟩)
      · rfl
      · cases inTable
  | cons candidate table ih =>
      rcases List.forall_mem_cons.mp isLongest with ⟨first, others⟩
      intro start
      apply ih others
      dsimp only
      by_cases same : candidate = entry
      · subst same
        left
        rcases start with rfl | ⟨-, shorter⟩
        · simp
        · rw [if_pos]
          rw [List.isPrefixOf_iff_prefix.mpr isPrefix, Bool.true_and]
          exact decide_eq_true shorter
      · rcases start with rfl | ⟨inTable, shorter⟩
        · left
          rw [if_neg]
          rw [Bool.and_eq_true, List.isPrefixOf_iff_prefix]
          rintro ⟨isPrefix', longer⟩
          have below := first isPrefix' same
          have above := of_decide_eq_true longer
          exact absurd above (Nat.not_lt_of_lt below)
        · right
          rcases List.mem_cons.mp inTable with isFirst | inOthers
          · exact absurd isFirst.symm same
          · refine ⟨inOthers, ?_⟩
            split
            case isTrue holds =>
              rw [Bool.and_eq_true, List.isPrefixOf_iff_prefix] at holds
              exact first holds.1 same
            case isFalse => exact shorter

theorem nodup_fixed : (fixed.map (·.1)).Nodup := by
  decide

theorem mem_fixed (mark : Symbol) :
    (mark.spelling.toList, TokenKind.symbol mark) ∈ fixed := by
  cases mark <;> decide

/-- An entry of the table is the longest where no entry goes on with the next character. -/
theorem longest_fixed
    {entry : List Char × TokenKind}
    (inFixed : entry ∈ fixed) (nonempty : entry.1 ≠ [])
    (ends : ∀ c ∈ rest.head?, ∀ other ∈ fixed, ∀ more,
      entry.1 ++ c :: more ≠ other.1) :
    longest fixed (entry.1 ++ rest) = some entry := by
  refine longest_eq inFixed (List.prefix_append entry.1 rest) nonempty ?_
  intro other inFixed' isPrefix different
  by_contra notShorter
  have longer := Nat.le_of_not_lt notShorter
  rcases List.prefix_of_prefix_length_le
    (List.prefix_append entry.1 rest) isPrefix longer with
    ⟨more, extends'⟩
  cases more with
  | nil =>
      rw [List.append_nil] at extends'
      exact different
        (List.inj_on_of_nodup_map nodup_fixed inFixed' inFixed
          extends'.symm)
  | cons d more =>
      rw [← extends'] at isPrefix
      rcases (List.prefix_append_right_inj entry.1).mp isPrefix with
        ⟨later, rfl⟩
      exact ends d rfl other inFixed' more extends'

/-- A mark is the longest operator where no operator goes on with the next character. -/
theorem fixedAtHead_mark
    {mark : Symbol} {c : Char} {tail : List Char}
    (shape : mark.spelling.toList = c :: tail) (ends : EndsMark mark rest) :
    fixedAtHead c (tail ++ rest) = (.token (.symbol mark), tail.length) := by
  have found :
      longest fixed ((c :: tail) ++ rest) =
        some (c :: tail, .symbol mark) := by
    refine longest_fixed (shape ▸ mem_fixed mark) (by simp) ?_
    intro d isNext other inFixed more longer
    exact ends d isNext (mem_continuations inFixed (shape ▸ longer))
  rw [fixedAtHead, ← List.cons_append, found]
  simp

/-- A character that starts operators only. -/
def opensMark (c : Char) : Bool :=
  c ≠ '\n' && !isGap c && c ≠ '/' && !startsName c &&
    !Numeral.isDigit c && c ≠ '.' && c ≠ '"' && c ≠ '\x60' && c ≠ '\''

theorem atHead_of_opensMark
    {c : Char} (opens : opensMark c = true) (text : List Char) :
    atHead c text = fixedAtHead c text := by
  simp only [opensMark, Bool.and_eq_true, decide_eq_true_eq,
    Bool.not_eq_true', ← Bool.not_eq_true] at opens
  rcases opens with
    ⟨⟨⟨⟨⟨⟨⟨⟨noNewline, noGap⟩, noSlash⟩, noName⟩, noDigit⟩, noPoint⟩, noQuote⟩,
      noTick⟩, noRune⟩
  rw [atHead, if_neg noNewline, if_neg noGap, if_neg noSlash,
    if_neg noName, if_neg noDigit, if_neg noPoint, if_neg noQuote,
    if_neg noTick, if_neg noRune]

theorem scans_mark
    (mark : Symbol)
    (opens : mark.spelling.toList.head?.all opensMark = true)
    (ends : EndsMark mark rest) :
    Scans rest offset pending mark.spelling.toList [markToken mark offset]
      (TokenKind.symbol mark).endsStatement := by
  have same : String.ofList mark.spelling.toList = mark.spelling :=
    String.ofList_toList
  rcases shape : mark.spelling.toList with _ | ⟨c, tail⟩
  · exact absurd shape (by cases mark <;> decide)
  · rw [shape] at same opens
    apply scans_of_atHead (.token (.symbol mark))
    · rw [atHead_of_opensMark opens]
      exact fixedAtHead_mark shape ends
    · rw [leave, same, markToken, shape]

theorem pointAtHead_of_stops
    {text : List Char} (noDigit : Stops Numeral.isDigit text) :
    pointAtHead text = fixedAtHead '.' text := by
  cases text with
  | nil => rfl
  | cons c tail =>
      rw [pointAtHead, if_neg]
      rw [stops_cons.mp noDigit]
      exact Bool.false_ne_true

theorem scans_point
    (noDigit : Stops Numeral.isDigit rest) (ends : EndsMark .dot rest) :
    Scans rest offset pending ['.'] [markToken .dot offset] false := by
  apply scans_of_atHead (.token (.symbol .dot))
  · show pointAtHead rest = _
    rw [pointAtHead_of_stops noDigit]
    exact fixedAtHead_mark
      (by decide : Symbol.dot.spelling.toList = ['.']) ends
  · rfl

theorem scans_ellipsis :
    Scans rest offset pending ['.', '.', '.']
      [markToken .ellipsis offset] false := by
  apply scans_of_atHead (.token (.symbol .ellipsis))
  · show pointAtHead (['.', '.'] ++ rest) = _
    have noDigit : Stops Numeral.isDigit (['.', '.'] ++ rest) :=
      stops_cons.mpr (by decide)
    rw [pointAtHead_of_stops noDigit]
    exact fixedAtHead_mark
      (by decide : Symbol.ellipsis.spelling.toList = ['.', '.', '.'])
      (endsMark_of_closed (by decide) rest)
  · rfl

/-! ## Numbers and literals -/

/-- The token of a literal at an offset. -/
def literalToken (kind : TokenKind) (text : List Char) (offset : Nat) :
    Token :=
  ⟨kind, String.ofList text, ⟨offset, offset + byteLength text⟩⟩

theorem plain_of_decimal :
    ∀ c ∈ Literal.decimals, c ≠ '\n' ∧ isGap c = false ∧ c ≠ '/' ∧
      startsName c = false ∧ Numeral.isDigit c = true ∧
        Numeral.isGroupedDigit 10 c = true :=
  List.forall_iff_forall_mem.mp (by decide)

theorem decimalTail_decimals
    {digits : List Char} (each : ∀ c ∈ digits, c ∈ Literal.decimals)
    (later : List Char) :
    Numeral.decimalTail (digits ++ ']' :: later) = digits.length := by
  have taken :
      (digits ++ ']' :: later).takeWhile (Numeral.isGroupedDigit 10) =
        digits := by
    apply takeWhile_of_stops
    · intro c isIn
      exact (plain_of_decimal c (each c isIn)).2.2.2.2.2
    · exact stops_cons.mpr (by decide)
  have closed :
      Numeral.andThen (Numeral.fraction 10)
        (Numeral.andThen Numeral.decimalExponent Numeral.imaginary)
          (']' :: later) = 0 := rfl
  rw [Numeral.decimalTail, Numeral.andThen, Numeral.run, taken,
    List.drop_left, closed, Nat.add_zero]

theorem numeralTail_decimals
    {first : Char} {digits : List Char}
    (each : ∀ c ∈ digits, c ∈ Literal.decimals) (later : List Char) :
    Numeral.tail first (digits ++ ']' :: later) = digits.length := by
  rw [← decimalTail_decimals each later]
  by_cases isZero : first = '0'
  · subst isZero
    cases digits with
    | nil => rfl
    | cons mark digits =>
        have noMark : ∀ c ∈ Literal.decimals, c ≠ 'x' ∧ c ≠ 'X' ∧
            c ≠ 'b' ∧ c ≠ 'B' ∧ c ≠ 'o' ∧ c ≠ 'O' :=
          List.forall_iff_forall_mem.mp (by decide)
        rcases noMark mark (each mark List.mem_cons_self) with
          ⟨noX, noX', noB, noB', noO, noO'⟩
        simp [Numeral.tail, noX, noX', noB, noB', noO, noO']
  · exact Numeral.tail_of_ne isZero _

/-- A number in decimal digits is scanned up to a closing bracket. -/
theorem scans_number
    {digits : List Char} (nonempty : digits ≠ [])
    (each : ∀ c ∈ digits, c ∈ Literal.decimals) (later : List Char) :
    Scans (']' :: later) offset pending digits
      [literalToken .number digits offset] true := by
  cases digits with
  | nil => exact absurd rfl nonempty
  | cons c digits =>
      rcases List.forall_mem_cons.mp each with ⟨first, others⟩
      rcases plain_of_decimal c first with
        ⟨noNewline, noGap, noSlash, noName, isDigit, -⟩
      apply scans_of_atHead (.token .number)
      · rw [atHead, if_neg noNewline, if_neg (ne_true_of_eq_false noGap),
          if_neg noSlash, if_neg (ne_true_of_eq_false noName),
          if_pos isDigit, numeralTail_decimals others]
      · rfl

/-- The text between the quotes of an interpreted literal. -/
inductive QuotedBody : List Char → Prop where
  | nil : QuotedBody []
  | plain {c : Char} {body : List Char}
      (isPlain : c ≠ '"' ∧ c ≠ '\\' ∧ c ≠ '\n')
      (later : QuotedBody body) :
      QuotedBody (c :: body)
  | escape {c : Char} {body : List Char}
      (sameLine : c ≠ '\n')
      (later : QuotedBody body) :
      QuotedBody ('\\' :: c :: body)

theorem QuotedBody.append
    {front back : List Char} (isBody : QuotedBody front)
    (isBody' : QuotedBody back) :
    QuotedBody (front ++ back) := by
  induction isBody with
  | nil => exact isBody'
  | plain isPlain _ ih => exact .plain isPlain ih
  | escape sameLine _ ih => exact .escape sameLine ih

theorem QuotedBody.flatMap
    {form : Char → List Char} {text : List Char}
    (each : ∀ c ∈ text, QuotedBody (form c)) :
    QuotedBody (text.flatMap form) := by
  induction text with
  | nil => exact .nil
  | cons c text ih =>
      rcases List.forall_mem_cons.mp each with ⟨first, others⟩
      exact first.append (ih others)

theorem QuotedBody.quotedTail
    {body : List Char} (isBody : QuotedBody body) (later : List Char) :
    quotedTail '"' (body ++ '"' :: later) = (true, body.length + 1) := by
  induction isBody with
  | nil => rfl
  | plain isPlain _ ih =>
      rw [List.cons_append, quotedTail_cons isPlain.2.1,
        if_neg isPlain.1, if_neg isPlain.2.2, ih]
      rfl
  | escape sameLine _ ih =>
      rw [List.cons_append, List.cons_append, Lexeme.quotedTail,
        if_neg sameLine, ih]
      rfl

theorem scans_quoted
    {body : List Char} (isBody : QuotedBody body) :
    Scans rest offset pending ('"' :: body ++ ['"'])
      [literalToken .string ('"' :: body ++ ['"']) offset] true := by
  rw [List.cons_append]
  apply scans_of_atHead (.token .string)
  · rw [List.append_assoc, List.singleton_append]
    show literal .string (quotedTail '"' (body ++ '"' :: rest)) = _
    rw [isBody.quotedTail, List.length_append]
    rfl
  · rfl

theorem rawTail_append
    {body : List Char} (noQuote : '\x60' ∉ body) (later : List Char) :
    rawTail (body ++ '\x60' :: later) = (true, body.length + 1) := by
  induction body with
  | nil => rfl
  | cons c body ih =>
      rw [List.mem_cons, not_or] at noQuote
      rw [List.cons_append, rawTail, if_neg (Ne.symm noQuote.1),
        ih noQuote.2]
      rfl

theorem scans_raw
    {body : List Char} (noQuote : '\x60' ∉ body) :
    Scans rest offset pending ('\x60' :: body ++ ['\x60'])
      [literalToken .rawString ('\x60' :: body ++ ['\x60']) offset]
      true := by
  rw [List.cons_append]
  apply scans_of_atHead (.token .rawString)
  · rw [List.append_assoc, List.singleton_append]
    show literal .rawString (rawTail (body ++ '\x60' :: rest)) = _
    rw [rawTail_append noQuote, List.length_append]
    rfl
  · rfl

theorem quotedBody_hexadecimal (number : Nat) :
    QuotedBody (Nat.toDigits 16 number) := by
  induction number using Nat.strongRecOn with
  | ind number ih =>
      have digit : ∀ digit < 16, QuotedBody [Nat.digitChar digit] := by
        intro digit small
        have plain : ∀ digit < 16, Nat.digitChar digit ≠ '"' ∧
            Nat.digitChar digit ≠ '\\' ∧
              Nat.digitChar digit ≠ '\n' := by decide
        exact .plain (plain digit small) .nil
      by_cases small : number < 16
      · rw [Nat.toDigits_of_lt_base small]
        exact digit number small
      · rw [Nat.toDigits_of_base_le (by decide) (Nat.le_of_not_lt small)]
        exact (ih (number / 16) (by omega)).append
          (digit _ (Nat.mod_lt _ (by decide)))

theorem quotedBody_fourDigits (number : Nat) :
    QuotedBody (Spelling.fourDigits number) := by
  refine QuotedBody.append ?_ (quotedBody_hexadecimal number)
  generalize 4 - (Nat.toDigits 16 number).length = count
  induction count with
  | zero => exact .nil
  | succ count ih => exact .plain (by decide) ih

theorem quotedBody_tagChar (c : Char) :
    QuotedBody (Spelling.tagChar c) := by
  unfold Spelling.tagChar
  split
  case isTrue => exact .escape (by decide) .nil
  split
  case isTrue => exact .escape (by decide) .nil
  split
  case isTrue => exact .escape (by decide) .nil
  split
  case isTrue => exact .escape (by decide) .nil
  split
  case isTrue => exact .escape (by decide) .nil
  split
  case isTrue =>
    exact .escape (by decide) (quotedBody_fourDigits c.toNat)
  case isFalse noQuote noEscape noNewline _ _ _ =>
    exact .plain ⟨noQuote, noEscape, noNewline⟩ .nil

theorem quotedBody_escape (c : Char) :
    QuotedBody (Text.escape '"' c) := by
  unfold Text.escape
  split
  case isTrue => exact .escape (by decide) .nil
  split
  case isTrue => exact .escape (by decide) .nil
  split
  case isTrue => exact .escape (by decide) .nil
  split
  case isTrue => exact .escape (by decide) .nil
  case isFalse noNewline =>
  split
  case isTrue => exact .escape noNewline .nil
  case isFalse other =>
  rw [Bool.or_eq_true, decide_eq_true_eq, decide_eq_true_eq, not_or]
    at other
  split
  case isTrue =>
    refine .escape (by decide) (.plain (by decide) ?_)
    exact (quotedBody_hexadecimal c.toNat).append
      (.plain (by decide) .nil)
  case isFalse => exact .plain ⟨other.2, other.1, noNewline⟩ .nil

/-- A text between double quotes is one literal. -/
theorem scans_quotedText (text : String) :
    Scans rest offset pending (Text.quoted text).toList
      [literalToken .string (Text.quoted text).toList offset] true := by
  rw [Text.quoted, String.toList_ofList]
  exact scans_quoted (.flatMap fun c _ => quotedBody_escape c)

/-- A tag is one literal. -/
theorem scans_tag (text : String) :
    ∃ kind, (kind = .string ∨ kind = .rawString) ∧
      Scans rest offset pending (Spelling.tag text).toList
        [literalToken kind (Spelling.tag text).toList offset] true := by
  rw [Spelling.tag]
  split
  case isTrue =>
    rw [String.toList_ofList]
    exact ⟨.string, .inl rfl,
      scans_quoted (.flatMap fun c _ => quotedBody_tagChar c)⟩
  case isFalse raw =>
    rw [String.toList_ofList]
    refine ⟨.rawString, .inr rfl, scans_raw ?_⟩
    intro isIn
    apply raw
    rw [Bool.or_eq_true]
    exact .inl (List.contains_iff_mem.mpr isIn)

end GoUnion.Token
