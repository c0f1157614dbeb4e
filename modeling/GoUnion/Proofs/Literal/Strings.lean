import GoUnion.Proofs.Lexing.Quotations
import GoUnion.Proofs.Literal.Quoted

/-!
# The values of string literals

A grammar says which string literals there are and for which text each of them
stands.  The reader finds the text of every literal, and it gives no text to
anything else that is scanned as a literal, with one exception.  It takes the
digits of an escape sequence as they come: fewer of them where the literal ends
too early, and a plus sign in front of hexadecimal ones.  Literals with such
loose escapes are none of the grammar, but many of them are read.
-/

namespace GoUnion.Literal

open Token (QuotedBody IsQuotation)

/-- The letters and signs that stand for one character behind a backslash. -/
def simpleEscapes : List (Char × Char) :=
  [('a', '\x07'), ('b', '\x08'), ('f', '\x0c'), ('n', '\n'), ('r', '\r'),
    ('t', '\t'), ('v', '\x0b'), ('\\', '\\'), ('"', '"')]

/-- An escape sequence behind its backslash, and the bytes for which it stands. -/
inductive Escape : List Char → List UInt8 → Prop where
  | simple {letter c : Char} (isSimple : (letter, c) ∈ simpleEscapes) :
      Escape [letter] (String.utf8EncodeChar c)
  | hexadecimal {text : List Char} {values : List Nat}
      (digits : Digits 16 text values) (length : text.length = 2) :
      Escape ('x' :: text) [UInt8.ofNat (numberOf 16 values)]
  | octal {text : List Char} {values : List Nat}
      (digits : Digits 8 text values) (length : text.length = 3)
      (isByte : numberOf 8 values ≤ 255) :
      Escape text [UInt8.ofNat (numberOf 8 values)]
  | codePoint {mark c : Char} {count : Nat} {text : List Char}
      {values : List Nat}
      (isMark : (mark, count) ∈ codePointMarks)
      (digits : Digits 16 text values) (length : text.length = count)
      (isScalar : c.toNat = numberOf 16 values) :
      Escape (mark :: text) (String.utf8EncodeChar c)

/-- The body of an interpreted literal, and the bytes for which it stands. -/
inductive Body : List Char → List UInt8 → Prop where
  | nil : Body [] []
  | plain {c : Char} {body : List Char} {bytes : List UInt8}
      (isPlain : c ≠ '"' ∧ c ≠ '\\' ∧ c ≠ '\n')
      (later : Body body bytes) :
      Body (c :: body) (String.utf8EncodeChar c ++ bytes)
  | escape {text body : List Char} {bytes others : List UInt8}
      (isEscape : Escape text bytes) (later : Body body others) :
      Body ('\\' :: (text ++ body)) (bytes ++ others)

/-- A text is a string literal that stands for a string. -/
inductive Denotes : List Char → String → Prop where
  | interpreted {body : List Char} {value : String}
      (isBody : Body body (encoded value.toList)) :
      Denotes ('"' :: body ++ ['"']) value
  | raw {body : List Char} (noQuote : '\x60' ∉ body) :
      Denotes ('\x60' :: body ++ ['\x60'])
        (String.ofList (body.filter (· ≠ '\r')))

/-- The number of digits that the reader takes behind the first character of an escape. -/
def digitCounts : List (Char × Nat) :=
  ('x', 2) :: codePointMarks ++ octals.map (·, 2)

/-- An escape sequence, with what follows it in the literal, whose digits are cut short or have a
sign. -/
inductive LooseEscape : List Char → Prop where
  | short {c : Char} {count : Nat} {rest : List Char}
      (isNumeric : digitCounts.lookup c = some count)
      (few : rest.length < count) :
      LooseEscape (c :: rest)
  | signed {mark : Char} {rest : List Char}
      (isMark : mark = 'x' ∨ mark = 'u' ∨ mark = 'U') :
      LooseEscape (mark :: '+' :: rest)

/-- A body that is one up to a loose escape. -/
inductive LooseBody : List Char → Prop where
  | here {rest : List Char} (isLoose : LooseEscape rest) :
      LooseBody ('\\' :: rest)
  | plain {c : Char} {body : List Char}
      (isPlain : c ≠ '"' ∧ c ≠ '\\' ∧ c ≠ '\n')
      (later : LooseBody body) :
      LooseBody (c :: body)
  | escape {text body : List Char} {bytes : List UInt8}
      (isEscape : Escape text bytes) (later : LooseBody body) :
      LooseBody ('\\' :: (text ++ body))

/-- An interpreted literal with a loose escape. -/
def LooseLiteral (text : List Char) : Prop :=
  ∃ body, text = '"' :: body ++ ['"'] ∧ LooseBody body

variable {c : Char} {text rest later : List Char} {bytes : List UInt8}

/-! ## How escapes are read -/

theorem simpleEscape?_eq_some
    {letter : Char} (isSimple : simpleEscape? letter = some c) :
    (letter, c) ∈ simpleEscapes := by
  unfold simpleEscape? at isSimple
  split at isSimple
  case h_10 => cases isSimple
  all_goals
    cases isSimple
    decide

theorem escape?_simple
    {letter : Char} (isSimple : (letter, c) ∈ simpleEscapes)
    (rest : List Char) :
    escape? (letter :: rest) = some (String.utf8EncodeChar c, rest) := by
  have each :
      ∀ entry ∈ simpleEscapes, simpleEscape? entry.1 = some entry.2 := by
    decide
  simp only [escape?, each _ isSimple]

theorem escape?_hexadecimal (rest : List Char) :
    escape? ('x' :: rest) =
      (byte? 16 (rest.take 2)).map fun byte => ([byte], rest.drop 2) :=
  rfl

theorem mem_octals_of_le (isOctal : '0' ≤ c ∧ c ≤ '7') : c ∈ octals := by
  have each : ∀ code < 56, 48 ≤ code → Char.ofNat code ∈ octals := by
    decide
  have lower : 48 ≤ c.toNat := isOctal.1
  have upper : c.toNat ≤ 55 := isOctal.2
  have found := each c.toNat (Nat.lt_succ_of_le upper) lower
  rwa [Char.ofNat_toNat] at found

/-- What is read as an escape opens like one. -/
theorem opens_of_escape?
    {result : List UInt8 × List Char}
    (decodes : escape? (c :: rest) = some result) :
    (∃ plain, (c, plain) ∈ simpleEscapes) ∨ c = 'x' ∨ c ∈ octals ∨
      ∃ count, (c, count) ∈ codePointMarks := by
  simp only [escape?] at decodes
  split at decodes
  case h_1 plain isSimple =>
    exact .inl ⟨plain, simpleEscape?_eq_some isSimple⟩
  case h_2 =>
    split_ifs at decodes with isX isOctal isU isU'
    · exact .inr (.inl isX)
    · exact .inr (.inr (.inl (mem_octals_of_le isOctal)))
    · subst isU
      exact .inr (.inr (.inr ⟨4, by decide⟩))
    · subst isU'
      exact .inr (.inr (.inr ⟨8, by decide⟩))

theorem byte?_eq_some_iff
    {base : Nat} {digits : List Char} {byte : UInt8} :
    byte? base digits = some byte ↔
      ∃ number, unsigned? base digits = some number ∧ number ≤ 255 ∧
        UInt8.ofNat number = byte := by
  rw [byte?]
  cases unsigned? base digits with
  | none => simp
  | some number =>
      have size : number < UInt8.size ↔ number ≤ 255 := Nat.lt_succ_iff
      simp [size]

/-- The digits of a code point write the code of the character. -/
theorem scalar?_eq_some_iff {digits : List Char} :
    scalar? digits = some c ↔ unsigned? 16 digits = some c.toNat := by
  rw [scalar?]
  cases unsigned? 16 digits with
  | none => simp
  | some number =>
      dsimp only
      constructor
      · intro isScalar
        split at isScalar
        case isTrue valid =>
          cases isScalar
          rw [Char.ofNat, dif_pos valid]
          rfl
        case isFalse => cases isScalar
      · rintro ⟨⟩
        have valid : c.toNat.isValidChar := c.valid
        rw [if_pos valid, Char.ofNat_toNat]

/-! ## Escapes of the grammar are read -/

theorem Digits.unsigned?_of_length
    {base count : Nat} {values : List Nat}
    (digits : Digits base text values) (small : base ≤ 16)
    (length : text.length = count) (positive : 0 < count) :
    unsigned? base text = some (numberOf base values) := by
  refine digits.unsigned?_eq small (digits.values_ne_nil.mpr ?_)
  exact List.ne_nil_of_length_pos (length ▸ positive)

/-- An escape is read as the bytes for which it stands, whatever follows. -/
theorem Escape.escape?_append
    (isEscape : Escape text bytes) (rest : List Char) :
    escape? (text ++ rest) = some (bytes, rest) := by
  cases isEscape with
  | simple isSimple => exact escape?_simple isSimple rest
  | @hexadecimal text values digits length =>
      have number :=
        digits.unsigned?_of_length (by decide) length (by decide)
      have small := digits.numberOf_lt (by decide)
      rw [length] at small
      have isByte : byte? 16 text = some _ :=
        byte?_eq_some_iff.mpr ⟨_, number, Nat.le_of_lt_succ small, rfl⟩
      rw [List.cons_append, escape?_hexadecimal, List.take_left' length,
        List.drop_left' length, isByte, Option.map_some]
  | @octal text values digits length isByte =>
      have number :=
        digits.unsigned?_of_length (by decide) length (by decide)
      cases digits with
      | nil => cases length
      | @cons c value text values isDigit digits =>
          have length' : text.length = 2 := Nat.succ_injective length
          have isByte' : byte? 8 (c :: text) = some _ :=
            byte?_eq_some_iff.mpr ⟨_, number, isByte, rfl⟩
          rw [List.cons_append, escape?_octal isDigit.mem_octals,
            List.take_left' length', List.drop_left' length', isByte',
            Option.map_some]
  | @codePoint mark c count text values isMark digits length isScalar =>
      have positive : ∀ entry ∈ codePointMarks, 0 < entry.2 := by decide
      have number :=
        digits.unsigned?_of_length (by decide) length (positive _ isMark)
      rw [← isScalar] at number
      rw [List.cons_append, escape?_codePoint isMark,
        List.take_left' length, List.drop_left' length,
        scalar?_eq_some_iff.mpr number, Option.map_some]

/-- A body is read as the bytes for which it stands. -/
theorem Body.bodyBytes?_eq {body : List Char} (isBody : Body body bytes) :
    bodyBytes? body = some bytes := by
  induction isBody with
  | nil => rw [bodyBytes?]
  | @plain c body bytes isPlain _ ih =>
      have written := writes_plain isPlain.2.1 body
      rw [ih] at written
      exact written
  | escape isEscape _ ih =>
      rw [bodyBytes?_escape, isEscape.escape?_append, Option.bind_some]
      dsimp only
      rw [ih, Option.map_some]

/-! ## Loose escapes are none of the grammar -/

theorem octal_opens :
    ∀ c ∈ octals, digitCounts.lookup c = some 2 ∧ c ≠ '+' :=
  List.forall_iff_forall_mem.mp (by decide)

/-- Behind its first character, an escape has digits only, as many as the reader takes. -/
theorem Escape.exists_digits (isEscape : Escape text bytes) :
    ∃ c digits values, text = c :: digits ∧ Digits 16 digits values ∧
      ∀ count, digitCounts.lookup c = some count →
        digits.length = count := by
  cases isEscape with
  | @simple letter c isSimple =>
      have each :
          ∀ entry ∈ simpleEscapes, digitCounts.lookup entry.1 = none := by
        decide
      refine ⟨letter, [], [], rfl, .nil, fun count isCount => ?_⟩
      rw [each _ isSimple] at isCount
      cases isCount
  | hexadecimal digits length =>
      refine ⟨'x', _, _, rfl, digits, fun count isCount => ?_⟩
      cases isCount
      exact length
  | octal digits length isByte =>
      cases digits with
      | nil => cases length
      | @cons c value digits values isDigit areDigits =>
          refine ⟨c, digits, values, rfl,
            areDigits.imp fun _ _ isDigit => isDigit.mono (by decide),
            fun count isCount => ?_⟩
          rw [(octal_opens c isDigit.mem_octals).1] at isCount
          cases isCount
          exact Nat.succ_injective length
  | codePoint isMark digits length isScalar =>
      have each : ∀ entry ∈ codePointMarks,
          digitCounts.lookup entry.1 = some entry.2 := by
        decide
      refine ⟨_, _, _, rfl, digits, fun count isCount => ?_⟩
      rw [each _ isMark] at isCount
      cases isCount
      exact length

theorem Escape.not_loose
    (isEscape : Escape text bytes) (rest : List Char) :
    ¬LooseEscape (text ++ rest) := by
  rcases isEscape.exists_digits with
    ⟨c, digits, values, rfl, areDigits, length⟩
  rw [List.cons_append]
  generalize shape : digits ++ rest = tail
  intro isLoose
  cases isLoose with
  | short isNumeric few =>
      rw [← shape, List.length_append, length _ isNumeric] at few
      omega
  | @signed _ tail isMark =>
      cases areDigits with
      | nil =>
          rcases isMark with rfl | rfl | rfl
          all_goals cases length _ rfl
      | cons isDigit _ =>
          cases shape
          exact isDigit_not_plus (by decide) isDigit

/-- A body is none with a loose escape. -/
theorem Body.not_loose
    {body : List Char} (isBody : Body body bytes) : ¬LooseBody body := by
  induction isBody with
  | nil =>
      intro isLoose
      cases isLoose
  | plain isPlain _ ih =>
      intro isLoose
      cases isLoose with
      | here => exact isPlain.2.1 rfl
      | plain _ later => exact ih later
      | escape => exact isPlain.2.1 rfl
  | @escape text body bytes others isEscape _ ih =>
      generalize shape : text ++ body = tail
      intro isLoose
      cases isLoose with
      | here isLoose =>
          rw [← shape] at isLoose
          exact isEscape.not_loose body isLoose
      | plain isPlain => exact isPlain.2.1 rfl
      | @escape text' body' bytes' isEscape' later =>
          have first := isEscape.escape?_append body
          rw [shape, isEscape'.escape?_append] at first
          cases first
          exact ih later

/-! ## Other escapes are loose -/

/-- The digits behind a mark are hexadecimal, or the escape is loose. -/
theorem digits_or_loose
    {mark : Char} {count number : Nat}
    (isMark : mark = 'x' ∨ mark = 'u' ∨ mark = 'U')
    (isNumeric : digitCounts.lookup mark = some count)
    (reads : unsigned? 16 (rest.take count) = some number) :
    LooseEscape (mark :: rest) ∨
      (rest.take count).length = count ∧
        ∃ values, Digits 16 (rest.take count) values ∧
          numberOf 16 values = number := by
  by_cases few : rest.length < count
  · exact .inl (.short isNumeric few)
  by_cases isSigned : rest.head? = some '+'
  · cases rest with
    | nil => cases isSigned
    | cons c rest =>
        cases isSigned
        exact .inl (.signed isMark)
  right
  have noSign : (rest.take count).head? ≠ some '+' := by
    intro isPlus
    rw [List.head?_take] at isPlus
    split at isPlus
    · cases isPlus
    · exact isSigned isPlus
  have length : (rest.take count).length = count := by
    rw [List.length_take, Nat.min_eq_left (Nat.le_of_not_lt few)]
  exact ⟨length, ((unsigned?_eq_some_iff (by decide) noSign).mp reads).2⟩

/-- What is read as an escape is one, unless it is loose. -/
theorem escape?_cases
    (decodes : escape? text = some (bytes, later)) :
    LooseEscape text ∨ ∃ front, text = front ++ later ∧ Escape front bytes := by
  cases text with
  | nil => cases decodes
  | cons c rest =>
      rcases opens_of_escape? decodes with
        ⟨plain, isSimple⟩ | rfl | isOctal | ⟨count, isMark⟩
      · rw [escape?_simple isSimple] at decodes
        cases decodes
        exact .inr ⟨[c], rfl, .simple isSimple⟩
      · rw [escape?_hexadecimal] at decodes
        rcases Option.map_eq_some_iff.mp decodes with ⟨byte, isByte, same⟩
        cases same
        rcases byte?_eq_some_iff.mp isByte with ⟨number, reads, -, rfl⟩
        refine (digits_or_loose (.inl rfl) (by decide) reads).imp_right ?_
        rintro ⟨length, values, digits, rfl⟩
        refine ⟨'x' :: rest.take 2, ?_, .hexadecimal digits length⟩
        rw [List.cons_append, List.take_append_drop]
      · rw [escape?_octal isOctal] at decodes
        rcases Option.map_eq_some_iff.mp decodes with ⟨byte, isByte, same⟩
        cases same
        rcases byte?_eq_some_iff.mp isByte with ⟨number, reads, small, rfl⟩
        rcases octal_opens c isOctal with ⟨isNumeric, noPlus⟩
        by_cases few : rest.length < 2
        · exact .inl (.short isNumeric few)
        have noSign : (c :: rest.take 2).head? ≠ some '+' := by
          simpa using noPlus
        rcases ((unsigned?_eq_some_iff (by decide) noSign).mp reads).2 with
          ⟨values, digits, rfl⟩
        have length : (c :: rest.take 2).length = 3 := by
          rw [List.length_cons, List.length_take]
          omega
        refine .inr ⟨c :: rest.take 2, ?_, .octal digits length small⟩
        rw [List.cons_append, List.take_append_drop]
      · rw [escape?_codePoint isMark] at decodes
        rcases Option.map_eq_some_iff.mp decodes with ⟨d, isScalar, same⟩
        cases same
        have isNumeric : ∀ entry ∈ codePointMarks,
            (entry.1 = 'x' ∨ entry.1 = 'u' ∨ entry.1 = 'U') ∧
              digitCounts.lookup entry.1 = some entry.2 := by
          decide
        rcases isNumeric _ isMark with ⟨isMark', isCount⟩
        refine (digits_or_loose isMark' isCount
          (scalar?_eq_some_iff.mp isScalar)).imp_right ?_
        rintro ⟨length, values, digits, isCode⟩
        refine ⟨c :: rest.take count, ?_,
          .codePoint isMark digits length isCode.symm⟩
        rw [List.cons_append, List.take_append_drop]

/-- Digits end no body. -/
theorem Digits.quotedBody
    {values : List Nat} (digits : Digits 16 text values)
    (isBody : QuotedBody (text ++ rest)) : QuotedBody rest := by
  induction digits with
  | nil => exact isBody
  | @cons c value text values isDigit _ ih =>
      have noEscape : ∀ value < 16, '\\' ∉ spellings value := by decide
      rw [List.cons_append] at isBody
      generalize shape : text ++ rest = tail at isBody
      cases isBody with
      | plain _ later => exact ih (shape ▸ later)
      | escape =>
          exact absurd isDigit.mem_spellings (noEscape _ isDigit.small)

/-- What is left of a body behind an escape is a body. -/
theorem Escape.quotedBody
    (isEscape : Escape text bytes)
    (isBody : QuotedBody ('\\' :: (text ++ rest))) : QuotedBody rest := by
  rcases isEscape.exists_digits with ⟨c, digits, values, rfl, areDigits, -⟩
  cases isBody with
  | plain isPlain => exact absurd rfl isPlain.2.1
  | escape _ later => exact areDigits.quotedBody later

/-- What is read as a body is one, unless it is loose. -/
theorem body_or_loose
    {body : List Char} (isQuoted : QuotedBody body)
    (decodes : bodyBytes? body = some bytes) :
    Body body bytes ∨ LooseBody body := by
  fun_induction bodyBytes? body generalizing bytes with
  | case1 =>
      cases decodes
      exact .inl .nil
  | case2 => cases decodes
  | case3 rest front later decoded ih =>
      rcases Option.map_eq_some_iff.mp decodes with ⟨others, reads, rfl⟩
      rcases escape?_cases decoded with isLoose | ⟨text, rfl, isEscape⟩
      · exact .inr (.here isLoose)
      · exact (ih (isEscape.quotedBody isQuoted) reads).imp
          (.escape isEscape) (.escape isEscape)
  | case4 c rest noEscape ih =>
      rcases Option.map_eq_some_iff.mp decodes with ⟨others, reads, rfl⟩
      cases isQuoted with
      | plain isPlain isQuoted =>
          exact (ih isQuoted reads).imp (.plain isPlain) (.plain isPlain)
      | escape => exact absurd rfl noEscape

/-! ## Literals -/

theorem denotes_interpreted_iff {body : List Char} {value : String} :
    Denotes ('"' :: body ++ ['"']) value ↔
      Body body (encoded value.toList) := by
  constructor
  · generalize shape : '"' :: body ++ ['"'] = text
    intro denotes
    cases denotes with
    | interpreted isBody =>
        rw [List.append_cancel_right (List.tail_eq_of_cons_eq shape)]
        exact isBody
    | raw => cases shape
  · exact .interpreted

theorem denotes_raw_iff
    {body : List Char} {value : String} (noQuote : '\x60' ∉ body) :
    Denotes ('\x60' :: body ++ ['\x60']) value ↔
      String.ofList (body.filter (· ≠ '\r')) = value := by
  constructor
  · generalize shape : '\x60' :: body ++ ['\x60'] = text
    intro denotes
    cases denotes with
    | interpreted => cases shape
    | raw =>
        rw [List.append_cancel_right (List.tail_eq_of_cons_eq shape)]
  · rintro rfl
    exact .raw noQuote

theorem looseLiteral_iff {body : List Char} :
    LooseLiteral ('"' :: body ++ ['"']) ↔ LooseBody body := by
  constructor
  · rintro ⟨body', shape, isLoose⟩
    rw [List.append_cancel_right (List.tail_eq_of_cons_eq shape)]
    exact isLoose
  · intro isLoose
    exact ⟨body, rfl, isLoose⟩

/-- A string literal of the grammar has its value, and nothing else that is scanned as a string
literal has one, apart from literals with a loose escape. -/
theorem unquote?_exact
    {source : List Char} {tokens : List Token} {token : Token}
    (scanned : Token.ofSource source = .ok tokens) (isIn : token ∈ tokens)
    (isString : token.kind = .string ∨ token.kind = .rawString)
    (value : String) :
    Denotes token.text.toList value ↔
      unquote? token.text = some value ∧
        ¬LooseLiteral token.text.toList := by
  have isString' : Lexeme.isStringKind token.kind = true := by
    rcases isString with isKind | isKind
    · rw [isKind]
      rfl
    · rw [isKind]
      rfl
  have isQuotation := Token.isQuotation_of_mem scanned isIn isString'
  have isText : token.text = String.ofList token.text.toList :=
    String.ofList_toList.symm
  rw [isText, String.toList_ofList]
  generalize token.kind = kind, token.text.toList = text at isQuotation
  cases isQuotation with
  | @quoted body isQuoted =>
      rw [denotes_interpreted_iff, looseLiteral_iff, unquote?_between]
      constructor
      · intro isBody
        rw [isBody.bodyBytes?_eq, Option.bind_some]
        exact ⟨fromUTF8?_eq_some_iff.mpr rfl, isBody.not_loose⟩
      · rintro ⟨reads, noLoose⟩
        rcases Option.bind_eq_some_iff.mp reads with
          ⟨bytes, decodes, valid⟩
        rw [← fromUTF8?_eq_some_iff.mp valid]
        exact (body_or_loose isQuoted decodes).resolve_right noLoose
  | @raw body noQuote =>
      have noLoose : ¬LooseLiteral ('\x60' :: body ++ ['\x60']) := by
        rintro ⟨body', shape, -⟩
        cases shape
      rw [denotes_raw_iff noQuote, unquote?_between_ticks, Option.some_inj]
      exact (and_iff_left noLoose).symm

/-- A character is written by two bytes in hexadecimal digits and one by an octal number. -/
theorem unquote?_exact_bytes :
    Token.ofSource "\"\\xc3\\xa9\\101\"".toList =
        .ok [⟨.string, "\"\\xc3\\xa9\\101\"", ⟨0, 14⟩⟩,
          Token.lineEnd 14, Token.endOfFile 14] ∧
      Denotes "\"\\xc3\\xa9\\101\"".toList "éA" ∧
        unquote? "\"\\xc3\\xa9\\101\"" = some "éA" ∧
          ¬LooseLiteral "\"\\xc3\\xa9\\101\"".toList := by
  have scanned :
      Token.ofSource "\"\\xc3\\xa9\\101\"".toList =
        .ok [⟨.string, "\"\\xc3\\xa9\\101\"", ⟨0, 14⟩⟩,
          Token.lineEnd 14, Token.endOfFile 14] := by
    decide +kernel
  have first : Digits 16 ['c', '3'] [12, 3] := by decide
  have second : Digits 16 ['a', '9'] [10, 9] := by decide
  have third : Digits 8 ['1', '0', '1'] [1, 0, 1] := by decide
  have parts :=
    Body.escape (.hexadecimal first rfl) (.escape (.hexadecimal second rfl)
      (.escape (.octal third rfl (by decide)) .nil))
  have isBody : Body "\\xc3\\xa9\\101".toList (encoded "éA".toList) := parts
  have denotes : Denotes "\"\\xc3\\xa9\\101\"".toList "éA" :=
    denotes_interpreted_iff.mpr isBody
  have exact' := unquote?_exact scanned List.mem_cons_self (.inl rfl) "éA"
  exact ⟨scanned, denotes, exact'.mp denotes⟩

/-- An escape with one digit has a value where the literal ends behind it. -/
theorem unquote?_short_escape :
    Token.ofSource "\"\\x4\"".toList =
        .ok [⟨.string, "\"\\x4\"", ⟨0, 5⟩⟩, Token.lineEnd 5,
          Token.endOfFile 5] ∧
      unquote? "\"\\x4\"" = some "\x04" ∧
        ∀ value, ¬Denotes "\"\\x4\"".toList value := by
  refine ⟨by decide +kernel, by decide +kernel, fun value denotes => ?_⟩
  have isBody : Body ['\\', 'x', '4'] (encoded value.toList) :=
    denotes_interpreted_iff.mp denotes
  exact isBody.not_loose (.here (.short rfl (by decide)))

end GoUnion.Literal
