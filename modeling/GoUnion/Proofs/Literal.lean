import GoUnion.GoType.Spelling
import GoUnion.Literal.Quoted
import GoUnion.Text.Escaped
import Mathlib.Data.List.Basic

/-!
# Reading literals back

A text that is written as a literal is what the literal stands for, and so is a
number that is written in decimal digits.  The two ways in which characters are
escaped differ in what they escape; each is treated as a list of chunks, one for
each character, that decode to the bytes of that character.
-/

namespace GoUnion.Literal

/-! ## Decimal numbers -/

/-- The decimal digits. -/
def decimals : List Char :=
  ['0', '1', '2', '3', '4', '5', '6', '7', '8', '9']

theorem mem_decimals {c : Char} (isDigit : c.isDigit = true) :
    c ∈ decimals := by
  rw [Char.isDigit_iff_toNat] at isDigit
  rcases isDigit with ⟨lower, upper⟩
  have named : c = Char.ofNat c.toNat := (Char.ofNat_toNat c).symm
  change 48 ≤ c.toNat at lower
  change c.toNat ≤ 57 at upper
  generalize c.toNat = code at named lower upper
  subst named
  have some' : ∀ code < 10, Char.ofNat (48 + code) ∈ decimals := by
    decide
  have found := some' (code - 48) (by omega)
  rwa [Nat.add_sub_cancel' lower] at found

theorem mem_decimals_of_toDigits {number : Nat} :
    ∀ c ∈ Nat.toDigits 10 number, c ∈ decimals := by
  intro c isIn
  exact mem_decimals
    (Nat.isDigit_of_mem_toDigits (by decide) (by decide) isIn)

/-- A number from ten on does not open with a zero. -/
theorem head?_toDigits {number : Nat} (positive : 0 < number) :
    (Nat.toDigits 10 number).head? ≠ some '0' := by
  induction number using Nat.strongRecOn with
  | ind number ih =>
      by_cases small : number < 10
      · rw [Nat.toDigits_of_lt_base small]
        have all : ∀ digit < 10, 0 < digit →
            [Nat.digitChar digit].head? ≠ some '0' := by decide
        exact all number small positive
      · rw [Nat.toDigits_of_base_le (by decide) (Nat.le_of_not_lt small),
          List.head?_append_of_ne_nil _ Nat.toDigits_ne_nil]
        exact ih (number / 10) (by omega) (by omega)

/-- What does not open with a zero is a decimal number. -/
theorem baseOf_of_noZero
    {text : List Char} (noZero : text.head? ≠ some '0') :
    baseOf text = (10, text) := by
  unfold baseOf
  split
  all_goals first | rfl | exact absurd rfl noZero

theorem baseOf_toDigits (number : Nat) :
    baseOf (Nat.toDigits 10 number) = (10, Nat.toDigits 10 number) := by
  by_cases isZero : number = 0
  · subst isZero
    decide
  · exact baseOf_of_noZero (head?_toDigits (Nat.pos_of_ne_zero isZero))

theorem digitValue?_of_mem :
    ∀ c ∈ decimals, digitValue? 10 c = some (c.toNat - '0'.toNat) :=
  List.forall_iff_forall_mem.mp (by decide)

theorem digitsValue?_eq
    {digits : List Char} (each : ∀ c ∈ digits, c ∈ decimals) :
    digitsValue? 10 digits = some (Nat.ofDigitChars 10 digits 0) := by
  rw [digitsValue?, Nat.ofDigitChars_eq_foldl]
  generalize 0 = value
  induction digits generalizing value with
  | nil => rfl
  | cons c digits ih =>
      rcases List.forall_mem_cons.mp each with ⟨first, others⟩
      rw [List.foldlM_cons, digitValue?_of_mem c first, List.foldl_cons,
        Nat.mul_comm 10]
      exact ih others _

theorem ungrouped_repr (number : Nat) :
    ungrouped (toString number) = Nat.toDigits 10 number := by
  rw [ungrouped, Nat.toString_eq_ofList_toDigits, String.toList_ofList]
  apply List.filter_eq_self.mpr
  intro c isIn
  have all : ∀ c ∈ decimals, decide (c ≠ '_') = true :=
    List.forall_iff_forall_mem.mp (by decide)
  exact all c (mem_decimals_of_toDigits c isIn)

/-- A word written in decimal digits is read back. -/
theorem integer?_toString (value : UInt64) :
    integer? (toString value.toNat) = some value := by
  have noPlus : (Nat.toDigits 10 value.toNat).head? ≠ some '+' := by
    intro isPlus
    have isIn := mem_decimals_of_toDigits '+' (List.mem_of_head? isPlus)
    revert isIn
    decide
  have noDigits : (Nat.toDigits 10 value.toNat).isEmpty = false :=
    List.isEmpty_eq_false_iff.mpr Nat.toDigits_ne_nil
  have number :
      unsigned? 10 (Nat.toDigits 10 value.toNat) = some value.toNat := by
    rw [unsigned?, if_neg noPlus, noDigits,
      digitsValue?_eq mem_decimals_of_toDigits,
      Nat.ofDigitChars_ten_toDigits]
    rfl
  rw [integer?, ungrouped_repr, baseOf_toDigits]
  dsimp only
  rw [number, Option.bind_some, word?, if_pos value.toNat_lt_size]
  simp

theorem constant?_toString (value : UInt64) :
    constant? (toString value.toNat) = some value := by
  rw [constant?, integer?_toString]
  rfl

/-! ## Escaped characters -/

/-- A piece of an interpreted literal decodes to the bytes of a character, whatever follows. -/
def Writes (piece : List Char) (c : Char) : Prop :=
  ∀ rest, bodyBytes? (piece ++ rest) =
    (bodyBytes? rest).map (String.utf8EncodeChar c ++ ·)

theorem writes_plain {c : Char} (noEscape : c ≠ '\\') : Writes [c] c := by
  intro rest
  rw [List.singleton_append, bodyBytes?]
  rintro rfl
  exact noEscape rfl

theorem writes_of_escape?
    {piece : List Char} {c : Char}
    (decodes : ∀ rest,
      escape? (piece ++ rest) = some (String.utf8EncodeChar c, rest)) :
    Writes ('\\' :: piece) c := by
  intro rest
  rw [List.cons_append, bodyBytes?]
  split
  case h_1 failed =>
    rw [decodes] at failed
    cases failed
  case h_2 bytes rest' decoded =>
    rw [decodes] at decoded
    cases decoded
    rfl

theorem writes_simple
    {letter c : Char} (isSimple : simpleEscape? letter = some c) :
    Writes ['\\', letter] c := by
  apply writes_of_escape?
  intro rest
  simp only [List.singleton_append, escape?, isSimple]

/-- The letters in front of the digits of a code point, and how many digits there are. -/
def codePointMarks : List (Char × Nat) :=
  [('u', 4), ('U', 8)]

/-- A letter in front of a code point is read with the digits of the code point. -/
theorem escape?_codePoint
    {mark : Char} {count : Nat} (isMark : (mark, count) ∈ codePointMarks)
    (rest : List Char) :
    escape? (mark :: rest) =
      (scalar? (rest.take count)).map fun c =>
        (String.utf8EncodeChar c, rest.drop count) := by
  rcases List.mem_cons.mp isMark with same | isMark
  · cases same
    rfl
  · cases List.mem_singleton.mp isMark
    rfl

theorem u_mem_codePointMarks : ('u', 4) ∈ codePointMarks := by
  decide

theorem fourDigits_control :
    ∀ code < 160, (Spelling.fourDigits code).length = 4 ∧
      scalar? (Spelling.fourDigits code) = some (Char.ofNat code) := by
  decide +kernel

theorem writes_control
    {c : Char} (isControl : Spelling.isControl c = true) :
    Writes ('\\' :: 'u' :: Spelling.fourDigits c.toNat) c := by
  have small : c.toNat < 160 := by
    simp only [Spelling.isControl, Bool.or_eq_true, Bool.and_eq_true,
      decide_eq_true_eq] at isControl
    omega
  rcases fourDigits_control c.toNat small with ⟨length, value⟩
  rw [Char.ofNat_toNat] at value
  apply writes_of_escape?
  intro rest
  rw [List.cons_append, escape?_codePoint u_mem_codePointMarks,
    List.take_left' length, value, List.drop_left' length,
    Option.map_some]

/-- The characters of a tag are written so that they are read back. -/
theorem writes_tagChar (c : Char) : Writes (Spelling.tagChar c) c := by
  unfold Spelling.tagChar
  split
  case isTrue isQuote =>
    subst isQuote
    exact writes_simple (by decide)
  split
  case isTrue isEscape =>
    subst isEscape
    exact writes_simple (by decide)
  case isFalse noEscape =>
  split
  case isTrue isNewline =>
    subst isNewline
    exact writes_simple (by decide)
  split
  case isTrue isReturn =>
    subst isReturn
    exact writes_simple (by decide)
  split
  case isTrue isTab =>
    subst isTab
    exact writes_simple (by decide)
  split
  case isTrue isControl => exact writes_control isControl
  case isFalse => exact writes_plain noEscape

end GoUnion.Literal

/-! ## Characters that are shown -/

namespace GoUnion.Text

/-- Whether a character stands between double quotes as itself or behind a backslash. -/
def isShown (c : Char) : Bool :=
  c = '\t' || c = '\r' || c = '\n' || c = '\\' || c = '"' ||
    isPrintable c && !extendsGrapheme c

theorem isShown_zero : isShown '\x00' = false := by
  decide

/-- The form of a character that is shown. -/
theorem escape_shown {c : Char} (shown : isShown c = true) :
    (∃ letter, escape '"' c = ['\\', letter] ∧
      Literal.simpleEscape? letter = some c) ∨
    (escape '"' c = [c] ∧ c ≠ '\\') := by
  unfold escape
  split
  case isTrue isZero =>
    rw [isZero, isShown_zero] at shown
    cases shown
  split
  case isTrue isTab =>
    subst isTab
    exact .inl ⟨'t', rfl, by decide⟩
  split
  case isTrue isReturn =>
    subst isReturn
    exact .inl ⟨'r', rfl, by decide⟩
  split
  case isTrue isNewline =>
    subst isNewline
    exact .inl ⟨'n', rfl, by decide⟩
  case isFalse noZero noTab noReturn noNewline =>
  split
  case isTrue isEscaped =>
    rw [Bool.or_eq_true, decide_eq_true_eq, decide_eq_true_eq] at isEscaped
    rcases isEscaped with rfl | rfl
    · exact .inl ⟨'\\', rfl, by decide⟩
    · exact .inl ⟨'"', rfl, by decide⟩
  case isFalse notEscaped =>
  rw [Bool.or_eq_true, decide_eq_true_eq, decide_eq_true_eq, not_or]
    at notEscaped
  split
  case isTrue hidden =>
    simp only [isShown, noTab, noReturn, noNewline, notEscaped.1,
      notEscaped.2, decide_false, Bool.false_or, Bool.and_eq_true,
      Bool.not_eq_true'] at shown
    rw [shown.1, shown.2] at hidden
    cases hidden
  case isFalse => exact .inr ⟨rfl, notEscaped.1⟩

end GoUnion.Text

namespace GoUnion.Literal

/-- What is shown is read back. -/
theorem writes_shown {c : Char} (shown : Text.isShown c = true) :
    Writes (Text.escape '"' c) c := by
  rcases Text.escape_shown shown with
    ⟨letter, form, isSimple⟩ | ⟨form, noEscape⟩
  · rw [form]
    exact writes_simple isSimple
  · rw [form]
    exact writes_plain noEscape

/-- A printable character of the first 128. -/
def isPlainText (c : Char) : Bool :=
  0x20 ≤ c.toNat && c.toNat ≤ 0x7E

theorem isShown_of_plain :
    ∀ code < 128, isPlainText (Char.ofNat code) = true →
      Text.isShown (Char.ofNat code) = true := by
  decide +kernel

/-- Printable characters of the first 128 are shown. -/
theorem isShown_of_isPlainText
    {c : Char} (isPlain : isPlainText c = true) :
    Text.isShown c = true := by
  have small : c.toNat < 128 := by
    simp only [isPlainText, Bool.and_eq_true, decide_eq_true_eq] at isPlain
    omega
  have shown := isShown_of_plain c.toNat small
  rw [Char.ofNat_toNat] at shown
  exact shown isPlain

theorem bodyBytes?_flatMap
    {form : Char → List Char} {text : List Char}
    (writes : ∀ c ∈ text, Writes (form c) c) :
    bodyBytes? (text.flatMap form) =
      some (text.flatMap String.utf8EncodeChar) := by
  induction text with
  | nil =>
      rw [List.flatMap_nil, bodyBytes?]
      rfl
  | cons c text ih =>
      rcases List.forall_mem_cons.mp writes with ⟨first, others⟩
      rw [List.flatMap_cons, first, ih others, List.flatMap_cons]
      rfl

/-! ## Literals -/

theorem between?_append (quote : Char) (body : List Char) :
    between? quote (quote :: body ++ [quote]) = some body := by
  rw [List.cons_append, between?, List.getLast?_append, List.dropLast_concat]
  simp

theorem between?_ne
    {quote first : Char} (different : first ≠ quote) (rest : List Char) :
    between? quote (first :: rest) = none := by
  rw [between?]
  simp [different]

theorem fromUTF8?_encode (text : List Char) :
    String.fromUTF8? ⟨(text.flatMap String.utf8EncodeChar).toArray⟩ =
      some (String.ofList text) := by
  have same :
      (⟨(text.flatMap String.utf8EncodeChar).toArray⟩ : ByteArray) =
        (String.ofList text).toByteArray := by
    rw [String.toByteArray_ofList, List.utf8Encode]
    apply ByteArray.ext
    simp
  rw [same, String.fromUTF8?,
    dif_pos (String.ofList text).isValidUTF8]
  rfl

/-- A text between double quotes stands for the bytes of its body, if they are a text. -/
theorem unquote?_between (body : List Char) :
    unquote? (String.ofList ('"' :: body ++ ['"'])) =
      (bodyBytes? body).bind fun bytes =>
        String.fromUTF8? ⟨bytes.toArray⟩ := by
  rw [unquote?, String.toList_ofList, between?_append,
    List.cons_append, between?_ne (by decide)]
  rfl

theorem unquote?_between_ticks (body : List Char) :
    unquote? (String.ofList ('\x60' :: body ++ ['\x60'])) =
      some (String.ofList (body.filter (· ≠ '\r'))) := by
  rw [unquote?, String.toList_ofList, between?_append]

/-- A text between double quotes stands for the characters that its pieces decode to. -/
theorem unquote?_quoted
    {form : Char → List Char} {text : List Char}
    (writes : ∀ c ∈ text, Writes (form c) c) :
    unquote? (String.ofList ('"' :: text.flatMap form ++ ['"'])) =
      some (String.ofList text) := by
  rw [unquote?_between, bodyBytes?_flatMap writes, Option.bind_some,
    fromUTF8?_encode]

theorem unquote?_raw
    {text : List Char} (noReturn : '\r' ∉ text) :
    unquote? (String.ofList ('\x60' :: text ++ ['\x60'])) =
      some (String.ofList text) := by
  have kept : text.filter (· ≠ '\r') = text := by
    apply List.filter_eq_self.mpr
    intro c isIn
    refine decide_eq_true ?_
    rintro rfl
    exact noReturn isIn
  rw [unquote?_between_ticks, kept]

/-- A tag is written as a literal that stands for it. -/
theorem unquote?_tag (text : String) :
    unquote? (Spelling.tag text) = some text := by
  rw [Spelling.tag]
  split
  case isTrue =>
    rw [unquote?_quoted fun c _ => writes_tagChar c, String.ofList_toList]
  case isFalse raw =>
    rw [unquote?_raw, String.ofList_toList]
    intro isIn
    apply raw
    rw [Bool.or_eq_true]
    exact .inr (List.contains_iff_mem.mpr isIn)

/-- A text of printable characters of the first 128 is quoted as a literal that stands for it. -/
theorem unquote?_quotedText
    {text : String} (isPlain : ∀ c ∈ text.toList, isPlainText c = true) :
    unquote? (Text.quoted text) = some text := by
  rw [Text.quoted, unquote?_quoted fun c isIn =>
    writes_shown (isShown_of_isPlainText (isPlain c isIn)),
    String.ofList_toList]

end GoUnion.Literal
