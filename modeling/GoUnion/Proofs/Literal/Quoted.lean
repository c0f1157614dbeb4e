import GoUnion.Proofs.Literal
import GoUnion.Proofs.Literal.Digits

/-!
# What quoted text stands for

A text between double quotes is read as a string literal.  Two kinds of escape
do not mean to the reader what they mean to the writer.  A code point between
braces is none of the escapes that the reader knows, so a text with a character
that is not shown has no value.  A zero behind a backslash is the beginning of
three octal digits: it stands for the character zero at the end of the text, and
with characters behind it there is no value or another one.

So a text is read back exactly if its characters are shown, with the exception
that the last one may be the character zero.
-/

namespace GoUnion

open Literal (bodyBytes? escape? byte? digitValue? digitsValue?
  simpleEscape? unsigned?)

/-! ## Forms of characters -/

/-- The form of a character that is not shown, apart from the character zero. -/
theorem Text.escape_hidden
    {c : Char} (hidden : isShown c = false) (noZero : c ≠ '\x00') :
    escape '"' c = codePointEscape c := by
  simp only [isShown, Bool.or_eq_false_iff, Bool.and_eq_false_iff,
    Bool.not_eq_false', decide_eq_false_iff_not] at hidden
  rcases hidden with
    ⟨⟨⟨⟨⟨noTab, noReturn⟩, noNewline⟩, noEscape⟩, noQuote⟩, hidden⟩
  rw [escape, if_neg noZero, if_neg noTab, if_neg noReturn,
    if_neg noNewline, if_neg (by simp [noEscape, noQuote]), if_pos]
  rcases hidden with unprintable | extending
  · simp [unprintable]
  · simp [extending]

/-- A form opens with a backslash, unless it is the character itself. -/
theorem Text.escape_opens (c : Char) :
    (∃ tail, escape '"' c = '\\' :: tail) ∨ escape '"' c = [c] := by
  cases shown : isShown c with
  | true =>
      rcases escape_shown shown with ⟨letter, form, -⟩ | ⟨form, -⟩
      · exact .inl ⟨_, form⟩
      · exact .inr form
  | false =>
      by_cases isZero : c = '\x00'
      · subst isZero
        exact .inl ⟨_, rfl⟩
      · exact .inl ⟨_, escape_hidden shown isZero⟩

namespace Literal

open Text (isShown escape)

/-! ## Escapes that are read otherwise -/

/-- A backslash is read together with what it escapes. -/
theorem bodyBytes?_escape (rest : List Char) :
    bodyBytes? ('\\' :: rest) =
      (escape? rest).bind fun (bytes, later) =>
        (bodyBytes? later).map (bytes ++ ·) := by
  rw [bodyBytes?]
  split
  case h_1 fails =>
    rw [fails]
    rfl
  case h_2 decodes =>
    rw [decodes]
    rfl

/-- No text with a code point between braces has a value. -/
theorem bodyBytes?_codePointEscape (c : Char) (rest : List Char) :
    bodyBytes? (Text.codePointEscape c ++ rest) = none := by
  have noNumber (digits : List Char) :
      scalar? ('\x7b' :: digits) = none := by
    have noDigit : digitValue? 16 '\x7b' = none := by decide
    simp [scalar?, unsigned?, digitsValue?, noDigit]
  rw [Text.codePointEscape, List.append_assoc, List.append_assoc]
  simp only [List.cons_append, List.nil_append]
  rw [bodyBytes?_escape, escape?_codePoint u_mem_codePointMarks,
    List.take_succ_cons, noNumber]
  rfl

/-- The octal digits. -/
def octals : List Char := ['0', '1', '2', '3', '4', '5', '6', '7']

theorem IsDigit.mem_octals
    {c : Char} {value : Nat} (isDigit : IsDigit 8 c value) :
    c ∈ octals := by
  have each : ∀ value < 8, (spellings value).Forall (· ∈ octals) := by
    decide
  exact isDigit.of_spellings (each value isDigit.small)

/-- An octal digit opens an escape of three of them. -/
theorem escape?_octal
    {c : Char} (isOctal : c ∈ octals) (rest : List Char) :
    escape? (c :: rest) =
      (byte? 8 (c :: rest.take 2)).map fun byte =>
        ([byte], rest.drop 2) := by
  have each :
      ∀ c ∈ octals, simpleEscape? c = none ∧ c ≠ 'x' ∧ '0' ≤ c ∧ c ≤ '7' :=
    List.forall_iff_forall_mem.mp (by decide)
  rcases each c isOctal with ⟨noSimple, noMark, isDigit⟩
  simp only [escape?, noSimple, if_neg noMark, if_pos isDigit]

theorem not_mem_octals : '\\' ∉ octals := by
  decide

/-- Where the form of a character opens with an octal digit, it is that digit. -/
theorem escape_of_opens
    {c first : Char} {tail rest : List Char}
    (opens : escape '"' c ++ rest = first :: tail)
    (isOctal : first ∈ octals) :
    escape '"' c = [c] := by
  rcases Text.escape_opens c with ⟨others, form⟩ | form
  · rw [form, List.cons_append] at opens
    cases opens
    exact absurd isOctal not_mem_octals
  · exact form

/-- Octal digits in front of a written text are written by two characters of it. -/
theorem drop_flatMap_escape
    {text : List Char}
    (areOctals :
      ∀ c ∈ (text.flatMap (escape '"')).take 2, c ∈ octals) :
    (text.flatMap (escape '"')).drop 2 =
      (text.drop 2).flatMap (escape '"') := by
  have first {c : Char} (later : List Char)
      (areOctals : ∀ d ∈ (escape '"' c ++ later).take 1, d ∈ octals) :
      escape '"' c = [c] := by
    cases shape : escape '"' c ++ later with
    | nil =>
        have isEmpty := (List.append_eq_nil_iff.mp shape).1
        rcases Text.escape_opens c with ⟨_, form⟩ | form
        · cases form.symm.trans isEmpty
        · exact form
    | cons d tail =>
        rw [shape] at areOctals
        exact escape_of_opens shape (areOctals d List.mem_cons_self)
  cases text with
  | nil => rfl
  | cons c text =>
      rw [List.flatMap_cons] at areOctals ⊢
      have form := first (text.flatMap (escape '"')) fun d isIn =>
        areOctals d (List.mem_of_mem_take (i := 1) (by
          rwa [List.take_take]))
      rw [form, List.singleton_append] at areOctals ⊢
      cases text with
      | nil => rfl
      | cons d text =>
          rw [List.flatMap_cons] at areOctals ⊢
          have form' := first (text.flatMap (escape '"'))
            fun e isIn => areOctals e (List.mem_cons_of_mem _ isIn)
          rw [form']
          rfl

/-- The character zero takes the next two characters of a text with it. -/
theorem bodyBytes?_zero
    {text : List Char} {bytes : List UInt8}
    (decodes :
      bodyBytes? (escape '"' '\x00' ++ text.flatMap (escape '"')) =
        some bytes) :
    ∃ byte others, bytes = byte :: others ∧
      bodyBytes? ((text.drop 2).flatMap (escape '"')) = some others := by
  have form : escape '"' '\x00' = ['\\', '0'] := rfl
  rw [form, List.cons_append, bodyBytes?_escape] at decodes
  rcases Option.bind_eq_some_iff.mp decodes with
    ⟨⟨front, rest⟩, escapes, decodes⟩
  rw [List.singleton_append, escape?_octal (by decide)] at escapes
  rcases Option.map_eq_some_iff.mp escapes with ⟨byte, isByte, same⟩
  cases same
  rcases Option.map_eq_some_iff.mp decodes with ⟨others, later, rfl⟩
  refine ⟨byte, others, rfl, ?_⟩
  rw [← drop_flatMap_escape]
  · exact later
  · intro c isIn
    rw [byte?] at isByte
    split at isByte
    case h_2 => cases isByte
    case h_1 value isNumber =>
      have digits :
          digitsValue? 8 ('0' :: (text.flatMap (escape '"')).take 2) =
            some value := by
        simpa [unsigned?] using isNumber
      rcases (digitsValue?_eq_some_iff (by decide)).mp digits with
        ⟨values, areDigits, -⟩
      rcases areDigits.exists_of_mem (List.mem_cons_of_mem _ isIn) with
        ⟨digit, isDigit⟩
      exact isDigit.mem_octals

/-! ## Text that is read back -/

/-- The bytes of a text. -/
abbrev encoded (text : List Char) : List UInt8 :=
  text.flatMap String.utf8EncodeChar

theorem length_encoded_drop_le (text : List Char) (count : Nat) :
    (encoded (text.drop count)).length ≤ (encoded text).length := by
  have split : encoded text =
      encoded (text.take count) ++ encoded (text.drop count) := by
    rw [← List.flatMap_append, List.take_append_drop]
  rw [split, List.length_append]
  exact Nat.le_add_left _ _

/-- A text that is read has no more bytes than it had when it was written. -/
theorem length_le_of_bodyBytes?
    {text : List Char} {bytes : List UInt8}
    (decodes : bodyBytes? (text.flatMap (escape '"')) = some bytes) :
    bytes.length ≤ (encoded text).length := by
  generalize size : text.length = length
  induction length using Nat.strongRecOn generalizing text bytes with
  | ind length ih =>
      cases text with
      | nil =>
          rw [List.flatMap_nil, bodyBytes?] at decodes
          cases decodes
          exact Nat.zero_le _
      | cons c text =>
          have shorter : text.length < length := by
            rw [← size]
            exact Nat.lt_succ_self _
          rw [List.flatMap_cons] at decodes
          rw [encoded, List.flatMap_cons, List.length_append]
          cases shown : isShown c with
          | true =>
              rw [writes_shown shown] at decodes
              rcases Option.map_eq_some_iff.mp decodes with
                ⟨others, later, rfl⟩
              rw [List.length_append]
              exact Nat.add_le_add_left (ih _ shorter later rfl) _
          | false =>
              by_cases isZero : c = '\x00'
              · subst isZero
                rcases bodyBytes?_zero decodes with
                  ⟨byte, others, rfl, later⟩
                have fewer : (text.drop 2).length < length := by
                  rw [List.length_drop]
                  omega
                have bound := ih _ fewer later rfl
                have whole := length_encoded_drop_le text 2
                have one : (String.utf8EncodeChar '\x00').length = 1 := by
                  decide
                rw [one, List.length_cons]
                change _ ≤ 1 + (encoded text).length
                omega
              · rw [Text.escape_hidden shown isZero,
                  bodyBytes?_codePointEscape] at decodes
                cases decodes

/-- Characters that are shown, of which the last may be the character zero instead. -/
structure Quotable (text : List Char) : Prop where
  shown : ∀ c ∈ text, isShown c = true ∨ c = '\x00'
  zeroLast : '\x00' ∉ text.dropLast

instance (text : List Char) : Decidable (Quotable text) :=
  decidable_of_iff
    (text.all (fun c => isShown c || c = '\x00') = true ∧
      '\x00' ∉ text.dropLast)
    ⟨fun ⟨shown, zeroLast⟩ => ⟨by simpa using shown, zeroLast⟩,
      fun ⟨shown, zeroLast⟩ => ⟨by simpa using shown, zeroLast⟩⟩

theorem quotable_cons
    {c : Char} {text : List Char} (shown : isShown c = true) :
    Quotable (c :: text) ↔ Quotable text := by
  have noZero : '\x00' ≠ c := by
    rintro rfl
    rw [Text.isShown_zero] at shown
    cases shown
  have same : '\x00' ∈ (c :: text).dropLast ↔ '\x00' ∈ text.dropLast := by
    cases text with
    | nil => simp
    | cons d text => simp [noZero]
  constructor
  · intro quotable
    exact ⟨(List.forall_mem_cons.mp quotable.shown).2,
      fun isIn => quotable.zeroLast (same.mpr isIn)⟩
  · intro quotable
    exact ⟨List.forall_mem_cons.mpr ⟨.inl shown, quotable.shown⟩,
      fun isIn => quotable.zeroLast (same.mp isIn)⟩

/-- The body of a quoted text decodes to the bytes of the text. -/
theorem bodyBytes?_eq_encoded_iff {text : List Char} :
    bodyBytes? (text.flatMap (escape '"')) = some (encoded text) ↔
      Quotable text := by
  induction text with
  | nil =>
      rw [List.flatMap_nil, bodyBytes?]
      exact iff_of_true rfl ⟨by simp, by simp⟩
  | cons c text ih =>
      rw [List.flatMap_cons, encoded, List.flatMap_cons]
      cases shown : isShown c with
      | true =>
          rw [quotable_cons shown, ← ih, writes_shown shown]
          constructor
          · intro decodes
            rcases Option.map_eq_some_iff.mp decodes with
              ⟨others, later, same⟩
            rw [later, List.append_cancel_left same]
          · intro later
            rw [later]
            rfl
      | false =>
          by_cases isZero : c = '\x00'
          · subst isZero
            cases text with
            | nil =>
                refine iff_of_true ?_ ⟨by simp, by simp⟩
                have form : escape '"' '\x00' = ['\\', '0'] := rfl
                have value : escape? ['0'] = some ([0], []) := by decide
                rw [List.flatMap_nil, List.append_nil, form,
                  bodyBytes?_escape, value, Option.bind_some]
                dsimp only
                rw [bodyBytes?]
                decide
            | cons d text =>
                refine iff_of_false ?_ fun quotable =>
                  quotable.zeroLast (by simp)
                -- At least one character is lost, and no byte is gained for it.
                intro decodes
                rcases bodyBytes?_zero decodes with
                  ⟨byte, others, same, later⟩
                have bound := length_le_of_bodyBytes? later
                have lost := length_encoded_drop_le text 1
                have lengths := congrArg List.length same
                have one : (String.utf8EncodeChar '\x00').length = 1 := by
                  decide
                have positive := String.length_utf8EncodeChar d
                have positive' := d.utf8Size_pos
                rw [List.length_append, one, List.length_cons,
                  List.flatMap_cons, List.length_append] at lengths
                change others.length ≤ (encoded (text.drop 1)).length
                  at bound
                change 1 + (_ + (encoded text).length) = _ at lengths
                omega
          · refine iff_of_false ?_ fun quotable => ?_
            · rw [Text.escape_hidden shown isZero,
                bodyBytes?_codePointEscape]
              intro decodes
              cases decodes
            · rcases quotable.shown c List.mem_cons_self with
                shown' | isZero'
              · cases shown.symm.trans shown'
              · exact isZero isZero'

theorem fromUTF8?_eq_some_iff {bytes : List UInt8} {text : String} :
    String.fromUTF8? ⟨bytes.toArray⟩ = some text ↔
      bytes = encoded text.toList := by
  constructor
  · intro valid
    have same : text.toByteArray = ⟨bytes.toArray⟩ := by
      rw [String.fromUTF8?] at valid
      split at valid
      case isTrue =>
        cases valid
        rfl
      case isFalse => cases valid
    have written := String.toByteArray_ofList (l := text.toList)
    rw [String.ofList_toList, same, List.utf8Encode] at written
    have lists := congrArg (fun array => array.data.toList) written
    simpa using lists
  · rintro rfl
    rw [fromUTF8?_encode, String.ofList_toList]

/-- A quoted text stands for the text exactly if the text is quotable. -/
theorem unquote?_quoted_iff (text : String) :
    unquote? (Text.quoted text) = some text ↔ Quotable text.toList := by
  rw [← bodyBytes?_eq_encoded_iff, Text.quoted, unquote?_between]
  constructor
  · intro reads
    rcases Option.bind_eq_some_iff.mp reads with ⟨bytes, decodes, valid⟩
    rw [decodes, fromUTF8?_eq_some_iff.mp valid]
  · intro decodes
    rw [decodes, Option.bind_some]
    exact fromUTF8?_eq_some_iff.mpr rfl

end Literal

end GoUnion
