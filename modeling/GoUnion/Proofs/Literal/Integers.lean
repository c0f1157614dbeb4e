import GoUnion.Proofs.Literal
import GoUnion.Proofs.Literal.Digits

/-!
# Integer literals

An integer literal is a decimal number that does not open with a zero, or digits
of another base behind a zero, most often with a mark for the base between them.
Each is read as the number that it writes, if this is a word, and has no value
otherwise: the opening of a literal shows its base, and none is taken for a
floating-point literal that is a whole number.
-/

namespace GoUnion.Literal

/-- The marks of the bases other than ten. -/
def marks : List (Char × Nat) :=
  [('b', 2), ('B', 2), ('o', 8), ('O', 8), ('x', 16), ('X', 16)]

/-- A text is an integer literal with a value.  Underscores may stand anywhere behind the first
digit. -/
inductive IsInteger : List Char → Nat → Prop where
  | zero : IsInteger ['0'] 0
  | decimal {first : Char} {text : List Char} {value : Nat}
      {values : List Nat}
      (isDigit : IsDigit 10 first value) (positive : value ≠ 0)
      (digits : Grouped 10 text values) :
      IsInteger (first :: text) (numberOf 10 (value :: values))
  | octal {text : List Char} {values : List Nat}
      (digits : Grouped 8 text values) (nonempty : values ≠ []) :
      IsInteger ('0' :: text) (numberOf 8 values)
  | marked {mark : Char} {base : Nat} {text : List Char}
      {values : List Nat}
      (isMark : (mark, base) ∈ marks) (digits : Grouped base text values)
      (nonempty : values ≠ []) :
      IsInteger ('0' :: mark :: text) (numberOf base values)

variable {base value : Nat} {c : Char} {text : List Char}

/-- Bases up to ten have no letters. -/
theorem IsDigit.mem_decimals
    (isDigit : IsDigit base c value) (small : base ≤ 10) :
    c ∈ decimals := by
  have each : ∀ value < 10, (spellings value).Forall (· ∈ decimals) := by
    decide
  exact isDigit.of_spellings
    (each value (Nat.lt_of_lt_of_le isDigit.small small))

theorem Digits.mem_decimals
    {values : List Nat} (digits : Digits base text values)
    (small : base ≤ 10) : ∀ c ∈ text, c ∈ decimals := by
  intro c isIn
  rcases digits.exists_of_mem isIn with ⟨value, isDigit⟩
  exact isDigit.mem_decimals small

/-- What a decimal digit is not. -/
theorem ne_of_mem_decimals :
    ∀ c ∈ decimals, c ≠ '_' ∧ c ≠ '.' ∧ c ≠ 'e' ∧ c ≠ 'E' ∧ c ≠ 'i' ∧
      ∀ entry ∈ marks, c ≠ entry.1 :=
  List.forall_iff_forall_mem.mp (by decide)

/-! ## The base of a literal -/

/-- A zero without a mark behind it opens a number of base eight. -/
theorem baseOf_of_unmarked
    (noMark : ∀ entry ∈ marks, c ≠ entry.1) (rest : List Char) :
    baseOf ('0' :: c :: rest) = (8, c :: rest) := by
  have others :
      c ≠ 'b' ∧ c ≠ 'B' ∧ c ≠ 'o' ∧ c ≠ 'O' ∧ c ≠ 'x' ∧ c ≠ 'X' := by
    simpa [marks] using noMark
  simp [baseOf, others]

theorem baseOf_of_mark
    {mark : Char} (isMark : (mark, base) ∈ marks) (rest : List Char) :
    baseOf ('0' :: mark :: rest) = (base, rest) := by
  have each :
      ∀ entry ∈ marks, baseOf ('0' :: entry.1 :: rest) = (entry.2, rest) := by
    simp [marks, baseOf]
  exact each _ isMark

theorem filter_marked
    {mark : Char} (isMark : (mark, base) ∈ marks) (rest : List Char) :
    ('0' :: mark :: rest).filter (· ≠ '_') =
      '0' :: mark :: rest.filter (· ≠ '_') := by
  have each : ∀ entry ∈ marks, entry.1 ≠ '_' := by decide
  simp [each _ isMark]

/-- Without its underscores, a literal opens with what shows its base, and digits of that base
follow. -/
theorem IsInteger.exists_digits (isInteger : IsInteger text value) :
    ∃ base digits values, base ≤ 16 ∧
      baseOf (text.filter (· ≠ '_')) = (base, digits) ∧
        Digits base digits values ∧ values ≠ [] ∧
          numberOf base values = value := by
  cases isInteger with
  | zero =>
      exact ⟨10, ['0'], [0], by decide, by decide, by decide, by decide,
        by decide⟩
  | @decimal first text value values isDigit positive digits =>
      have isDecimal := isDigit.mem_decimals (Nat.le_refl 10)
      have noGap := (ne_of_mem_decimals first isDecimal).1
      have noZero : first ≠ '0' := by
        rintro rfl
        exact positive (isDigit_zero_iff.mp isDigit)
      refine ⟨10, first :: text.filter (· ≠ '_'), value :: values,
        by decide, ?_, .cons isDigit digits, by simp, rfl⟩
      rw [List.filter_cons_of_pos (by simpa using noGap)]
      exact baseOf_of_noZero (by simpa using noZero)
  | @octal text values digits nonempty =>
      refine ⟨8, text.filter (· ≠ '_'), values, by decide, ?_, digits,
        nonempty, rfl⟩
      rw [List.filter_cons_of_pos (by decide)]
      have areDecimal := digits.mem_decimals (by decide)
      have isText := digits.values_ne_nil.mp nonempty
      cases shape : text.filter (· ≠ '_') with
      | nil => exact absurd shape isText
      | cons c rest =>
          rw [shape] at areDecimal
          have isDecimal := areDecimal c List.mem_cons_self
          exact baseOf_of_unmarked
            (ne_of_mem_decimals c isDecimal).2.2.2.2.2 rest
  | @marked mark base text values isMark digits nonempty =>
      have bases : ∀ entry ∈ marks, entry.2 ≤ 16 := by decide
      refine ⟨base, text.filter (· ≠ '_'), values, bases _ isMark, ?_,
        digits, nonempty, rfl⟩
      rw [filter_marked isMark]
      exact baseOf_of_mark isMark _

theorem ungrouped_ofList (text : List Char) :
    ungrouped (String.ofList text) = text.filter (· ≠ '_') := by
  rw [ungrouped, String.toList_ofList]

theorem integer?_of_isInteger (isInteger : IsInteger text value) :
    integer? (String.ofList text) = word? value := by
  rcases isInteger.exists_digits with
    ⟨base, digits, values, small, isBase, areDigits, nonempty, rfl⟩
  rw [integer?, ungrouped_ofList, isBase]
  dsimp only
  rw [areDigits.unsigned?_eq small nonempty, Option.bind_some]

/-! ## Literals of other kinds -/

/-- A character that is neither a point nor the mark of an exponent. -/
def IsUnmarked (c : Char) : Prop :=
  c ≠ '.' ∧ c ≠ 'e' ∧ c ≠ 'E'

/-- Without a point and without an exponent there is no floating-point literal. -/
theorem wholeFloat?_of_unmarked
    (unmarked : ∀ c ∈ text.filter (· ≠ '_'), IsUnmarked c) :
    wholeFloat? (String.ofList text) = none := by
  have isFloat :
      ((text.filter (· ≠ '_')).any
        fun c => c = '.' || c = 'e' || c = 'E') = false := by
    rw [List.any_eq_false]
    intro c isIn
    simpa [IsUnmarked, and_assoc] using unmarked c isIn
  rw [wholeFloat?, ungrouped_ofList]
  dsimp only
  rw [isFloat]
  rfl

/-- The digits of a hexadecimal literal do not make it a floating-point literal. -/
theorem wholeFloat?_of_hexadecimal
    {mark : Char} (isMark : mark = 'x' ∨ mark = 'X') (rest : List Char) :
    wholeFloat? (String.ofList ('0' :: mark :: rest)) = none := by
  rw [wholeFloat?, ungrouped_ofList]
  rcases isMark with rfl | rfl
  · simp [List.isPrefixOf]
  · simp [List.isPrefixOf]

theorem isUnmarked_of_decimal (isDecimal : c ∈ decimals) :
    IsUnmarked c :=
  have others := ne_of_mem_decimals c isDecimal
  ⟨others.2.1, others.2.2.1, others.2.2.2.1⟩

theorem wholeFloat?_of_isInteger (isInteger : IsInteger text value) :
    wholeFloat? (String.ofList text) = none := by
  have zero : IsUnmarked '0' := isUnmarked_of_decimal (by decide)
  have digitsUnmarked {base : Nat} {text : List Char} {values : List Nat}
      (digits : Grouped base text values) (small : base ≤ 10) :
      ∀ c ∈ text.filter (· ≠ '_'), IsUnmarked c :=
    fun c isIn => isUnmarked_of_decimal (digits.mem_decimals small c isIn)
  cases isInteger with
  | zero => exact wholeFloat?_of_unmarked (by simpa using zero)
  | @decimal first text value values isDigit positive digits =>
      have isDecimal := isDigit.mem_decimals (Nat.le_refl 10)
      have noGap := (ne_of_mem_decimals first isDecimal).1
      apply wholeFloat?_of_unmarked
      rw [List.filter_cons_of_pos (by simpa using noGap),
        List.forall_mem_cons]
      exact ⟨isUnmarked_of_decimal isDecimal,
        digitsUnmarked digits (Nat.le_refl 10)⟩
  | octal digits nonempty =>
      apply wholeFloat?_of_unmarked
      rw [List.filter_cons_of_pos (by decide), List.forall_mem_cons]
      exact ⟨zero, digitsUnmarked digits (by decide)⟩
  | @marked mark base text values isMark digits nonempty =>
      by_cases isHex : mark = 'x' ∨ mark = 'X'
      · exact wholeFloat?_of_hexadecimal isHex text
      · have others :
            ∀ entry ∈ marks, ¬(entry.1 = 'x' ∨ entry.1 = 'X') →
              entry.2 ≤ 10 ∧ entry.1 ≠ '.' ∧ entry.1 ≠ 'e' ∧
                entry.1 ≠ 'E' := by
          decide
        rcases others _ isMark isHex with ⟨small, unmarked⟩
        apply wholeFloat?_of_unmarked
        rw [filter_marked isMark, List.forall_mem_cons,
          List.forall_mem_cons]
        exact ⟨zero, unmarked, digitsUnmarked digits small⟩

/-! ## Values -/

theorem map_toNat_word? (value : Nat) :
    (word? value).map (·.toNat) =
      if value < 2 ^ 64 then some value else none := by
  have size : UInt64.size = 2 ^ 64 := rfl
  rw [word?, size]
  split
  case isTrue small =>
    rw [Option.map_some, UInt64.toNat_ofNat_of_lt' small]
  case isFalse => rfl

/-- An integer literal is read as its value if that is a word and as nothing otherwise, also where
a whole number is asked for; and so is the length of an array as the formatter writes it. -/
theorem integer?_exact :
    (∀ text value, IsInteger text value →
      (integer? (String.ofList text)).map (·.toNat) =
          (if value < 2 ^ 64 then some value else none) ∧
        (constant? (String.ofList text)).map (·.toNat) =
          if value < 2 ^ 64 then some value else none) ∧
      ∀ (qualify : Qualifier) (length : UInt64) (element : GoType),
        (GoType.array length element).spell qualify =
            "[" ++ toString length.toNat ++ "]" ++ element.spell qualify ∧
          integer? (toString length.toNat) = some length ∧
            constant? (toString length.toNat) = some length := by
  constructor
  · intro text value isInteger
    have reads := integer?_of_isInteger isInteger
    have noFloat := wholeFloat?_of_isInteger isInteger
    rw [constant?, reads, noFloat, Option.or_none]
    exact ⟨map_toNat_word? value, map_toNat_word? value⟩
  · intro qualify length element
    refine ⟨?_, integer?_toString length, constant?_toString length⟩
    rw [GoType.spell]

/-- The largest word, and a number beyond it with an `e` as its last digit. -/
theorem integer?_exact_hexadecimal :
    (IsInteger "0X_ffff_ffFF_fffF_ffff".toList (2 ^ 64 - 1) ∧
      (constant? "0X_ffff_ffFF_fffF_ffff").map (·.toNat) =
        some (2 ^ 64 - 1)) ∧
      IsInteger "0x1_0000_0000_0000_000e".toList (2 ^ 64 + 14) ∧
        (constant? "0x1_0000_0000_0000_000e").map (·.toNat) = none := by
  have isLargest :
      IsInteger "0X_ffff_ffFF_fffF_ffff".toList (2 ^ 64 - 1) := by
    have value : numberOf 16 (List.replicate 16 15) = 2 ^ 64 - 1 := by
      decide
    have isMark : ('X', 16) ∈ marks := by decide
    rw [← value]
    exact .marked isMark (by decide) (by decide)
  have isBeyond :
      IsInteger "0x1_0000_0000_0000_000e".toList (2 ^ 64 + 14) := by
    have value :
        numberOf 16 (1 :: List.replicate 15 0 ++ [14]) = 2 ^ 64 + 14 := by
      decide
    have isMark : ('x', 16) ∈ marks := by decide
    rw [← value]
    exact .marked isMark (by decide) (by decide)
  refine ⟨⟨isLargest, ?_⟩, isBeyond, ?_⟩
  · rw [← String.ofList_toList (s := "0X_ffff_ffFF_fffF_ffff"),
      (integer?_exact.1 _ _ isLargest).2]
    rfl
  · rw [← String.ofList_toList (s := "0x1_0000_0000_0000_000e"),
      (integer?_exact.1 _ _ isBeyond).2]
    rfl

end GoUnion.Literal
