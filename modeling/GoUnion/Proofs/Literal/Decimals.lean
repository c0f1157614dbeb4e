import GoUnion.Proofs.Literal.Integers
import Mathlib.Algebra.Order.Field.Power
import Mathlib.Algebra.Order.Ring.Rat
import Mathlib.Data.List.TakeWhile
import Mathlib.Tactic.FieldSimp
import Mathlib.Tactic.Positivity

/-!
# Decimal floating-point literals

A decimal literal has an exact value, which is a rational number: its digits
with the point where it stands, times a power of ten.  The reader does not
compute with fractions.  It takes all digits for one number, so that the digits
behind the point count against the exponent, and then either drops zeros at the
end, as long as the exponent is negative, or multiplies by a power of ten.

This finds the value exactly if it is a whole number that is a word, with two
provisos.  Exponents are words of 32 bits, which matters for literals of some
two thousand million characters and for zeros; and where the digits are zeros
only, there have to be enough of them to drop.
-/

namespace GoUnion.Literal

/-- What a decimal floating-point literal says: the digits in front of its point, those behind it,
and the power of ten by which it is scaled. -/
structure Decimal where
  whole : List Nat
  fraction : List Nat
  exponent : Int
  deriving DecidableEq, Repr

/-- The exact value of a literal. -/
def Decimal.value (decimal : Decimal) : ℚ :=
  (numberOf 10 decimal.whole +
      numberOf 10 decimal.fraction / 10 ^ decimal.fraction.length) *
    10 ^ decimal.exponent

/-- A text is the mantissa of a literal: digits, perhaps with a point in front of, among or behind
them. -/
inductive IsMantissa : List Char → List Nat → List Nat → Prop where
  | whole {text : List Char} {values : List Nat}
      (digits : Grouped 10 text values) :
      IsMantissa text values []
  | pointed {front back : List Char} {whole fraction : List Nat}
      (digits : Grouped 10 front whole)
      (digits' : Grouped 10 back fraction) :
      IsMantissa (front ++ '.' :: back) whole fraction

/-- A text is the exponent of a literal, or there is none. -/
inductive IsExponent : List Char → Int → Prop where
  | absent : IsExponent [] 0
  | positive {mark : Char} {sign text : List Char} {values : List Nat}
      (isMark : mark = 'e' ∨ mark = 'E')
      (isSign : sign = [] ∨ sign = ['+'])
      (digits : Grouped 10 text values) (nonempty : values ≠ []) :
      IsExponent (mark :: (sign ++ text)) (numberOf 10 values)
  | negative {mark : Char} {text : List Char} {values : List Nat}
      (isMark : mark = 'e' ∨ mark = 'E')
      (digits : Grouped 10 text values) (nonempty : values ≠ []) :
      IsExponent (mark :: '-' :: text) (-numberOf 10 values)

/-- A text is a decimal floating-point literal: it has a mantissa with at least one digit, and a
point or an exponent. -/
inductive IsDecimal : List Char → Decimal → Prop where
  | scaled {mantissa scale : List Char} {decimal : Decimal}
      (isMantissa : IsMantissa mantissa decimal.whole decimal.fraction)
      (isExponent : IsExponent scale decimal.exponent)
      (hasDigit : decimal.whole ++ decimal.fraction ≠ [])
      (isFloat : '.' ∈ mantissa ∨ scale ≠ []) :
      IsDecimal (mantissa ++ scale) decimal

variable {text : List Char} {values : List Nat} {decimal : Decimal}

/-! ## Moving the point -/

/-- Zeros at the end of the digits are taken away as long as the exponent is negative. -/
theorem absorbZeros_eq (reversed : List Char) (exponent : Int) :
    ∃ count rest, reversed = List.replicate count '0' ++ rest ∧
      absorbZeros reversed exponent = (rest, exponent + count) ∧
        (exponent + count < 0 → rest.head? ≠ some '0') := by
  fun_induction absorbZeros reversed exponent with
  | case1 digits exponent isNegative ih =>
      rcases ih with ⟨count, rest, rfl, absorbed, stops⟩
      have next : exponent + 1 + count = exponent + (count + 1 : Nat) := by
        push_cast
        ring
      rw [next] at absorbed stops
      exact ⟨count + 1, rest, rfl, absorbed, stops⟩
  | case2 digits exponent notNegative =>
      refine ⟨0, '0' :: digits, rfl, by simp, fun isNegative => ?_⟩
      exact absurd isNegative (by simpa using notNegative)
  | case3 digits exponent noZero =>
      refine ⟨0, digits, rfl, by simp, fun _ isZero => ?_⟩
      cases digits with
      | nil => cases isZero
      | cons c digits =>
          cases isZero
          exact noZero digits rfl

theorem numberOf_replicate_zero (base count : Nat) :
    numberOf base (List.replicate count 0) = 0 := by
  induction count with
  | zero => rfl
  | succ count ih => rw [List.replicate_succ, numberOf_cons, ih, Nat.zero_mul]

/-- Only zeros are written by zeros. -/
theorem Digits.values_of_zeros
    {count : Nat} (digits : Digits 10 (List.replicate count '0') values) :
    values = List.replicate count 0 := by
  induction count generalizing values with
  | zero =>
      cases digits
      rfl
  | succ count ih =>
      rw [List.replicate_succ] at digits
      cases digits with
      | cons isDigit digits =>
          rw [isDigit_zero_iff.mp isDigit, ih digits, List.replicate_succ]

/-- Digits of a text that is cut. -/
theorem Digits.split
    {base : Nat} {front back : List Char}
    (digits : Digits base (front ++ back) values) :
    ∃ first second, values = first ++ second ∧
      Digits base front first ∧ Digits base back second := by
  refine ⟨values.take front.length, values.drop front.length,
    (List.take_append_drop _ _).symm, ?_, ?_⟩
  · simpa using List.forall₂_take front.length digits
  · simpa using List.forall₂_drop front.length digits

/-- A number whose last digit is not a zero is not a multiple of ten. -/
theorem Digits.not_dvd
    {rest : List Char} {c : Char}
    (digits : Digits 10 (rest ++ [c]) values) (noZero : c ≠ '0') :
    ¬10 ∣ numberOf 10 values := by
  rcases digits.split with ⟨front, back, rfl, -, last⟩
  rcases last with _ | ⟨isDigit, ⟨⟩⟩
  rename_i value
  have positive := isDigit.value_ne_zero noZero
  have small := isDigit.small
  rw [numberOf_append, numberOf_singleton, List.length_singleton, pow_one]
  omega

/-- Leading zeros play no part. -/
theorem Digits.dropZeros
    (digits : Digits 10 text values) :
    ∃ rest, Digits 10 (text.dropWhile (· = '0')) rest ∧
      numberOf 10 rest = numberOf 10 values ∧
        (rest ≠ [] → numberOf 10 values ≠ 0) := by
  induction digits with
  | nil => exact ⟨[], .nil, rfl, fun isRest => absurd rfl isRest⟩
  | @cons c value text values isDigit digits ih =>
      by_cases isZero : c = '0'
      · subst isZero
        rw [isDigit_zero_iff.mp isDigit, numberOf_cons, Nat.zero_mul,
          Nat.zero_add]
        exact ih
      · rw [List.dropWhile_cons_of_neg (by simpa using isZero)]
        refine ⟨value :: values, .cons isDigit digits, rfl, fun _ => ?_⟩
        rw [numberOf_cons]
        have positive := isDigit.value_ne_zero isZero
        positivity

/-! ## Digits with zeros behind them -/

theorem map_toNat_word?_eq_some {value number : Nat} :
    (word? value).map (·.toNat) = some number ↔
      value = number ∧ number < 2 ^ 64 := by
  rw [map_toNat_word?]
  split
  case isTrue small =>
    rw [Option.some_inj]
    constructor
    · rintro rfl
      exact ⟨rfl, small⟩
    · exact And.left
  case isFalse large =>
    constructor
    · intro isSome
      cases isSome
    · rintro ⟨rfl, small⟩
      exact absurd small large

/-- No word holds a number times more than nineteen tens. -/
theorem map_toNat_scaled?
    {value : Nat} (positive : value ≠ 0) {zeros number : Nat} :
    (scaled? value zeros).map (·.toNat) = some number ↔
      value * 10 ^ zeros = number ∧ number < 2 ^ 64 := by
  rw [scaled?]
  split
  case isTrue small => exact map_toNat_word?_eq_some
  case isFalse large =>
    constructor
    · intro isSome
      cases isSome
    · rintro ⟨rfl, small⟩
      have power : 10 ^ 20 ≤ 10 ^ zeros :=
        Nat.pow_le_pow_right (by decide) (Nat.le_of_not_lt large)
      have product : 10 ^ zeros ≤ value * 10 ^ zeros :=
        Nat.le_mul_of_pos_left _ (Nat.pos_of_ne_zero positive)
      omega

theorem extended?_iff
    (digits : Digits 10 text values) (zeros number : Nat) :
    (extended? text zeros).map (·.toNat) = some number ↔
      numberOf 10 values * 10 ^ zeros = number ∧ number < 2 ^ 64 := by
  rcases digits.dropZeros with ⟨rest, digits', same, positive⟩
  rw [extended?, ← same]
  by_cases isEmpty : rest = []
  · subst isEmpty
    rw [List.forall₂_nil_right_iff.mp digits', List.isEmpty_nil, if_pos rfl,
      numberOf_nil, Nat.zero_mul, Option.map_some, Option.some_inj]
    constructor
    · rintro rfl
      exact ⟨rfl, by decide⟩
    · exact And.left
  · have hasDigit := digits'.values_ne_nil.mp isEmpty
    have nonzero := positive isEmpty
    rw [← same] at nonzero
    rw [if_neg (by simpa using hasDigit),
      digits'.unsigned?_eq (by decide) isEmpty]
    generalize numberOf 10 rest = value at nonzero
    simp only [Option.bind_eq_bind, Option.bind_some]
    have isValue := map_toNat_word? value
    cases found : word? value with
    | none =>
        rw [found] at isValue
        have large : ¬value < 2 ^ 64 := by
          intro small
          rw [if_pos small] at isValue
          cases isValue
        refine iff_of_false (by simp) ?_
        rintro ⟨rfl, small⟩
        have product : value ≤ value * 10 ^ zeros :=
          Nat.le_mul_of_pos_right _ (by positivity)
        omega
    | some word =>
        have isWord : word.toNat = value :=
          (map_toNat_word?_eq_some.mp (by rw [found]; rfl)).1.symm
        rw [Option.bind_some, isWord]
        exact map_toNat_scaled? nonzero

/-! ## Digits and a power of ten -/

theorem numberOf_zeros (base : Nat) (values : List Nat) (count : Nat) :
    numberOf base (values ++ List.replicate count 0) =
      numberOf base values * base ^ count := by
  rw [numberOf_append, numberOf_replicate_zero, List.length_replicate,
    Nat.add_zero]

/-- A number that is not a multiple of ten is no whole number after the point has been moved to
the left. -/
theorem not_whole_of_not_dvd
    {value : Nat} (notDvd : ¬10 ∣ value) {exponent : Int}
    (isNegative : exponent < 0) (number : Nat) :
    (value : ℚ) * 10 ^ exponent ≠ number := by
  intro isWhole
  obtain ⟨count, rfl⟩ : ∃ count : Nat, exponent = -(count + 1 : Nat) :=
    ⟨(-exponent - 1).toNat, by omega⟩
  rw [zpow_neg, zpow_natCast, ← div_eq_mul_inv,
    div_eq_iff (by positivity)] at isWhole
  have multiple : value = number * 10 ^ (count + 1) := by
    exact_mod_cast isWhole
  apply notDvd
  rw [multiple, pow_succ]
  exact ⟨number * 10 ^ count, by ring⟩

/-- The reader finds the value of a whole number, but misses a zero whose digits do not suffice for
moving the point. -/
theorem scaledDigits?_iff
    (digits : Digits 10 text values) (exponent : Int) (number : Nat) :
    (scaledDigits? text exponent).map (·.toNat) = some number ↔
      (numberOf 10 values : ℚ) * 10 ^ exponent = number ∧
        number < 2 ^ 64 ∧
          (numberOf 10 values = 0 → 0 ≤ exponent + text.length) := by
  rcases absorbZeros_eq text.reverse exponent with
    ⟨count, rest, shape, absorbed, stops⟩
  have isText : text = rest.reverse ++ List.replicate count '0' := by
    rw [← List.reverse_reverse text, shape, List.reverse_append,
      List.reverse_replicate]
  rw [scaledDigits?, absorbed]
  dsimp only
  rw [isText] at digits
  rcases digits.split with ⟨front, back, rfl, digits, zeros⟩
  rw [zeros.values_of_zeros, numberOf_zeros, isText, List.length_append,
    List.length_replicate]
  have moved :
      ((numberOf 10 front * 10 ^ count : Nat) : ℚ) * 10 ^ exponent =
        numberOf 10 front * 10 ^ (exponent + count) := by
    rw [zpow_add₀ (by norm_num), zpow_natCast]
    push_cast
    ring
  rw [moved]
  by_cases isNegative : exponent + count < 0
  · rw [if_pos isNegative]
    refine iff_of_false (by simp) ?_
    rintro ⟨isWhole, -, enough⟩
    cases rest with
    | nil =>
        cases digits
        have bound := enough (by simp)
        simp at bound
        omega
    | cons c rest =>
        have noZero : c ≠ '0' := by simpa using stops isNegative
        rw [List.reverse_cons] at digits
        exact not_whole_of_not_dvd (digits.not_dvd noZero) isNegative
          number isWhole
  · rw [if_neg isNegative, extended?_iff digits]
    have isPower :
        (10 : ℚ) ^ (exponent + count) =
          10 ^ (exponent + count).toNat := by
      rw [← zpow_natCast, Int.toNat_of_nonneg (by omega)]
    rw [isPower]
    constructor
    · rintro ⟨isNumber, small⟩
      exact ⟨by exact_mod_cast isNumber, small, fun _ => by push_cast; omega⟩
    · rintro ⟨isNumber, small, -⟩
      exact ⟨by exact_mod_cast isNumber, small⟩

/-! ## Mantissas and exponents -/

/-- A number that fits a signed word of 32 bits. -/
def Fits (number : Int) : Prop :=
  -2 ^ 31 ≤ number ∧ number < 2 ^ 31

instance (number : Int) : Decidable (Fits number) :=
  inferInstanceAs (Decidable (_ ∧ _))

theorem narrow?_eq_some {number narrowed : Int} :
    narrow? number = some narrowed ↔ narrowed = number ∧ Fits number := by
  rw [narrow?, Fits]
  split
  case isTrue fits => simp [eq_comm, fits]
  case isFalse fails => simp_all

theorem narrow?_eq_none {number : Int} (fails : ¬Fits number) :
    narrow? number = none :=
  if_neg fails

/-- What the reader can represent on its way to the value: the exponent, the number of digits
behind the point and their difference are words of 32 bits, and a zero has at least as many digits
in front of its point as its exponent takes away. -/
structure Decimal.InReach (decimal : Decimal) : Prop where
  exponent : Fits decimal.exponent
  places : Fits decimal.fraction.length
  shifted : Fits (decimal.exponent - decimal.fraction.length)
  zero : decimal.value = 0 → 0 ≤ decimal.exponent + decimal.whole.length

/-- The digits in front of the point and behind it are those of one number. -/
theorem Decimal.value_eq (decimal : Decimal) :
    decimal.value =
      numberOf 10 (decimal.whole ++ decimal.fraction) *
        10 ^ (decimal.exponent - decimal.fraction.length) := by
  rw [value, numberOf_append, zpow_sub₀ (by norm_num), zpow_natCast]
  push_cast
  field_simp

theorem Decimal.value_eq_zero {decimal : Decimal} :
    decimal.value = 0 ↔
      numberOf 10 (decimal.whole ++ decimal.fraction) = 0 := by
  have positive :
      (10 : ℚ) ^ (decimal.exponent - decimal.fraction.length) ≠ 0 := by
    positivity
  rw [value_eq, mul_eq_zero, or_iff_left positive, Nat.cast_eq_zero]

/-- The point of a mantissa stands between its digits. -/
theorem IsMantissa.exists_digits
    {mantissa : List Char} {whole fraction : List Nat}
    (isMantissa : IsMantissa mantissa whole fraction) :
    ∃ front back, Digits 10 front whole ∧ Digits 10 back fraction ∧
      (mantissa.filter (· ≠ '_')).takeWhile (· ≠ '.') = front ∧
        ((mantissa.filter (· ≠ '_')).dropWhile (· ≠ '.')).drop 1 =
          back := by
  have noPoint {text : List Char} {values : List Nat}
      (digits : Digits 10 text values) :
      ∀ c ∈ text, decide (c ≠ '.') = true := by
    intro c isIn
    have isDecimal := digits.mem_decimals (Nat.le_refl 10) c isIn
    exact decide_eq_true (isUnmarked_of_decimal isDecimal).1
  cases isMantissa with
  | whole digits =>
      refine ⟨_, [], digits, .nil,
        List.takeWhile_eq_self_iff.mpr (noPoint digits), ?_⟩
      rw [List.dropWhile_eq_nil_iff.mpr (noPoint digits)]
      rfl
  | pointed digits digits' =>
      refine ⟨_, _, digits, digits', ?_, ?_⟩
      · rw [List.filter_append, List.filter_cons_of_pos (by decide),
          List.takeWhile_append_of_pos (noPoint digits),
          List.takeWhile_cons_of_neg (by decide), List.append_nil]
      · rw [List.filter_append, List.filter_cons_of_pos (by decide),
          List.dropWhile_append_of_pos (noPoint digits),
          List.dropWhile_cons_of_neg (by decide)]
        rfl

theorem wholeNumber?_iff
    {mantissa : List Char} {whole fraction : List Nat}
    (isMantissa : IsMantissa mantissa whole fraction)
    (exponent : Int) (number : Nat) :
    (wholeNumber? (mantissa.filter (· ≠ '_')) exponent).map (·.toNat) =
        some number ↔
      ((numberOf 10 (whole ++ fraction) : ℚ) *
            10 ^ (exponent - fraction.length) = number ∧
          number < 2 ^ 64) ∧
        Fits fraction.length ∧ Fits (exponent - fraction.length) ∧
          (numberOf 10 (whole ++ fraction) = 0 →
            0 ≤ exponent + whole.length) := by
  rcases isMantissa.exists_digits with
    ⟨front, back, digits, digits', isFront, isBack⟩
  have together : Digits 10 (front ++ back) (whole ++ fraction) :=
    List.rel_append digits digits'
  have places := digits'.length_eq
  have before := digits.length_eq
  have moved :
      exponent - fraction.length + (whole.length + fraction.length : Nat) =
        exponent + whole.length := by
    push_cast
    ring
  rw [wholeNumber?, isFront, isBack, places]
  simp only [Option.bind_eq_bind]
  by_cases fits : Fits fraction.length
  · rw [narrow?_eq_some.mpr ⟨rfl, fits⟩, Option.bind_some]
    by_cases fits' : Fits (exponent - fraction.length)
    · rw [narrow?_eq_some.mpr ⟨rfl, fits'⟩, Option.bind_some,
        scaledDigits?_iff together, List.length_append, places, before,
        moved]
      simp [fits, fits', and_assoc]
    · rw [narrow?_eq_none fits']
      simp [fits']
  · rw [narrow?_eq_none fits]
    simp [fits]

/-! ## Signs -/

/-- Digits are read alike without a sign and with a plus sign, and as a negative number with a minus
sign. -/
theorem Digits.signed?_eq
    (digits : Digits 10 text values) (nonempty : values ≠ []) :
    signed? text = some (numberOf 10 values : Int) ∧
      signed? ('+' :: text) = some (numberOf 10 values : Int) ∧
        signed? ('-' :: text) = some (-(numberOf 10 values : Int)) := by
  have hasDigit := digits.values_ne_nil.mp nonempty
  have number : digitsValue? 10 text = some (numberOf 10 values) :=
    (digitsValue?_eq_some_iff (by decide)).mpr ⟨values, digits, rfl⟩
  have noMinus : text.head? ≠ some '-' := by
    intro isMinus
    have isDecimal := digits.mem_decimals (Nat.le_refl 10) '-'
      (List.mem_of_head? isMinus)
    revert isDecimal
    decide
  refine ⟨?_, ?_, ?_⟩
  · rw [signed?, if_neg noMinus, digits.unsigned?_eq (by decide) nonempty]
    rfl
  · simp [signed?, unsigned?, hasDigit, number]
  · simp [signed?, hasDigit, number]

/-- A mantissa goes up to the mark of an exponent. -/
theorem exponentForm?_marked
    {mantissa : List Char} {mark : Char}
    (unmarked : ∀ c ∈ mantissa, (!(c = 'e' || c = 'E')) = true)
    (isMark : mark = 'e' ∨ mark = 'E') (digits : List Char) :
    exponentForm? (mantissa ++ mark :: digits) =
      ((signed? digits).bind narrow?).map (mantissa, ·) := by
  rw [exponentForm?]
  dsimp only
  rw [List.takeWhile_append_of_pos unmarked,
    List.dropWhile_append_of_pos unmarked]
  rcases isMark with rfl | rfl
  · simp
  · simp

/-- Without a mark the exponent is zero. -/
theorem exponentForm?_unmarked
    {mantissa : List Char}
    (unmarked : ∀ c ∈ mantissa, (!(c = 'e' || c = 'E')) = true) :
    exponentForm? mantissa = some (mantissa, 0) := by
  rw [exponentForm?]
  dsimp only
  rw [List.takeWhile_eq_self_iff.mpr unmarked,
    List.dropWhile_eq_nil_iff.mpr unmarked]

theorem filter_exponent
    {mark : Char} (isMark : mark = 'e' ∨ mark = 'E') (rest : List Char) :
    (mark :: rest).filter (· ≠ '_') = mark :: rest.filter (· ≠ '_') := by
  rcases isMark with rfl | rfl
  · rfl
  · rfl

theorem IsExponent.exponentForm?_eq
    {mantissa scale : List Char} {exponent : Int}
    (isExponent : IsExponent scale exponent)
    (unmarked : ∀ c ∈ mantissa, (!(c = 'e' || c = 'E')) = true) :
    exponentForm? (mantissa ++ scale.filter (· ≠ '_')) =
      (narrow? exponent).map (mantissa, ·) := by
  cases isExponent with
  | absent =>
      rw [List.filter_nil, List.append_nil,
        exponentForm?_unmarked unmarked]
      rfl
  | positive isMark isSign digits nonempty =>
      rcases digits.signed?_eq nonempty with ⟨plain, signed, -⟩
      rw [filter_exponent isMark, exponentForm?_marked unmarked isMark]
      rcases isSign with rfl | rfl
      · rw [List.nil_append, plain, Option.bind_some]
      · rw [List.singleton_append, List.filter_cons_of_pos (by decide),
          signed, Option.bind_some]
  | negative isMark digits nonempty =>
      rcases digits.signed?_eq nonempty with ⟨-, -, signed⟩
      rw [filter_exponent isMark, exponentForm?_marked unmarked isMark,
        List.filter_cons_of_pos (by decide), signed, Option.bind_some]

/-! ## Literals -/

/-- The characters of a literal other than digits and underscores. -/
def decimalMarks : List Char :=
  ['.', 'e', 'E', '+', '-']

/-- No character of a literal is the mark of another base or of an imaginary number. -/
theorem ne_of_mem_literal :
    ∀ c ∈ decimalMarks ++ decimals,
      c ≠ 'i' ∧ ∀ entry ∈ marks, c ≠ entry.1 :=
  List.forall_iff_forall_mem.mp (by decide)

theorem IsMantissa.mem
    {mantissa : List Char} {whole fraction : List Nat}
    (isMantissa : IsMantissa mantissa whole fraction) :
    ∀ c ∈ mantissa.filter (· ≠ '_'), c = '.' ∨ c ∈ decimals := by
  intro c isIn
  cases isMantissa with
  | whole digits => exact .inr (digits.mem_decimals (Nat.le_refl 10) c isIn)
  | pointed digits digits' =>
      rw [List.filter_append, List.filter_cons_of_pos (by decide),
        List.mem_append, List.mem_cons] at isIn
      rcases isIn with isFront | isPoint | isBack
      · exact .inr (digits.mem_decimals (Nat.le_refl 10) c isFront)
      · exact .inl isPoint
      · exact .inr (digits'.mem_decimals (Nat.le_refl 10) c isBack)

theorem IsExponent.mem
    {scale : List Char} {exponent : Int}
    (isExponent : IsExponent scale exponent) :
    ∀ c ∈ scale.filter (· ≠ '_'), c ∈ decimalMarks ++ decimals := by
  have marks {mark : Char} (isMark : mark = 'e' ∨ mark = 'E') :
      mark ∈ decimalMarks ++ decimals := by
    rcases isMark with rfl | rfl
    · decide
    · decide
  have digit {text : List Char} {values : List Nat}
      (digits : Grouped 10 text values) {c : Char}
      (isIn : c ∈ text.filter (· ≠ '_')) :
      c ∈ decimalMarks ++ decimals :=
    List.mem_append_right _ (digits.mem_decimals (Nat.le_refl 10) c isIn)
  intro c isIn
  cases isExponent with
  | absent => cases isIn
  | positive isMark isSign digits nonempty =>
      rw [filter_exponent isMark, List.filter_append, List.mem_cons,
        List.mem_append] at isIn
      rcases isIn with rfl | inSign | inDigits
      · exact marks isMark
      · rcases isSign with rfl | rfl
        · cases inSign
        · rw [List.mem_singleton.mp inSign]
          decide
      · exact digit digits inDigits
  | negative isMark digits nonempty =>
      rw [filter_exponent isMark, List.filter_cons_of_pos (by decide),
        List.mem_cons, List.mem_cons] at isIn
      rcases isIn with rfl | rfl | inDigits
      · exact marks isMark
      · decide
      · exact digit digits inDigits

section Literal

variable {whole fraction : List Nat} {exponent : Int}
  {mantissa scale : List Char}

/-- The characters of a literal without its underscores, and one that shows what it is. -/
theorem mem_literal
    (isMantissa : IsMantissa mantissa whole fraction)
    (isExponent : IsExponent scale exponent) :
    ∀ c ∈ (mantissa ++ scale).filter (· ≠ '_'),
      c ∈ decimalMarks ++ decimals := by
  rw [List.filter_append, List.forall_mem_append]
  refine ⟨fun c isIn => ?_, isExponent.mem⟩
  rcases isMantissa.mem c isIn with rfl | isDecimal
  · decide
  · exact List.mem_append_right _ isDecimal

theorem exists_mark
    (isExponent : IsExponent scale exponent)
    (isFloat : '.' ∈ mantissa ∨ scale ≠ []) :
    ∃ c ∈ (mantissa ++ scale).filter (· ≠ '_'),
      c = '.' ∨ c = 'e' ∨ c = 'E' := by
  rw [List.filter_append]
  rcases isFloat with hasPoint | hasExponent
  · exact ⟨'.', List.mem_append_left _
      (List.mem_filter.mpr ⟨hasPoint, by decide⟩), .inl rfl⟩
  · cases isExponent with
    | absent => exact absurd rfl hasExponent
    | positive isMark isSign digits nonempty =>
        rw [filter_exponent isMark]
        exact ⟨_, List.mem_append_right _ List.mem_cons_self, .inr isMark⟩
    | negative isMark digits nonempty =>
        rw [filter_exponent isMark]
        exact ⟨_, List.mem_append_right _ List.mem_cons_self, .inr isMark⟩

/-- A floating-point literal is no integer literal. -/
theorem integer?_of_mark
    {text : List Char} {c : Char}
    (each : ∀ c ∈ text.filter (· ≠ '_'), c ∈ decimalMarks ++ decimals)
    (isIn : c ∈ text.filter (· ≠ '_'))
    (isMark : c = '.' ∨ c = 'e' ∨ c = 'E') :
    integer? (String.ofList text) = none := by
  have others : c ≠ '+' ∧ c ≠ '0' ∧ c ∉ decimals := by
    rcases isMark with rfl | rfl | rfl
    all_goals decide
  rcases others with ⟨noSign, noZero, noDecimal⟩
  have noValue {base : Nat} {digits : List Char} (small : base ≤ 10)
      (isIn : c ∈ digits) : unsigned? base digits = none :=
    unsigned?_eq_none (Nat.le_trans small (by decide)) isIn noSign
      fun value isDigit => noDecimal (isDigit.mem_decimals small)
  rw [integer?, ungrouped_ofList]
  generalize text.filter (· ≠ '_') = digits at each isIn
  by_cases isZero : digits.head? = some '0'
  · rcases List.head?_eq_some_iff.mp isZero with ⟨rest, rfl⟩
    have isLater := List.mem_of_ne_of_mem noZero isIn
    cases rest with
    | nil => cases isLater
    | cons d rest =>
        have noMark := (ne_of_mem_literal d (each d (by simp))).2
        rw [baseOf_of_unmarked noMark]
        dsimp only
        rw [noValue (by decide) isLater, Option.bind_none]
  · rw [baseOf_of_noZero isZero]
    dsimp only
    rw [noValue (Nat.le_refl 10) isIn, Option.bind_none]

/-- The reader takes a floating-point literal apart into its mantissa and its exponent. -/
theorem wholeFloat?_of_mantissa
    (isMantissa : IsMantissa mantissa whole fraction)
    (isExponent : IsExponent scale exponent)
    (isFloat : '.' ∈ mantissa ∨ scale ≠ []) :
    wholeFloat? (String.ofList (mantissa ++ scale)) =
      (narrow? exponent).bind
        (wholeNumber? (mantissa.filter (· ≠ '_'))) := by
  have each := mem_literal isMantissa isExponent
  have unmarked :
      ∀ c ∈ mantissa.filter (· ≠ '_'), (!(c = 'e' || c = 'E')) = true := by
    intro c isIn
    rcases isMantissa.mem c isIn with rfl | isDecimal
    · decide
    · simpa using (isUnmarked_of_decimal isDecimal).2
  have hasMark :
      ((mantissa ++ scale).filter (· ≠ '_')).any
        (fun c => c = '.' || c = 'e' || c = 'E') = true := by
    rcases exists_mark isExponent isFloat with ⟨c, isIn, isMark⟩
    exact List.any_eq_true.mpr ⟨c, isIn, by simpa [or_assoc] using isMark⟩
  have noImaginary :
      ((mantissa ++ scale).filter (· ≠ '_')).getLast? ≠ some 'i' := by
    intro isLast
    exact (ne_of_mem_literal _ (each _ (List.mem_of_getLast? isLast))).1 rfl
  have noHex {mark : Char} (isMark : mark = 'x' ∨ mark = 'X') :
      ['0', mark].isPrefixOf ((mantissa ++ scale).filter (· ≠ '_')) =
        false := by
    rw [Bool.eq_false_iff]
    intro isPrefix
    have isIn : mark ∈ (mantissa ++ scale).filter (· ≠ '_') :=
      (List.isPrefixOf_iff_prefix.mp isPrefix).subset (by simp)
    have noMark := (ne_of_mem_literal mark (each mark isIn)).2
    rcases isMark with rfl | rfl
    · exact noMark ('x', 16) (by decide) rfl
    · exact noMark ('X', 16) (by decide) rfl
  rw [wholeFloat?, ungrouped_ofList]
  dsimp only
  rw [hasMark, noHex (.inl rfl), noHex (.inr rfl), if_neg]
  · rw [List.filter_append, isExponent.exponentForm?_eq unmarked]
    cases narrow? exponent with
    | none => rfl
    | some narrowed => rfl
  · simp only [Bool.not_true, Bool.or_false, Bool.false_or,
      decide_eq_true_eq]
    exact noImaginary

/-- A decimal floating-point literal has a value as a constant exactly if that value is a whole
number that is a word, and the literal is in reach. -/
theorem constant?_of_isDecimal
    {text : List Char} {decimal : Decimal}
    (isDecimal : IsDecimal text decimal) (number : Nat) :
    (constant? (String.ofList text)).map (·.toNat) = some number ↔
      (decimal.value = number ∧ number < 2 ^ 64) ∧ decimal.InReach := by
  rcases isDecimal with ⟨isMantissa, isExponent, hasDigit, isFloat⟩
  rcases exists_mark isExponent isFloat with ⟨c, isIn, isMark⟩
  have noInteger :=
    integer?_of_mark (mem_literal isMantissa isExponent) isIn isMark
  rw [constant?, noInteger, Option.none_or,
    wholeFloat?_of_mantissa isMantissa isExponent isFloat]
  by_cases fits : Fits decimal.exponent
  · rw [narrow?_eq_some.mpr ⟨rfl, fits⟩, Option.bind_some,
      wholeNumber?_iff isMantissa, ← decimal.value_eq,
      ← Decimal.value_eq_zero]
    refine and_congr_right fun _ => ?_
    constructor
    · rintro ⟨places, shifted, zero⟩
      exact ⟨fits, places, shifted, zero⟩
    · intro reach
      exact ⟨reach.places, reach.shifted, reach.zero⟩
  · rw [narrow?_eq_none fits]
    refine iff_of_false (by simp) ?_
    rintro ⟨-, reach⟩
    exact fits reach.exponent

/-! ## Literals of ordinary length -/

theorem IsMantissa.small
    (isMantissa : IsMantissa mantissa whole fraction) :
    ∀ value ∈ whole ++ fraction, value < 10 := by
  rw [List.forall_mem_append]
  cases isMantissa with
  | whole digits => exact ⟨digits.small, List.forall_mem_nil _⟩
  | pointed digits digits' => exact ⟨digits.small, digits'.small⟩

theorem IsMantissa.length_le
    (isMantissa : IsMantissa mantissa whole fraction) :
    whole.length + fraction.length ≤ mantissa.length := by
  have bound {text : List Char} {values : List Nat}
      (digits : Grouped 10 text values) : values.length ≤ text.length :=
    digits.length_eq ▸ List.length_filter_le _ text
  cases isMantissa with
  | whole digits => exact bound digits
  | pointed digits digits' =>
      have before := bound digits
      have behind := bound digits'
      rw [List.length_append, List.length_cons]
      omega

/-- A literal is smaller than the power of ten that the digits in front of its point allow. -/
theorem Decimal.value_lt
    {decimal : Decimal}
    (small : ∀ value ∈ decimal.whole ++ decimal.fraction, value < 10) :
    decimal.value <
      10 ^ (decimal.exponent + decimal.whole.length) := by
  have bound :
      numberOf 10 (decimal.whole ++ decimal.fraction) <
        10 ^ (decimal.whole.length + decimal.fraction.length) := by
    rw [← List.length_append]
    exact numberOf_lt_of_small (by decide) small
  have exponent :
      decimal.exponent + decimal.whole.length =
        (decimal.whole.length + decimal.fraction.length : Nat) +
          (decimal.exponent - decimal.fraction.length) := by
    push_cast
    ring
  rw [value_eq, exponent, zpow_add₀ (by norm_num), zpow_natCast]
  exact mul_lt_mul_of_pos_right (by exact_mod_cast bound) (by positivity)

/-- A literal other than zero is at least one unit of its last place. -/
theorem Decimal.pow_le_value
    {decimal : Decimal} (nonzero : decimal.value ≠ 0) :
    (10 : ℚ) ^ (decimal.exponent - decimal.fraction.length) ≤
      decimal.value := by
  have mantissa :
      (1 : ℚ) ≤ numberOf 10 (decimal.whole ++ decimal.fraction) := by
    rw [Ne, Decimal.value_eq_zero] at nonzero
    exact_mod_cast Nat.pos_of_ne_zero nonzero
  rw [decimal.value_eq]
  exact le_mul_of_one_le_left (by positivity) mantissa

/-- A literal whose value is a word other than zero is in reach, unless it has some two thousand
million characters. -/
theorem inReach_of_length
    {text : List Char} {decimal : Decimal}
    (isDecimal : IsDecimal text decimal) {number : Nat}
    (isValue : decimal.value = number) (small : number < 2 ^ 64)
    (positive : number ≠ 0) (short : text.length < 2 ^ 31 - 20) :
    decimal.InReach := by
  rcases isDecimal with ⟨isMantissa, isExponent, hasDigit, isFloat⟩
  rw [List.length_append] at short
  have digits := isMantissa.length_le
  have lower : 0 < decimal.exponent + decimal.whole.length := by
    have below := Decimal.value_lt isMantissa.small
    have one : (10 : ℚ) ^ (0 : Int) ≤ number := by
      rw [zpow_zero]
      exact_mod_cast Nat.pos_of_ne_zero positive
    rw [isValue] at below
    exact (zpow_lt_zpow_iff_right₀ (by norm_num)).mp (one.trans_lt below)
  have upper : decimal.exponent - decimal.fraction.length < 20 := by
    have nonzero : decimal.value ≠ 0 := by
      rw [isValue]
      exact_mod_cast positive
    have atLeast := Decimal.pow_le_value nonzero
    have word : (number : ℚ) < 10 ^ (20 : Int) := by
      have below : number < 10 ^ 20 := lt_trans small (by norm_num)
      exact_mod_cast below
    rw [isValue] at atLeast
    exact (zpow_lt_zpow_iff_right₀ (by norm_num)).mp
      (atLeast.trans_lt word)
  refine ⟨⟨by omega, by omega⟩, ⟨by omega, by omega⟩,
    ⟨by omega, by omega⟩, fun _ => Int.le_of_lt lower⟩

/-- A decimal floating-point literal has a value as a constant exactly if its value is a whole
number that is a word, and the literal is in reach.  Of literals of ordinary length, only zeros are
out of reach. -/
theorem constant?_decimal
    {text : List Char} {decimal : Decimal}
    (isDecimal : IsDecimal text decimal) (number : Nat) :
    ((constant? (String.ofList text)).map (·.toNat) = some number ↔
      (decimal.value = number ∧ number < 2 ^ 64) ∧ decimal.InReach) ∧
      (decimal.value = number → number < 2 ^ 64 → number ≠ 0 →
        text.length < 2 ^ 31 - 20 → decimal.InReach) :=
  ⟨constant?_of_isDecimal isDecimal number, inReach_of_length isDecimal⟩

end Literal

/-- The point moves behind digits of the fraction, of which a zero is left. -/
theorem constant?_decimal_grouped :
    IsDecimal "1_0.50e+1".toList ⟨[1, 0], [5, 0], 1⟩ ∧
      (⟨[1, 0], [5, 0], 1⟩ : Decimal).value = 105 ∧
        (constant? "1_0.50e+1").map (·.toNat) = some 105 := by
  have isMantissa : IsMantissa "1_0.50".toList [1, 0] [5, 0] := by
    have front : Grouped 10 "1_0".toList [1, 0] := by decide
    have back : Grouped 10 "50".toList [5, 0] := by decide
    exact .pointed front back
  have isExponent : IsExponent "e+1".toList 1 := by
    have digits : Grouped 10 "1".toList [1] := by decide
    exact .positive (.inl rfl) (.inr rfl) digits (by decide)
  have hasDigit : [1, 0] ++ [5, 0] ≠ [] := by decide
  have isFloat : '.' ∈ "1_0.50".toList ∨ "e+1".toList ≠ [] := .inl (by decide)
  have parts : IsDecimal ("1_0.50".toList ++ "e+1".toList) ⟨[1, 0], [5, 0], 1⟩ :=
    .scaled isMantissa isExponent hasDigit isFloat
  have isDecimal : IsDecimal "1_0.50e+1".toList ⟨[1, 0], [5, 0], 1⟩ := parts
  have isValue : (⟨[1, 0], [5, 0], 1⟩ : Decimal).value = (105 : Nat) := by
    norm_num [Decimal.value, numberOf, Nat.ofDigits]
  have exact' := constant?_decimal isDecimal 105
  have reach := exact'.2 isValue (by decide) (by decide) (by decide)
  rw [String.ofList_toList] at exact'
  exact ⟨isDecimal, isValue, exact'.1.mpr ⟨⟨isValue, by decide⟩, reach⟩⟩

/-- A zero has no value where its exponent takes away more digits than it has. -/
theorem constant?_decimal_zero :
    IsDecimal "0e-2".toList ⟨[0], [], -2⟩ ∧
      (⟨[0], [], -2⟩ : Decimal).value = 0 ∧ constant? "0e-2" = none := by
  have isMantissa : IsMantissa "0".toList [0] [] := by
    have digits : Grouped 10 "0".toList [0] := by decide
    exact .whole digits
  have isExponent : IsExponent "e-2".toList (-2) := by
    have digits : Grouped 10 "2".toList [2] := by decide
    exact .negative (.inl rfl) digits (by decide)
  have hasDigit : [0] ++ [] ≠ [] := by decide
  have isFloat : '.' ∈ "0".toList ∨ "e-2".toList ≠ [] := .inr (by decide)
  have isDecimal : IsDecimal ("0".toList ++ "e-2".toList) ⟨[0], [], -2⟩ :=
    .scaled isMantissa isExponent hasDigit isFloat
  refine ⟨isDecimal, ?_, by decide⟩
  norm_num [Decimal.value, numberOf, Nat.ofDigits]

end GoUnion.Literal
