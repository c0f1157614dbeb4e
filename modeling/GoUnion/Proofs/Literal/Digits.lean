import GoUnion.Literal.Integer
import Mathlib.Data.List.Forall2
import Mathlib.Data.Nat.Digits.Defs

/-!
# Digits and the numbers they write

A digit has a value, and digits write the number that has these values as its
digits, the most significant first.  The readers of numbers add up the value on
the way; they find a number exactly if there are digits of the base only.  One
plus sign in front of the digits does not disturb them.
-/

namespace GoUnion.Literal

/-- A character is the digit of a base with some value.  Letters count in both cases. -/
structure IsDigit (base : Nat) (c : Char) (value : Nat) : Prop where
  small : value < base
  spelled :
    "0123456789abcdef".toList[value]? = some c ∨
      "0123456789ABCDEF".toList[value]? = some c

instance (base : Nat) (c : Char) (value : Nat) :
    Decidable (IsDigit base c value) :=
  decidable_of_iff
    (value < base ∧
      ("0123456789abcdef".toList[value]? = some c ∨
        "0123456789ABCDEF".toList[value]? = some c))
    ⟨fun holds => ⟨holds.1, holds.2⟩, fun digit => ⟨digit.small, digit.spelled⟩⟩

/-- The characters of a text are digits of a base with some values. -/
abbrev Digits (base : Nat) (text : List Char) (values : List Nat) : Prop :=
  List.Forall₂ (IsDigit base) text values

/-- The characters of a text are digits with some values, apart from underscores. -/
abbrev Grouped (base : Nat) (text : List Char) (values : List Nat) : Prop :=
  Digits base (text.filter (· ≠ '_')) values

/-- The number whose digits have some values, the most significant first. -/
def numberOf (base : Nat) (values : List Nat) : Nat :=
  Nat.ofDigits base values.reverse

variable {base number : Nat} {c : Char} {text : List Char}
  {values : List Nat}

@[simp]
theorem numberOf_nil (base : Nat) : numberOf base [] = 0 := rfl

theorem numberOf_append (base : Nat) (front back : List Nat) :
    numberOf base (front ++ back) =
      numberOf base front * base ^ back.length + numberOf base back := by
  rw [numberOf, List.reverse_append, Nat.ofDigits_append,
    List.length_reverse, Nat.mul_comm, Nat.add_comm, numberOf, numberOf]

theorem numberOf_singleton (base value : Nat) :
    numberOf base [value] = value :=
  Nat.ofDigits_singleton

theorem numberOf_cons (base value : Nat) (values : List Nat) :
    numberOf base (value :: values) =
      value * base ^ values.length + numberOf base values := by
  rw [← List.singleton_append, numberOf_append, numberOf_singleton]

/-- Digits write less than the base to the power of how many they are. -/
theorem numberOf_lt_of_small
    (large : 1 < base) (small : ∀ value ∈ values, value < base) :
    numberOf base values < base ^ values.length := by
  have below := Nat.ofDigits_lt_base_pow_length large
    fun value isIn => small value (List.mem_reverse.mp isIn)
  rwa [List.length_reverse] at below

/-! ## One digit -/

/-- A digit has the same value in every base in which it is one. -/
theorem digitValue?_iff_sixteen (small : base ≤ 16) {value : Nat} :
    digitValue? base c = some value ↔
      digitValue? 16 c = some value ∧ value < base := by
  grind [digitValue?]

theorem code_lt_of_digitValue?
    {value : Nat} (isDigit : digitValue? 16 c = some value) :
    c.toNat < 128 := by
  have nine : ('9' : Char).toNat = 57 := rfl
  have lower : ('z' : Char).toNat = 122 := rfl
  have upper : ('Z' : Char).toNat = 90 := rfl
  simp only [digitValue?, Bool.and_eq_true, decide_eq_true_eq, Char.le_def,
    UInt32.le_iff_toNat_le, Char.toNat_val] at isDigit
  split_ifs at isDigit
  all_goals omega

theorem isDigit_of_code :
    ∀ code < 128, ∀ value < 16,
      digitValue? 16 (Char.ofNat code) = some value →
        IsDigit 16 (Char.ofNat code) value := by
  decide +kernel

/-- The characters that are digits with some value. -/
def spellings (value : Nat) : List Char :=
  "0123456789abcdef".toList[value]?.toList ++
    "0123456789ABCDEF".toList[value]?.toList

theorem IsDigit.mem_spellings
    {value : Nat} (isDigit : IsDigit base c value) :
    c ∈ spellings value := by
  simpa [spellings] using isDigit.spelled

/-- What holds of all characters with its value holds of a digit. -/
theorem IsDigit.of_spellings
    {value : Nat} {holds : Char → Prop} (isDigit : IsDigit base c value)
    (each : (spellings value).Forall holds) : holds c :=
  List.forall_iff_forall_mem.mp each c isDigit.mem_spellings

theorem digitValue?_of_spelling :
    ∀ value < 16,
      (spellings value).Forall fun c => digitValue? 16 c = some value := by
  decide

/-- A character has a value as a digit exactly if it is one with that value. -/
theorem digitValue?_eq_some_iff (small : base ≤ 16) {value : Nat} :
    digitValue? base c = some value ↔ IsDigit base c value := by
  rw [digitValue?_iff_sixteen small]
  constructor
  · rintro ⟨isDigit, below⟩
    have found := isDigit_of_code c.toNat (code_lt_of_digitValue? isDigit)
      value (Nat.lt_of_lt_of_le below small)
    rw [Char.ofNat_toNat] at found
    exact ⟨below, (found isDigit).spelled⟩
  · intro isDigit
    have below := Nat.lt_of_lt_of_le isDigit.small small
    exact ⟨isDigit.of_spellings (digitValue?_of_spelling value below),
      isDigit.small⟩

theorem IsDigit.mono
    {base' value : Nat} (isDigit : IsDigit base c value)
    (atMost : base ≤ base') : IsDigit base' c value :=
  ⟨Nat.lt_of_lt_of_le isDigit.small atMost, isDigit.spelled⟩

theorem isDigit_zero_iff {value : Nat} :
    IsDigit 10 '0' value ↔ value = 0 := by
  have isZero : digitValue? 10 '0' = some 0 := by decide
  rw [← digitValue?_eq_some_iff (by decide), isZero, Option.some_inj,
    eq_comm]

theorem IsDigit.value_ne_zero
    {value : Nat} (isDigit : IsDigit base c value) (noZero : c ≠ '0') :
    value ≠ 0 := by
  rintro rfl
  rcases isDigit.spelled with spelled | spelled
  all_goals exact noZero (by simpa [eq_comm] using spelled)

/-! ## Runs of digits -/

/-- The reader finds the number that the digits write. -/
theorem digitsValue?_eq_some_iff (small : base ≤ 16) :
    digitsValue? base text = some number ↔
      ∃ values, Digits base text values ∧ numberOf base values = number := by
  have run (start : Nat) :
      text.foldlM
          (fun value c => (digitValue? base c).map (value * base + ·))
          start = some number ↔
        ∃ values, Digits base text values ∧
          start * base ^ values.length + numberOf base values = number := by
    induction text generalizing start with
    | nil => simp [eq_comm]
    | cons c text ih =>
        rw [List.foldlM_cons]
        constructor
        · intro reads
          rcases Option.bind_eq_some_iff.mp reads with ⟨next, first, later⟩
          rcases Option.map_eq_some_iff.mp first with ⟨value, isDigit, rfl⟩
          rcases (ih _).mp later with ⟨values, digits, rfl⟩
          refine ⟨value :: values,
            .cons ((digitValue?_eq_some_iff small).mp isDigit) digits, ?_⟩
          rw [numberOf_cons, List.length_cons, Nat.pow_succ]
          ring
        · rintro ⟨values, digits, rfl⟩
          cases digits with
          | @cons _ value _ values isDigit digits =>
              rw [(digitValue?_eq_some_iff small).mpr isDigit]
              refine (ih _).mpr ⟨values, digits, ?_⟩
              rw [numberOf_cons, List.length_cons, Nat.pow_succ]
              ring
  rw [digitsValue?, run]
  simp

theorem isDigit_not_plus (small : base ≤ 16) {value : Nat} :
    ¬IsDigit base '+' value := by
  rw [← digitValue?_eq_some_iff small, digitValue?_iff_sixteen small]
  rintro ⟨isDigit, -⟩
  cases isDigit

theorem Digits.head?_ne_plus
    (digits : Digits base text values) (small : base ≤ 16) :
    text.head? ≠ some '+' := by
  cases digits with
  | nil => simp
  | cons isDigit _ =>
      intro isPlus
      cases isPlus
      exact isDigit_not_plus small isDigit

theorem Digits.small (digits : Digits base text values) :
    ∀ value ∈ values, value < base := by
  induction digits with
  | nil => exact List.forall_mem_nil _
  | cons isDigit _ ih => exact List.forall_mem_cons.mpr ⟨isDigit.small, ih⟩

theorem Digits.numberOf_lt
    (digits : Digits base text values) (large : 1 < base) :
    numberOf base values < base ^ text.length := by
  rw [digits.length_eq]
  exact numberOf_lt_of_small large digits.small

theorem Digits.values_ne_nil
    (digits : Digits base text values) :
    values ≠ [] ↔ text ≠ [] := by
  cases digits with
  | nil => simp
  | cons => simp

/-- Without a sign, there have to be digits, and digits only. -/
theorem unsigned?_eq_some_iff
    (small : base ≤ 16) (noSign : text.head? ≠ some '+') :
    unsigned? base text = some number ↔
      text ≠ [] ∧
        ∃ values, Digits base text values ∧
          numberOf base values = number := by
  rw [unsigned?, if_neg noSign, ← digitsValue?_eq_some_iff small]
  cases text with
  | nil => simp
  | cons c text => simp

/-- Digits are read as the number they write. -/
theorem Digits.unsigned?_eq
    (digits : Digits base text values) (small : base ≤ 16)
    (nonempty : values ≠ []) :
    unsigned? base text = some (numberOf base values) :=
  (unsigned?_eq_some_iff small (digits.head?_ne_plus small)).mpr
    ⟨digits.values_ne_nil.mp nonempty, values, digits, rfl⟩

theorem Digits.exists_of_mem
    (digits : Digits base text values) (isIn : c ∈ text) :
    ∃ value, IsDigit base c value := by
  induction digits with
  | nil => cases isIn
  | cons isDigit _ ih =>
      rcases List.mem_cons.mp isIn with rfl | isLater
      · exact ⟨_, isDigit⟩
      · exact ih isLater

/-- A text with a character that is neither a digit nor a sign has no value. -/
theorem unsigned?_eq_none
    (small : base ≤ 16) (isIn : c ∈ text) (noSign : c ≠ '+')
    (noDigit : ∀ value, ¬IsDigit base c value) :
    unsigned? base text = none := by
  have fails {digits : List Char} (isIn : c ∈ digits) :
      digitsValue? base digits = none := by
    cases reads : digitsValue? base digits with
    | none => rfl
    | some number =>
        rcases (digitsValue?_eq_some_iff small).mp reads with
          ⟨values, areDigits, -⟩
        rcases areDigits.exists_of_mem isIn with ⟨value, isDigit⟩
        exact absurd isDigit (noDigit value)
  have nonempty {digits : List Char} (isIn : c ∈ digits) :
      digits.isEmpty = false :=
    List.isEmpty_eq_false_iff.mpr (List.ne_nil_of_mem isIn)
  cases text with
  | nil => cases isIn
  | cons first rest =>
      rw [unsigned?]
      by_cases isPlus : first = '+'
      · subst isPlus
        have isLater := List.mem_of_ne_of_mem noSign isIn
        simp [nonempty isLater, fails isLater]
      · simp [isPlus, fails isIn]

end GoUnion.Literal
