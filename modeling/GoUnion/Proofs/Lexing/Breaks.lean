import GoUnion.Proofs.Lexing.Gaps
import GoUnion.Proofs.Lexing.Printed

/-!
# Breaks behind a token

A token stays what it is when a space, or the end of the text, takes the place
of what is behind it.  The longest match may have looked at what was there: an
exponent mark with a sign belongs to a numeral only if a digit follows.  A break
can end such an attempt earlier but cannot start one.

For the parts of a numeral this is said of every place behind the part at which
the text may break off, so that it carries over from two parts to both in turn.
-/

namespace GoUnion.Lexeme

/-- A space is next, or nothing. -/
def Breaks (text : List Char) : Prop :=
  ∀ c ∈ text.head?, c = ' '

theorem breaks_nil : Breaks [] := by
  intro c isHead
  cases isHead

theorem breaks_space (text : List Char) : Breaks (' ' :: text) := by
  rintro c ⟨⟩
  rfl

variable {stop : List Char}

theorem Breaks.stops
    {inClass : Char → Bool} (breaks : Breaks stop)
    (outside : inClass ' ' = false) : Stops inClass stop := by
  intro c isHead
  rw [breaks c isHead, outside]

/-- What does not open with a character does not do so when it is cut off at a break. -/
theorem Breaks.ne_cons
    {c : Char} {front rest : List Char} (breaks : Breaks stop)
    (noSpace : c ≠ ' ') (different : ∀ tail, front ++ rest ≠ c :: tail)
    (tail : List Char) : front ++ stop ≠ c :: tail := by
  cases front with
  | nil =>
      rintro rfl
      exact noSpace (breaks c rfl)
  | cons d front =>
      intro same
      rw [List.cons_append] at same
      obtain ⟨rfl, -⟩ := List.cons.inj same
      exact different (front ++ rest) rfl

end GoUnion.Lexeme

/-! ## Numerals -/

namespace GoUnion.Numeral

open Lexeme (Breaks)

/-- A measure stays the same when the text breaks off behind what is measured. -/
def Settles (measure : List Char → Nat) : Prop :=
  ∀ (text : List Char) (count : Nat) (stop : List Char),
    measure text ≤ count → Breaks stop →
      measure (text.take count ++ stop) = measure text

variable {measure first second : List Char → Nat} {stop : List Char}

theorem run_of_breaks
    {inClass : Char → Bool} (outside : inClass ' ' = false)
    (breaks : Breaks stop) : run inClass stop = 0 := by
  have taken := Lexeme.takeWhile_of_stops
    (List.forall_mem_nil fun c => inClass c = true)
    (breaks.stops outside)
  rw [run]
  exact congrArg List.length taken

theorem optional_of_breaks
    {inClass : Char → Bool} (outside : inClass ' ' = false)
    (breaks : Breaks stop) : optional inClass stop = 0 := by
  cases stop with
  | nil => rfl
  | cons c stop =>
      rw [breaks c rfl, optional, if_neg (by simp [outside])]

theorem settles_run
    {inClass : Char → Bool} (outside : inClass ' ' = false) :
    Settles (run inClass) := by
  intro text
  induction text with
  | nil =>
      intro count stop _ breaks
      rw [List.take_nil, List.nil_append, run_of_breaks outside breaks]
      rfl
  | cons c text ih =>
      intro count stop
      rw [run, List.takeWhile_cons]
      split
      case isTrue holds =>
        intro within breaks
        cases count with
        | zero => cases within
        | succ count =>
            have later :=
              ih count stop (Nat.le_of_succ_le_succ within) breaks
            rw [List.take_succ_cons, List.cons_append, run,
              List.takeWhile_cons, if_pos holds]
            exact congrArg (· + 1) later
      case isFalse fails =>
        intro _ breaks
        cases count with
        | zero => exact run_of_breaks outside breaks
        | succ count =>
            rw [List.take_succ_cons, List.cons_append, run,
              List.takeWhile_cons, if_neg fails]

theorem settles_optional
    {inClass : Char → Bool} (outside : inClass ' ' = false) :
    Settles (optional inClass) := by
  intro text count stop within breaks
  cases text with
  | nil =>
      rw [List.take_nil, List.nil_append]
      exact optional_of_breaks outside breaks
  | cons c text =>
      cases count with
      | zero =>
          rw [List.take_zero, List.nil_append,
            optional_of_breaks outside breaks]
          exact (Nat.eq_zero_of_le_zero within).symm
      | succ count => rfl

/-- Cutting off a text and dropping a part of what is left can be done in either order. -/
theorem drop_take_append
    {text : List Char} {dropped count : Nat}
    (bound : dropped ≤ text.length) (within : dropped ≤ count)
    (stop : List Char) :
    (text.take count ++ stop).drop dropped =
      (text.drop dropped).take (count - dropped) ++ stop := by
  rw [List.drop_append_of_le_length, List.drop_take]
  rw [List.length_take]
  exact Nat.le_min.mpr ⟨within, bound⟩

theorem settles_andThen
    (bound : ∀ text, first text ≤ text.length)
    (settlesFirst : Settles first) (settlesSecond : Settles second) :
    Settles (andThen first second) := by
  intro text count stop within breaks
  rw [andThen] at within
  rw [andThen, andThen,
    settlesFirst text count stop (by omega) breaks,
    drop_take_append (bound text) (by omega),
    settlesSecond _ _ stop (by omega) breaks]

theorem isGroupedDigit_space (base : Nat) :
    isGroupedDigit base ' ' = false := by
  simp [isGroupedDigit]

theorem settles_digits (base : Nat) :
    Settles (run (isGroupedDigit base)) :=
  settles_run (isGroupedDigit_space base)

theorem fraction_of_ne
    (base : Nat) {text : List Char} (different : ∀ rest, text ≠ '.' :: rest) :
    fraction base text = 0 := by
  unfold fraction
  split
  · exact absurd rfl (different _)
  · rfl

theorem settles_fraction (base : Nat) : Settles (fraction base) := by
  intro text count stop within breaks
  by_cases isFraction : ∃ rest, text = '.' :: rest
  · rcases isFraction with ⟨rest, rfl⟩
    rw [fraction] at within ⊢
    cases count with
    | zero => exact absurd within (by omega)
    | succ count =>
        rw [List.take_succ_cons, List.cons_append, fraction,
          settles_digits base rest count stop (by omega) breaks]
  · have different : ∀ rest, text.take count ++ text.drop count ≠
        '.' :: rest := by
      intro rest same
      rw [List.take_append_drop] at same
      exact isFraction ⟨rest, same⟩
    rw [fraction_of_ne base (breaks.ne_cons (by decide) different),
      fraction_of_ne base fun rest same => isFraction ⟨rest, same⟩]

/-- The sign of an exponent. -/
def isSign (c : Char) : Bool := c = '+' || c = '-'

/-- The number of digits behind an optional sign. -/
def signedDigits (rest : List Char) : Nat :=
  run (isGroupedDigit 10) (rest.drop (optional isSign rest))

theorem exponent_cons (isMark : Char → Bool) (c : Char) (rest : List Char) :
    exponent isMark (c :: rest) =
      if isMark c && signedDigits rest ≠ 0 then
        1 + optional isSign rest + signedDigits rest
      else 0 := rfl

/-- A sign that is left alone is no exponent, and no digits follow it where none followed before. -/
theorem signedDigits_take
    {rest : List Char} {count : Nat}
    (within : signedDigits rest ≠ 0 →
      optional isSign rest + signedDigits rest ≤ count)
    (breaks : Breaks stop) :
    signedDigits (rest.take count ++ stop) = signedDigits rest := by
  cases count with
  | zero =>
      have noDigits : signedDigits rest = 0 := by
        by_contra some
        exact some (Nat.eq_zero_of_add_eq_zero_left
          (Nat.eq_zero_of_le_zero (within some)))
      rw [List.take_zero, List.nil_append, noDigits, signedDigits,
        optional_of_breaks (by decide) breaks, List.drop_zero,
        run_of_breaks (isGroupedDigit_space 10) breaks]
  | succ count =>
      have short := optional_le_one isSign rest
      have sameSign :
          optional isSign (rest.take (count + 1) ++ stop) =
            optional isSign rest :=
        settles_optional (by decide) rest (count + 1) stop (by omega) breaks
      have bound := (sees_optional isSign).bound rest
      rw [signedDigits, sameSign, drop_take_append bound (by omega)]
      refine settles_digits 10 _ _ stop ?_ breaks
      rw [← signedDigits]
      by_cases none : signedDigits rest = 0
      · rw [none]
        exact Nat.zero_le _
      · have bound := within none
        omega

theorem exponent_of_breaks
    {isMark : Char → Bool} (outside : isMark ' ' = false)
    (breaks : Breaks stop) : exponent isMark stop = 0 := by
  cases stop with
  | nil => rfl
  | cons c stop => simp [exponent, breaks c rfl, outside]

theorem settles_exponent
    {isMark : Char → Bool} (outside : isMark ' ' = false) :
    Settles (exponent isMark) := by
  intro text count stop within breaks
  cases text with
  | nil =>
      rw [List.take_nil, List.nil_append]
      exact exponent_of_breaks outside breaks
  | cons c rest =>
      cases count with
      | zero =>
          exact (exponent_of_breaks outside breaks).trans
            (Nat.eq_zero_of_le_zero within).symm
      | succ count =>
          rw [List.take_succ_cons, List.cons_append, exponent_cons,
            exponent_cons]
          rw [exponent_cons] at within
          cases mark : isMark c with
          | false => rfl
          | true =>
              have ends (some : signedDigits rest ≠ 0) :
                  optional isSign rest + signedDigits rest ≤ count := by
                simp only [mark, some, Bool.true_and, ne_eq,
                  not_false_eq_true, decide_true, if_true] at within
                omega
              rw [signedDigits_take ends breaks]
              by_cases none : signedDigits rest = 0
              · rw [none]
                rfl
              · rw [settles_optional (by decide) rest count stop
                  (Nat.le_of_add_right_le (ends none)) breaks]

theorem settles_decimalTail : Settles decimalTail :=
  settles_andThen (sees_run _).bound (settles_digits 10)
    (settles_andThen (sees_fraction 10).bound (settles_fraction 10)
      (settles_andThen (sees_exponent _).bound
        (settles_exponent (by decide)) (settles_optional (by decide))))

theorem settles_fractionTail : Settles fractionTail :=
  settles_andThen (sees_run _).bound (settles_digits 10)
    (settles_andThen (sees_exponent _).bound
      (settles_exponent (by decide)) (settles_optional (by decide)))

theorem settles_hexadecimalTail : Settles hexadecimalTail :=
  settles_andThen (sees_run _).bound (settles_digits 16)
    (settles_andThen (sees_fraction 16).bound (settles_fraction 16)
      (settles_andThen (sees_exponent _).bound
        (settles_exponent (by decide)) (settles_optional (by decide))))

theorem settles_radixTail (base : Nat) : Settles (radixTail base) := by
  intro text count stop within breaks
  rw [radixTail] at within
  split at within
  case isTrue none =>
    rw [radixTail, radixTail,
      settles_digits base text count stop (by omega) breaks,
      if_pos none, if_pos none]
  case isFalse some =>
    have digits : run (isGroupedDigit base) text ≤ count :=
      Nat.le_trans (by rw [andThen]; omega) within
    rw [radixTail, radixTail,
      settles_digits base text count stop digits breaks, if_neg some,
      if_neg some]
    exact settles_andThen (sees_run _).bound (settles_digits base)
      (settles_optional (by decide)) text count stop within breaks

theorem tail_zero_of_breaks (breaks : Breaks stop) : tail '0' stop = 0 := by
  cases stop with
  | nil => rfl
  | cons c stop =>
      rw [breaks c rfl]
      rfl

/-- A numeral with a radix that is tried in front of others stays the same if they do. -/
theorem radixTail_or_take
    {isMark : Bool} {base count other other' : Nat} {digits : List Char}
    (within :
      (if isMark && radixTail base digits ≠ 0 then
        1 + radixTail base digits else other) ≤ count + 1)
    (breaks : Breaks stop) (same : other ≤ count + 1 → other' = other) :
    (if isMark && radixTail base (digits.take count ++ stop) ≠ 0 then
        1 + radixTail base (digits.take count ++ stop) else other') =
      if isMark && radixTail base digits ≠ 0 then
        1 + radixTail base digits else other := by
  have settled (ends : radixTail base digits ≤ count) :
      radixTail base (digits.take count ++ stop) = radixTail base digits :=
    settles_radixTail base digits count stop ends breaks
  cases isMark with
  | false => exact same within
  | true =>
      simp only [Bool.true_and, decide_eq_true_eq, ne_eq, ite_not]
        at within ⊢
      by_cases none : radixTail base digits = 0
      · rw [if_pos none] at within
        rw [if_pos ((settled (by omega)).trans none), if_pos none]
        exact same within
      · rw [if_neg none] at within
        rw [settled (by omega), if_neg none, if_neg none]

theorem settles_zeroTail : Settles (tail '0') := by
  intro text count stop within breaks
  cases text with
  | nil =>
      rw [List.take_nil, List.nil_append]
      exact tail_zero_of_breaks breaks
  | cons mark digits =>
      cases count with
      | zero =>
          exact (tail_zero_of_breaks breaks).trans
            (Nat.eq_zero_of_le_zero within).symm
      | succ count =>
          have decimal := settles_decimalTail (mark :: digits) (count + 1)
            stop
          rw [List.take_succ_cons, List.cons_append] at decimal ⊢
          rw [tail] at within ⊢
          rw [tail]
          by_cases isHex : (mark = 'x' || mark = 'X') = true
          · rw [if_pos isHex] at within ⊢
            rw [if_pos isHex,
              settles_hexadecimalTail digits count stop (by omega) breaks]
          · rw [if_neg isHex] at within ⊢
            rw [if_neg isHex]
            refine radixTail_or_take within breaks fun within => ?_
            refine radixTail_or_take within breaks fun within => ?_
            exact decimal within breaks

theorem settles_tail (first : Char) : Settles (tail first) := by
  by_cases isZero : first = '0'
  · subst isZero
    exact settles_zeroTail
  · have same : tail first = decimalTail := funext (tail_of_ne isZero)
    rw [same]
    exact settles_decimalTail

end GoUnion.Numeral

/-! ## Tokens -/

namespace GoUnion.Lexeme

/-- A scanner that finds the same token when the text breaks off behind the token. -/
def Settles (scanner : List Char → Lexeme × Nat) : Prop :=
  ∀ (front rest : List Char) (kind : TokenKind),
    scanner (front ++ rest) = (.token kind, front.length) →
      ∀ stop, Breaks stop →
        scanner (front ++ stop) = (.token kind, front.length)

theorem settles_ite
    {first second : List Char → Lexeme × Nat} (condition : Prop)
    [Decidable condition] (settles : Settles first)
    (settles' : Settles second) :
    Settles fun rest => if condition then first rest else second rest := by
  by_cases holds : condition
  · simpa only [if_pos holds] using settles
  · simpa only [if_neg holds] using settles'

theorem settles_other
    {lexeme : Lexeme} (isOther : ∀ kind, lexeme ≠ .token kind)
    (measure : List Char → Nat) :
    Settles fun rest => (lexeme, measure rest) := by
  intro front rest kind found
  exact absurd (congrArg Prod.fst found) (isOther kind)

theorem settles_measure
    {measure : List Char → Nat} (settles : Numeral.Settles measure)
    (lexeme : Lexeme) :
    Settles fun rest => (lexeme, measure rest) := by
  intro front rest kind found stop breaks
  rcases Prod.mk.inj found with ⟨rfl, taken⟩
  have same :=
    settles (front ++ rest) front.length stop (Nat.le_of_eq taken) breaks
  rw [List.take_left, taken] at same
  exact congrArg _ same

theorem settles_literal
    {search : List Char → Bool × Nat} (closes : Closes search)
    (kind : TokenKind) :
    Settles fun rest => literal kind (search rest) := by
  intro front rest kind' found stop _
  dsimp only at found ⊢
  rcases searched : search (front ++ rest) with ⟨closed, count⟩
  rw [searched] at found
  cases closed with
  | false => cases found
  | true =>
      cases found
      rw [(closes _ _ searched).2 (front ++ stop)
        (by rw [List.take_left, List.take_left])]
      rfl

theorem fixed_noSpace : ∀ entry ∈ fixed, ' ' ∉ entry.1 := by
  decide

theorem fixed_nonempty : ∀ entry ∈ fixed, entry.1 ≠ [] := by
  decide

theorem settles_fixedAtHead (c : Char) : Settles (fixedAtHead c) := by
  intro front rest kind found stop breaks
  rw [fixedAtHead] at found
  split at found
  case h_2 => cases found
  case h_1 text kind' isLongest =>
    rcases Prod.mk.inj found with ⟨isKind, isLength⟩
    cases isKind
    rcases longest_eq_some isLongest with ⟨inFixed, isPrefix⟩
    have isText : text = c :: front := by
      have positive : 0 < text.length :=
        List.length_pos_iff.mpr (fixed_nonempty _ inFixed)
      have taken := List.prefix_iff_eq_take.mp isPrefix
      dsimp only at taken
      rwa [show text.length = front.length + 1 by omega,
        List.take_succ_cons, List.take_left] at taken
    subst isText
    have again :
        longest fixed ((c :: front) ++ stop) = some (c :: front, kind) := by
      refine Token.longest_fixed inFixed (by simp) ?_
      intro d isNext other inFixed' more longer
      apply fixed_noSpace other inFixed'
      rw [← longer, breaks d isNext]
      simp
    rw [fixedAtHead, ← List.cons_append, again]
    rfl

theorem settles_nameAtHead (c : Char) : Settles (nameAtHead c) := by
  intro front rest kind found stop breaks
  have isLength :
      ((front ++ rest).takeWhile continuesName).length = front.length := by
    rw [nameAtHead] at found
    split at found
    · exact congrArg Prod.snd found
    · exact congrArg Prod.snd found
  rcases run_of_length isLength with ⟨each, stops⟩
  rw [nameAtHead, takeWhile_of_stops each stops] at found
  rw [nameAtHead, takeWhile_of_stops each (breaks.stops (by decide))]
  exact found

theorem settles_slashAtHead : Settles slashAtHead := by
  intro front rest kind found stop breaks
  generalize whole : front ++ rest = text at found
  unfold slashAtHead at found
  split at found
  case h_1 => cases found
  case h_2 =>
    split at found
    · cases found
    · cases found
  case h_3 noLine noBlock =>
    subst whole
    rw [slashAtHead_plain (breaks.ne_cons (by decide) noLine)
      (breaks.ne_cons (by decide) noBlock)]
    exact settles_fixedAtHead '/' front rest kind found stop breaks

theorem settles_runeAtHead : Settles runeAtHead := by
  intro front rest kind found stop breaks
  generalize whole : front ++ rest = text at found
  unfold runeAtHead at found
  split at found
  case h_1 => cases found
  case h_2 nonempty =>
    subst whole
    rw [runeAtHead_plain (breaks.ne_cons (by decide) nonempty)]
    exact settles_literal (closes_quotedTail '\'') .rune front rest kind
      found stop breaks

theorem settles_pointAtHead : Settles pointAtHead := by
  intro front rest kind found stop breaks
  cases front with
  | nil =>
      have isMark : fixedAtHead '.' rest = (.token kind, 0) := by
        cases rest with
        | nil => exact found
        | cons c tail =>
            rw [List.nil_append, pointAtHead] at found
            split at found
            case isTrue =>
              have none := congrArg Prod.snd found
              simp at none
            case isFalse => exact found
      rw [List.nil_append,
        Token.pointAtHead_of_stops (breaks.stops (by decide))]
      exact settles_fixedAtHead '.' [] rest kind isMark stop breaks
  | cons c front =>
      rw [List.cons_append, pointAtHead] at found ⊢
      by_cases isDigit : Numeral.isDigit c = true
      · rw [if_pos isDigit] at found ⊢
        rcases Prod.mk.inj found with ⟨isKind, isLength⟩
        rw [List.length_cons] at isLength ⊢
        have taken :
            Numeral.fractionTail (front ++ rest) = front.length := by
          omega
        have same :=
          Numeral.settles_fractionTail (front ++ rest) front.length stop
            (Nat.le_of_eq taken) breaks
        rw [List.take_left, taken] at same
        rw [same, isKind, Nat.add_comm]
      · rw [if_neg isDigit] at found ⊢
        exact settles_fixedAtHead '.' (c :: front) rest kind found stop
          breaks

/-- A token stays the same when the text breaks off behind it. -/
theorem settles_atHead (c : Char) : Settles (atHead c) := by
  refine settles_ite _ (settles_other (by simp) _) ?_
  refine settles_ite _ (settles_other (by simp) _) ?_
  refine settles_ite _ settles_slashAtHead ?_
  refine settles_ite _ (settles_nameAtHead c) ?_
  refine settles_ite _ (settles_measure (Numeral.settles_tail c) _) ?_
  refine settles_ite _ settles_pointAtHead ?_
  refine settles_ite _ (settles_literal (closes_quotedTail _) _) ?_
  refine settles_ite _ (settles_literal closes_rawTail _) ?_
  exact settles_ite _ settles_runeAtHead (settles_fixedAtHead c)

end GoUnion.Lexeme
