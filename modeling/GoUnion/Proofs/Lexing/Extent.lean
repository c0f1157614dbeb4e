import GoUnion.Token.Lexeme
import Mathlib.Data.List.Basic

/-!
# How far a lexeme looks

The extent of a lexeme depends on the characters it takes and on few behind
them: three are enough, for an exponent mark, a sign and a digit.  So a change
of the text further behind leaves the lexeme as it is.  The same holds of each
shape of which numerals are made.
-/

namespace GoUnion

theorem eq_cons_of_take
    {c : Char} {tail other : List Char} {count : Nat}
    (same : (c :: tail).take (count + 1) = other.take (count + 1)) :
    ∃ tail', other = c :: tail' ∧ tail.take count = tail'.take count := by
  cases other with
  | nil => cases same
  | cons d tail' =>
      rw [List.take_succ_cons, List.take_succ_cons] at same
      rcases List.cons.inj same with ⟨rfl, later⟩
      exact ⟨tail', rfl, later⟩

theorem eq_nil_of_take
    {other : List Char} {count : Nat}
    (same : [].take (count + 1) = other.take (count + 1)) :
    other = [] := by
  cases other with
  | nil => rfl
  | cons d tail => cases same

theorem take_mono
    {text other : List Char} {few many : Nat}
    (same : text.take many = other.take many) (le : few ≤ many) :
    text.take few = other.take few := by
  rw [← Nat.min_eq_left le, ← List.take_take, same, List.take_take]

theorem take_drop_congr
    {text other : List Char} {skipped count : Nat}
    (same : text.take (skipped + count) = other.take (skipped + count)) :
    (text.drop skipped).take count = (other.drop skipped).take count := by
  rw [List.take_drop, List.take_drop, same]

/-! ## Numerals -/

namespace Numeral

/-- A measure takes no more than there is, and sees only some characters beyond what it takes. -/
structure Sees (ahead : Nat) (measure : List Char → Nat) : Prop where
  bound : ∀ text, measure text ≤ text.length
  agrees : ∀ text other,
    text.take (measure text + ahead) = other.take (measure text + ahead) →
      measure other = measure text

variable {measure first second : List Char → Nat} {few many ahead : Nat}

theorem Sees.mono
    (sees : Sees few measure) (le : few ≤ many) :
    Sees many measure where
  bound := sees.bound
  agrees text other same :=
    sees.agrees text other (take_mono same (Nat.add_le_add_left le _))

theorem sees_run (inClass : Char → Bool) : Sees 1 (run inClass) where
  bound text := (List.takeWhile_sublist inClass).length_le
  agrees text := by
    induction text with
    | nil =>
        intro other same
        rw [eq_nil_of_take same]
    | cons c tail ih =>
        intro other same
        rw [run, List.takeWhile_cons] at same
        by_cases holds : inClass c = true
        · rw [if_pos holds, List.length_cons] at same
          rcases eq_cons_of_take same with ⟨tail', rfl, later⟩
          rw [run, run, List.takeWhile_cons, List.takeWhile_cons,
            if_pos holds, if_pos holds, List.length_cons, List.length_cons]
          exact congrArg (· + 1) (ih tail' later)
        · rw [if_neg holds] at same
          rcases eq_cons_of_take same with ⟨tail', rfl, -⟩
          rw [run, run, List.takeWhile_cons, List.takeWhile_cons,
            if_neg holds, if_neg holds]

theorem optional_le_one (inClass : Char → Bool) (text : List Char) :
    optional inClass text ≤ 1 := by
  cases text with
  | nil => exact Nat.zero_le 1
  | cons c tail =>
      rw [optional]
      split
      · exact Nat.le_refl 1
      · exact Nat.zero_le 1

theorem sees_optional (inClass : Char → Bool) :
    Sees 1 (optional inClass) where
  bound text := by
    cases text with
    | nil => exact Nat.le_refl 0
    | cons c tail =>
        exact Nat.le_trans (optional_le_one inClass (c :: tail))
          (Nat.le_add_left 1 tail.length)
  agrees text other same := by
    cases text with
    | nil => rw [eq_nil_of_take same]
    | cons c tail =>
        rcases eq_cons_of_take same with ⟨tail', rfl, -⟩
        rfl

theorem sees_andThen
    (seesFirst : Sees ahead first) (seesSecond : Sees ahead second) :
    Sees ahead (andThen first second) where
  bound text := by
    have one := seesFirst.bound text
    have two := seesSecond.bound (text.drop (first text))
    rw [List.length_drop] at two
    rw [andThen]
    omega
  agrees text other same := by
    rw [andThen] at same
    have one : first other = first text :=
      seesFirst.agrees text other (take_mono same (by omega))
    rw [Nat.add_assoc] at same
    have two :
        second (other.drop (first text)) =
          second (text.drop (first text)) :=
      seesSecond.agrees _ _ (take_drop_congr same)
    rw [andThen, andThen, one, two]

theorem sees_fraction (base : Nat) : Sees 1 (fraction base) where
  bound text := by
    unfold fraction
    split
    case h_1 rest =>
      have bound := (sees_run (isGroupedDigit base)).bound rest
      rw [List.length_cons]
      omega
    case h_2 => exact Nat.zero_le _
  agrees text other same := by
    cases text with
    | nil => rw [eq_nil_of_take same]
    | cons c tail =>
        rcases eq_cons_of_take same with ⟨tail', rfl, later⟩
        by_cases isPoint : c = '.'
        · subst isPoint
          rw [fraction] at later
          have runs :=
            (sees_run (isGroupedDigit base)).agrees tail tail'
              (take_mono later (by omega))
          rw [fraction, fraction, runs]
        · rw [fraction, fraction]
          · rintro rest ⟨⟩
            exact isPoint rfl
          · rintro rest ⟨⟩
            exact isPoint rfl

theorem sees_exponent (isMark : Char → Bool) :
    Sees 3 (exponent isMark) where
  bound text := by
    cases text with
    | nil => exact Nat.le_refl 0
    | cons c rest =>
        rw [exponent]
        split
        case isTrue =>
          have one :=
            (sees_optional fun c => c = '+' || c = '-').bound rest
          have two :=
            (sees_run (isGroupedDigit 10)).bound
              (rest.drop (optional (fun c => c = '+' || c = '-') rest))
          rw [List.length_drop] at two
          rw [List.length_cons]
          omega
        case isFalse => exact Nat.zero_le _
  agrees text other same := by
    cases text with
    | nil => rw [eq_nil_of_take same]
    | cons c rest =>
        rcases eq_cons_of_take same with ⟨rest', rfl, later⟩
        rw [exponent] at later
        rw [exponent, exponent]
        have short := optional_le_one (fun c => c = '+' || c = '-') rest
        have sign :=
          (sees_optional fun c => c = '+' || c = '-').agrees rest rest'
            (take_mono later (by omega))
        rw [sign]
        generalize optional (fun c => c = '+' || c = '-') rest = taken
          at short later
        have digits := fun bound =>
          (sees_run (isGroupedDigit 10)).agrees (rest.drop taken)
            (rest'.drop taken) (take_drop_congr (take_mono later bound))
        by_cases mark : isMark c = true
        · rw [digits]
          split
          · omega
          · simp_all
        · simp [mark]

theorem sees_decimalTail : Sees 3 decimalTail :=
  sees_andThen ((sees_run _).mono (by decide))
    (sees_andThen ((sees_fraction _).mono (by decide))
      (sees_andThen (sees_exponent _)
        ((sees_optional _).mono (by decide))))

theorem sees_fractionTail : Sees 3 fractionTail :=
  sees_andThen ((sees_run _).mono (by decide))
    (sees_andThen (sees_exponent _) ((sees_optional _).mono (by decide)))

theorem sees_hexadecimalTail : Sees 3 hexadecimalTail :=
  sees_andThen ((sees_run _).mono (by decide))
    (sees_andThen ((sees_fraction _).mono (by decide))
      (sees_andThen (sees_exponent _)
        ((sees_optional _).mono (by decide))))

theorem sees_radixTail (base : Nat) : Sees 1 (radixTail base) where
  bound text := by
    rw [radixTail]
    split
    · exact Nat.zero_le _
    · exact (sees_andThen (sees_run _) (sees_optional _)).bound text
  agrees text other same := by
    rw [radixTail] at same
    have runs :
        run (isGroupedDigit base) other =
          run (isGroupedDigit base) text := by
      apply (sees_run _).agrees
      split at same
      case isTrue none =>
        rw [none]
        exact same
      case isFalse =>
        refine take_mono same ?_
        rw [andThen]
        omega
    rw [radixTail, radixTail, runs]
    split at same
    case isTrue none => rw [if_pos none, if_pos none]
    case isFalse some =>
      rw [if_neg some, if_neg some]
      exact (sees_andThen (sees_run _) (sees_optional _)).agrees _ _ same

theorem tail_of_ne
    {first : Char} (noZero : first ≠ '0') (rest : List Char) :
    tail first rest = decimalTail rest := by
  unfold tail
  split
  · exact absurd rfl noZero
  · rfl

theorem radixTail_congr
    {base count : Nat} {digits other : List Char}
    (same : digits.take (count + 2) = other.take (count + 2))
    (le : radixTail base digits ≤ count) :
    radixTail base other = radixTail base digits :=
  (sees_radixTail base).agrees digits other (take_mono same (by omega))

/-- A mark that starts no numeral does not do so with the same characters behind it. -/
theorem not_radix_congr
    {isMark : Bool} {base count : Nat} {digits other : List Char}
    (same : digits.take (count + 2) = other.take (count + 2))
    (noRadix : ¬(isMark && radixTail base digits ≠ 0) = true) :
    ¬(isMark && radixTail base other ≠ 0) = true := by
  cases isMark with
  | false => exact noRadix
  | true =>
      have none : radixTail base digits = 0 := by simpa using noRadix
      rw [radixTail_congr same (by omega)]
      exact noRadix

theorem sees_zeroTail : Sees 3 (tail '0') where
  bound text := by
    cases text with
    | nil => exact sees_decimalTail.bound []
    | cons mark digits =>
        rw [tail, List.length_cons]
        split
        · have := sees_hexadecimalTail.bound digits
          omega
        · split
          · have := (sees_radixTail 2).bound digits
            omega
          · split
            · have := (sees_radixTail 8).bound digits
              omega
            · exact sees_decimalTail.bound (mark :: digits)
  agrees text other same := by
    cases text with
    | nil => rw [eq_nil_of_take same]
    | cons mark digits =>
        rcases eq_cons_of_take same with ⟨digits', rfl, later⟩
        rw [tail] at same later
        rw [tail, tail]
        by_cases isHex : (mark = 'x' || mark = 'X') = true
        · rw [if_pos isHex] at later
          rw [if_pos isHex, if_pos isHex,
            sees_hexadecimalTail.agrees digits digits'
              (take_mono later (by omega))]
        · rw [if_neg isHex] at same later
          rw [if_neg isHex, if_neg isHex]
          by_cases isBinary :
              ((mark = 'b' || mark = 'B') && radixTail 2 digits ≠ 0) = true
          · rw [if_pos isBinary] at later
            have radix : radixTail 2 digits' = radixTail 2 digits :=
              radixTail_congr later (by omega)
            rw [radix, if_pos isBinary, if_pos isBinary]
          · rw [if_neg isBinary] at same later
            rw [if_neg isBinary]
            by_cases isOctal :
                ((mark = 'o' || mark = 'O') && radixTail 8 digits ≠ 0) =
                  true
            · rw [if_pos isOctal] at later
              have radix : radixTail 8 digits' = radixTail 8 digits :=
                radixTail_congr later (by omega)
              rw [if_neg (not_radix_congr later isBinary), radix,
                if_pos isOctal, if_pos isOctal]
            · rw [if_neg isOctal] at same later
              rw [if_neg (not_radix_congr later isBinary),
                if_neg (not_radix_congr later isOctal), if_neg isOctal]
              exact sees_decimalTail.agrees _ _ same

theorem sees_tail (first : Char) : Sees 3 (tail first) := by
  by_cases isZero : first = '0'
  · subst isZero
    exact sees_zeroTail
  · have same : tail first = decimalTail := funext (tail_of_ne isZero)
    rw [same]
    exact sees_decimalTail

end Numeral

namespace Lexeme

open Numeral (run sees_run)

/-- A scanner takes no more than there is, and sees only three characters beyond what it takes,
unless it fails. -/
def Sees (scanner : List Char → Lexeme × Nat) : Prop :=
  ∀ text lexeme extra, scanner text = (lexeme, extra) →
    lexeme ≠ .openComment → lexeme ≠ .unknown →
      extra ≤ text.length ∧ ∀ other,
        text.take (extra + 3) = other.take (extra + 3) →
          scanner other = (lexeme, extra)

/-! ## Literals and comments -/

/-- A search for a closing mark takes no more than there is, and sees nothing behind the mark. -/
def Closes (search : List Char → Bool × Nat) : Prop :=
  ∀ text count, search text = (true, count) →
    count ≤ text.length ∧ ∀ other,
      text.take count = other.take count → search other = (true, count)

theorem quotedTail_cons
    {quote c : Char} (noEscape : c ≠ '\\') (rest : List Char) :
    quotedTail quote (c :: rest) =
      if c = quote then (true, 1)
      else if c = '\n' then (false, 0)
      else
        ((quotedTail quote rest).1, (quotedTail quote rest).2 + 1) := by
  rw [quotedTail]
  · rintro rfl
    exact absurd rfl noEscape
  · rintro d later rfl
    exact absurd rfl noEscape

theorem closes_quotedTail (quote : Char) : Closes (quotedTail quote) := by
  intro text
  fun_induction quotedTail quote text with
  | case1 | case2 | case3 =>
      intro count closed
      cases closed
  | case4 c rest noNewline closed count found ih =>
      intro total result
      cases result
      rcases ih count found with ⟨bound, agrees⟩
      constructor
      · simpa using bound
      · intro other same
        rcases eq_cons_of_take same with ⟨other', rfl, same'⟩
        rcases eq_cons_of_take same' with ⟨last, rfl, later⟩
        rw [quotedTail, if_neg noNewline, agrees last later]
  | case5 rest notLast noEscape =>
      intro count result
      cases result
      constructor
      · simp
      · intro other same
        rcases eq_cons_of_take same with ⟨other', rfl, -⟩
        have isPlain : quote ≠ '\\' := by
          intro isEscape
          cases rest with
          | nil => exact notLast isEscape rfl
          | cons c tail => exact noEscape c tail isEscape rfl
        rw [quotedTail_cons isPlain, if_pos rfl]
  | case6 =>
      intro count result
      cases result
  | case7 c rest notLast noEscape noQuote noNewline closed count found ih =>
      intro total result
      cases result
      rcases ih count found with ⟨bound, agrees⟩
      constructor
      · simpa using bound
      · intro other same
        rcases eq_cons_of_take same with ⟨other', rfl, later⟩
        have isPlain : c ≠ '\\' := by
          intro isEscape
          cases rest with
          | nil => exact notLast isEscape rfl
          | cons c tail => exact noEscape c tail isEscape rfl
        rw [quotedTail_cons isPlain, if_neg noQuote, if_neg noNewline,
          agrees other' later]

theorem closes_rawTail : Closes rawTail := by
  intro text
  fun_induction rawTail text with
  | case1 =>
      intro count closed
      cases closed
  | case2 rest =>
      intro count result
      cases result
      constructor
      · simp
      · intro other same
        rcases eq_cons_of_take same with ⟨other', rfl, -⟩
        rfl
  | case3 c rest noQuote closed count found ih =>
      intro total result
      cases result
      rcases ih count found with ⟨bound, agrees⟩
      constructor
      · simpa using bound
      · intro other same
        rcases eq_cons_of_take same with ⟨other', rfl, later⟩
        rw [rawTail, if_neg noQuote, agrees other' later]

theorem commentTail_pos
    {text : List Char} {count : Nat}
    (closed : commentTail text = (true, count)) :
    0 < count := by
  unfold commentTail at closed
  split at closed
  · cases closed
  · cases closed
    exact Nat.zero_lt_two
  · rcases Prod.mk.inj closed with ⟨-, rfl⟩
    exact Nat.zero_lt_succ _

theorem closes_commentTail : Closes commentTail := by
  intro text
  fun_induction commentTail text with
  | case1 =>
      intro count closed
      cases closed
  | case2 tail =>
      intro count result
      cases result
      constructor
      · simp
      · intro other same
        rcases eq_cons_of_take same with ⟨other', rfl, same'⟩
        rcases eq_cons_of_take same' with ⟨last, rfl, -⟩
        rfl
  | case3 c rest open' closed count found ih =>
      intro total result
      cases result
      rcases ih count found with ⟨bound, agrees⟩
      constructor
      · simpa using bound
      · intro other same
        rcases eq_cons_of_take same with ⟨other', rfl, later⟩
        rw [commentTail, agrees other' later]
        rintro last rfl rfl
        have first := take_mono later (commentTail_pos found)
        cases rest with
        | nil => cases first
        | cons d tail =>
            cases first
            exact open' tail rfl rfl

/-! ## Operators and names -/

theorem sees_literal
    {search : List Char → Bool × Nat} (closes : Closes search)
    (kind : TokenKind) :
    Sees fun text => literal kind (search text) := by
  intro text lexeme extra found _ known
  dsimp only at found ⊢
  cases result : search text with
  | mk closed count =>
      rw [result] at found
      cases closed with
      | false =>
          cases found
          exact absurd rfl known
      | true =>
          cases found
          rcases closes text extra result with ⟨bound, agrees⟩
          refine ⟨bound, ?_⟩
          intro other same
          rw [agrees other (take_mono same (Nat.le_add_right _ _))]
          rfl

/-- What holds of all entries that open a text holds of the longest. -/
theorem longest_of_all
    {table : List (List Char × TokenKind)} {text : List Char}
    {entry : List Char × TokenKind} (Holds : List Char × TokenKind → Prop)
    (all : ∀ candidate ∈ table, candidate.1 <+: text → Holds candidate)
    (found : longest table text = some entry) :
    Holds entry := by
  rw [longest] at found
  have start : ∀ first, (none : Option (List Char × TokenKind)) =
      some first → Holds first := by simp
  revert found start
  generalize (none : Option (List Char × TokenKind)) = best
  induction table generalizing best with
  | nil =>
      intro found start
      exact start entry found
  | cons candidate table ih =>
      intro found start
      refine ih ?_ _ found ?_
      · intro other inTable
        exact all other (List.mem_cons_of_mem _ inTable)
      · intro first better
        dsimp only at better
        split at better
        case isTrue holds =>
          cases better
          rw [Bool.and_eq_true] at holds
          exact all candidate List.mem_cons_self
            (List.isPrefixOf_iff_prefix.mp holds.1)
        case isFalse => exact start first better

theorem longest_eq_some
    {table : List (List Char × TokenKind)} {text : List Char}
    {entry : List Char × TokenKind}
    (found : longest table text = some entry) :
    entry ∈ table ∧ entry.1 <+: text :=
  longest_of_all (fun entry => entry ∈ table ∧ entry.1 <+: text)
    (fun _ inTable isPrefix => ⟨inTable, isPrefix⟩) found

theorem length_fixed : ∀ entry ∈ fixed, entry.1.length ≤ 3 := by
  decide

theorem longest_fixed_congr
    {text other : List Char} (same : text.take 3 = other.take 3) :
    longest fixed text = longest fixed other := by
  apply List.foldl_ext
  intro best entry inFixed
  have prefixes :
      entry.1.isPrefixOf text = entry.1.isPrefixOf other := by
    rw [Bool.eq_iff_iff, List.isPrefixOf_iff_prefix,
      List.isPrefixOf_iff_prefix, List.prefix_iff_eq_take,
      List.prefix_iff_eq_take,
      take_mono same (length_fixed entry inFixed)]
  rw [prefixes]

theorem sees_fixedAtHead (c : Char) : Sees (fixedAtHead c) := by
  intro text lexeme extra found _ known
  rw [fixedAtHead] at found
  split at found
  case h_1 entry kind isLongest =>
    cases found
    constructor
    · have bound : entry.length ≤ (c :: text).length :=
        (longest_eq_some isLongest).2.length_le
      rw [List.length_cons] at bound
      omega
    · intro other same
      have first : (c :: text).take 3 = (c :: other).take 3 := by
        rw [List.take_succ_cons, List.take_succ_cons,
          take_mono same (by omega)]
      rw [fixedAtHead, ← longest_fixed_congr first, isLongest]
  case h_2 =>
    cases found
    exact absurd rfl known

theorem takeWhile_congr
    {inClass : Char → Bool} {text other : List Char}
    (same :
      text.take ((text.takeWhile inClass).length + 1) =
        other.take ((text.takeWhile inClass).length + 1)) :
    other.takeWhile inClass = text.takeWhile inClass := by
  have runs := (sees_run inClass).agrees text other same
  rw [run, run] at runs
  rw [List.prefix_iff_eq_take.mp (List.takeWhile_prefix inClass),
    List.prefix_iff_eq_take.mp
      (List.takeWhile_prefix (l := text) inClass),
    runs]
  exact (take_mono same (Nat.le_succ _)).symm

theorem sees_nameAtHead (c : Char) : Sees (nameAtHead c) := by
  intro text lexeme extra found _ _
  have taken : (text.takeWhile continuesName).length = extra := by
    rw [nameAtHead] at found
    split at found
    · exact congrArg Prod.snd found
    · exact congrArg Prod.snd found
  constructor
  · rw [← taken]
    exact (sees_run continuesName).bound text
  · intro other same
    rw [← found, nameAtHead, nameAtHead,
      takeWhile_congr (take_mono same (by omega))]

theorem slashAtHead_plain
    {text : List Char}
    (noLine : ∀ line, text ≠ '/' :: line)
    (noBlock : ∀ body, text ≠ '*' :: body) :
    slashAtHead text = fixedAtHead '/' text := by
  unfold slashAtHead
  split
  · exact absurd rfl (noLine _)
  · exact absurd rfl (noBlock _)
  · rfl

/-- Texts with the same first characters do not differ in the first one. -/
theorem ne_cons_of_take
    {c : Char} {text other : List Char} {count : Nat}
    (same : text.take (count + 1) = other.take (count + 1))
    (different : ∀ tail, text ≠ c :: tail) (tail : List Char) :
    other ≠ c :: tail := by
  rintro rfl
  rcases eq_cons_of_take same.symm with ⟨tail', rfl, -⟩
  exact different tail' rfl

theorem sees_slashAtHead : Sees slashAtHead := by
  intro text lexeme extra found noComment known
  unfold slashAtHead at found
  split at found
  case h_1 line =>
    cases found
    have bound := (sees_run (· ≠ '\n')).bound line
    constructor
    · rw [List.length_cons, Nat.add_comm]
      exact Nat.succ_le_succ bound
    · intro other same
      rcases eq_cons_of_take same with ⟨line', rfl, later⟩
      have near :
          line.take ((line.takeWhile (· ≠ '\n')).length + 1) =
            line'.take ((line.takeWhile (· ≠ '\n')).length + 1) :=
        take_mono later (by omega)
      rw [slashAtHead, takeWhile_congr near]
  case h_2 body =>
    split at found
    case h_1 count isClosed =>
      cases found
      rcases closes_commentTail body count isClosed with ⟨bound, agrees⟩
      constructor
      · rw [List.length_cons, Nat.add_comm]
        exact Nat.succ_le_succ bound
      · intro other same
        rcases eq_cons_of_take same with ⟨body', rfl, later⟩
        rw [slashAtHead, agrees body' (take_mono later (by omega))]
    case h_2 =>
      cases found
      exact absurd rfl noComment
  case h_3 noLine noBlock =>
    rcases sees_fixedAtHead '/' text lexeme extra found noComment known with
      ⟨bound, agrees⟩
    refine ⟨bound, ?_⟩
    intro other same
    rw [slashAtHead_plain (ne_cons_of_take same noLine)
      (ne_cons_of_take same noBlock)]
    exact agrees other same

theorem runeAtHead_plain
    {text : List Char} (nonempty : ∀ later, text ≠ '\'' :: later) :
    runeAtHead text = literal .rune (quotedTail '\'' text) := by
  unfold runeAtHead
  split
  · exact absurd rfl (nonempty _)
  · rfl

theorem sees_runeAtHead : Sees runeAtHead := by
  intro text lexeme extra found noComment known
  unfold runeAtHead at found
  split at found
  case h_1 =>
    cases found
    exact absurd rfl known
  case h_2 nonempty =>
    rcases sees_literal (closes_quotedTail '\'') .rune text lexeme extra
      found noComment known with ⟨bound, agrees⟩
    refine ⟨bound, ?_⟩
    intro other same
    rw [runeAtHead_plain (ne_cons_of_take same nonempty)]
    exact agrees other same

theorem sees_pointAtHead : Sees pointAtHead := by
  intro text lexeme extra found noComment known
  cases text with
  | nil =>
      rcases sees_fixedAtHead '.' [] lexeme extra found noComment known with
        ⟨bound, agrees⟩
      refine ⟨bound, ?_⟩
      intro other same
      rw [eq_nil_of_take same]
      exact found
  | cons c tail =>
      rw [pointAtHead] at found
      split at found
      case isTrue isDigit =>
        cases found
        constructor
        · rw [List.length_cons, Nat.add_comm]
          exact Nat.succ_le_succ (Numeral.sees_fractionTail.bound tail)
        · intro other same
          rcases eq_cons_of_take same with ⟨tail', rfl, later⟩
          rw [pointAtHead, if_pos isDigit,
            Numeral.sees_fractionTail.agrees tail tail'
              (take_mono later (by omega))]
      case isFalse noDigit =>
        rcases sees_fixedAtHead '.' (c :: tail) lexeme extra found noComment
          known with ⟨bound, agrees⟩
        refine ⟨bound, ?_⟩
        intro other same
        rcases eq_cons_of_take same with ⟨tail', rfl, -⟩
        rw [pointAtHead, if_neg noDigit]
        exact agrees _ same

theorem sees_measure
    {measure : List Char → Nat} (sees : Numeral.Sees 3 measure)
    (lexeme : Lexeme) :
    Sees fun text => (lexeme, measure text) := by
  intro text found extra result _ _
  cases result
  refine ⟨sees.bound text, ?_⟩
  intro other same
  dsimp only
  rw [sees.agrees text other same]

theorem sees_ite
    {first second : List Char → Lexeme × Nat} (condition : Prop)
    [Decidable condition] (sees : Sees first) (sees' : Sees second) :
    Sees fun text => if condition then first text else second text := by
  by_cases holds : condition
  · simpa only [if_pos holds] using sees
  · simpa only [if_neg holds] using sees'

/-- A lexeme takes no more than there is, and sees only three characters beyond what it takes. -/
theorem sees_atHead (c : Char) : Sees (atHead c) := by
  refine sees_ite _ (sees_measure ?newline _) (sees_ite _ ?gap ?token)
  case newline => exact ⟨fun _ => Nat.zero_le _, fun _ _ _ => rfl⟩
  case gap => exact sees_measure ((sees_run isGap).mono (by decide)) _
  case token =>
    refine sees_ite _ sees_slashAtHead (sees_ite _ (sees_nameAtHead c) ?_)
    refine sees_ite _ (sees_measure (Numeral.sees_tail c) _) ?_
    refine sees_ite _ sees_pointAtHead ?_
    refine sees_ite _ (sees_literal (closes_quotedTail _) _) ?_
    refine sees_ite _ (sees_literal closes_rawTail _) ?_
    exact sees_ite _ sees_runeAtHead (sees_fixedAtHead c)

end Lexeme

end GoUnion
