import GoUnion.Proofs.ImportBlock
import GoUnion.Proofs.Output.Literals

/-!
# Identifiers that the scanner does not know

A name that is given from outside is an identifier if it is made of alphabetic
and numeric characters.  The scanner makes its identifiers of letters and decimal
digits.  These are alphabetic or numeric too, so whatever is scanned as an
identifier is one.  The characters that are left, such as combining marks, letter
numbers and superscripts, are strays: no token has one outside of literals and
comments.  So an identifier is scanned as one exactly if it has no stray, and
otherwise the scanner stops at the first.
-/

namespace GoUnion

/-! ## Sets within sets -/

namespace Text.CharSet

/-- Whether the ranges of an ascending list lie in those of another.  The ranges that end before
the next one are left behind. -/
def coversRanges : List (Nat × Nat) → List (Nat × Nat) → Bool
  | _, [] => true
  | ranges, (first, last) :: later =>
    match ranges.dropWhile fun range =>
        range.1 ≤ first && range.2 < first with
    | [] => false
    | range :: others =>
      range.1 ≤ first && last ≤ range.2 &&
        coversRanges (range :: others) later

/-- Whether each range of a set lies in one of another. -/
def covers (set other : CharSet) : Bool :=
  coversRanges set.ranges other.ranges

/-- A search goes on behind the ranges that end before the character. -/
theorem search_dropWhile
    {code : Nat} {passed : Nat × Nat → Bool} {ranges : List (Nat × Nat)}
    (before : ∀ range, passed range = true →
      range.1 ≤ code ∧ range.2 < code) :
    search (ranges.dropWhile passed) code = search ranges code := by
  induction ranges with
  | nil => rfl
  | cons range ranges ih =>
      rw [List.dropWhile_cons]
      split
      case isTrue isPassed =>
        rcases before range isPassed with ⟨reached, behind⟩
        rw [ih, search, if_neg (Nat.not_lt_of_le reached),
          if_neg (Nat.not_le_of_lt behind)]
      case isFalse => rfl

theorem search_of_coversRanges
    {code : Nat} {ranges others : List (Nat × Nat)}
    (covered : coversRanges ranges others = true)
    (found : search others code = true) :
    search ranges code = true := by
  induction others generalizing ranges with
  | nil => cases found
  | cons range later ih =>
      rcases range with ⟨first, last⟩
      rcases search_cons found with ⟨reached, behind⟩
      have passes (range : Nat × Nat)
          (isPassed : (range.1 ≤ first && range.2 < first) = true) :
          range.1 ≤ code ∧ range.2 < code := by
        rw [Bool.and_eq_true, decide_eq_true_eq, decide_eq_true_eq]
          at isPassed
        omega
      rw [coversRanges] at covered
      rw [← search_dropWhile passes]
      split at covered
      case h_1 => cases covered
      case h_2 range rest isRest =>
        rw [Bool.and_eq_true, Bool.and_eq_true, decide_eq_true_eq,
          decide_eq_true_eq] at covered
        rcases covered with ⟨⟨opens, closes⟩, covered⟩
        rw [isRest]
        by_cases inside : code ≤ last
        · rcases range with ⟨first', last'⟩
          rw [search, if_neg (by omega), if_pos (by omega)]
        · exact ih covered (behind (by omega))

theorem contains_of_covers
    {set other : CharSet} (covered : set.covers other = true) {c : Char}
    (holds : other.contains c = true) :
    set.contains c = true :=
  search_of_coversRanges covered holds

end Text.CharSet

/-! ## Strays -/

/-- An alphabetic or numeric character that is neither a letter nor a decimal digit. -/
def Text.isStray (c : Char) : Bool :=
  isAlphanumeric c && !isLetter c && !isDecimalDigit c

/-- Letters are alphabetic, and decimal digits are numeric and not alphabetic. -/
theorem Text.covering_tables :
    alphabetics.covers letters = true ∧
      numerics.covers decimalDigits = true ∧
      decimalDigits.common alphabetics = [] := by
  decide +kernel

/-- The first 128 characters have no stray. -/
theorem Text.not_isStray_of_plain :
    ∀ code < 128, isStray (Char.ofNat code) = false := by
  decide +kernel

theorem Text.beyond_of_isStray {c : Char} (stray : isStray c = true) :
    128 ≤ c.toNat := by
  by_contra isPlain
  have noStray := not_isStray_of_plain c.toNat (by omega)
  rw [Char.ofNat_toNat, stray] at noStray
  cases noStray

namespace Lexeme

open Text (isStray isLetter isDecimalDigit isAlphabetic)

theorem not_isStray_of_continuesName
    {c : Char} (continues : continuesName c = true) :
    isStray c = false := by
  rw [continuesName, startsName, Bool.or_eq_true, Bool.or_eq_true,
    decide_eq_true_eq] at continues
  rcases continues with (rfl | letter) | digit
  · decide
  · rw [isStray, letter, Bool.not_true, Bool.and_false, Bool.false_and]
  · rw [isStray, digit, Bool.not_true, Bool.and_false]

/-- What starts a name for the scanner starts one, and all but the strays that start a name do so
for the scanner. -/
theorem startsName_iff {c : Char} :
    startsName c = true ↔
      Name.startsName c = true ∧ isStray c = false := by
  constructor
  · intro starts
    have continues : continuesName c = true := by
      rw [continuesName, starts, Bool.true_or]
    refine ⟨?_, not_isStray_of_continuesName continues⟩
    rw [startsName, Bool.or_eq_true] at starts
    rw [Name.startsName, Bool.or_eq_true]
    exact starts.imp_right
      (Text.CharSet.contains_of_covers Text.covering_tables.1)
  · rintro ⟨starts, noStray⟩
    rw [Name.startsName, Bool.or_eq_true] at starts
    rw [startsName, Bool.or_eq_true]
    refine starts.imp_right fun alphabetic => ?_
    by_contra noLetter
    rw [Bool.not_eq_true] at noLetter
    have noDigit : isDecimalDigit c = false := by
      rw [← Bool.not_eq_true]
      intro digit
      have other := Text.CharSet.not_contains_of_common
        Text.covering_tables.2.2 digit
      cases other.symm.trans alphabetic
    rw [isStray, Text.isAlphanumeric, alphabetic, noLetter, noDigit]
      at noStray
    cases noStray

/-- The same of what continues a name. -/
theorem continuesName_iff {c : Char} :
    continuesName c = true ↔
      Name.continuesName c = true ∧ isStray c = false := by
  constructor
  · intro continues
    refine ⟨?_, not_isStray_of_continuesName continues⟩
    rw [continuesName, Bool.or_eq_true, startsName_iff, Name.startsName,
      Bool.or_eq_true] at continues
    rw [Name.continuesName, Text.isAlphanumeric, Bool.or_eq_true,
      Bool.or_eq_true]
    rcases continues with ⟨isUnderscore | alphabetic, -⟩ | digit
    · exact .inl isUnderscore
    · exact .inr (.inl alphabetic)
    · exact .inr (.inr
        (Text.CharSet.contains_of_covers Text.covering_tables.2.1 digit))
  · rintro ⟨continues, noStray⟩
    rw [Name.continuesName, Bool.or_eq_true] at continues
    rw [continuesName, startsName, Bool.or_assoc, Bool.or_eq_true,
      Bool.or_eq_true]
    refine continues.imp_right fun alphanumeric => ?_
    by_contra unknown
    rw [not_or, Bool.not_eq_true, Bool.not_eq_true] at unknown
    rw [isStray, alphanumeric, unknown.1, unknown.2] at noStray
    cases noStray

/-- A word of the scanner is a word without strays. -/
theorem isWord_iff {text : List Char} :
    isWord text = true ↔
      Name.isWord text = true ∧ ∀ c ∈ text, isStray c = false := by
  cases text with
  | nil => simp [isWord, Name.isWord]
  | cons c tail =>
      rw [isWord_cons, Name.isWord_cons, startsName_iff,
        List.forall_mem_cons]
      simp only [continuesName_iff]
      constructor
      · rintro ⟨⟨starts, noStray⟩, others⟩
        exact ⟨⟨starts, fun d isIn => (others d isIn).1⟩, noStray,
          fun d isIn => (others d isIn).2⟩
      · rintro ⟨⟨starts, continues⟩, noStray, noStrays⟩
        exact ⟨⟨starts, noStray⟩,
          fun d isIn => ⟨continues d isIn, noStrays d isIn⟩⟩

/-- What the scanner takes for an identifier is an identifier without strays. -/
theorem isName_iff {name : String} :
    IsName name ↔
      Name.isIdentifier name = true ∧
        ∀ c ∈ name.toList, isStray c = false := by
  rw [Name.isIdentifier_iff, and_right_comm, ← isWord_iff]
  constructor
  · rintro ⟨word, notReserved⟩
    exact ⟨word, notReserved⟩
  · rintro ⟨word, notReserved⟩
    exact ⟨word, notReserved⟩

end Lexeme

/-! ## Scanning an identifier -/

namespace Token

open Lexeme (IsName stops_nil stops_cons)
open Text (byteLength isStray)

/-- A text is scanned as one identifier if it is a name of the scanner, and only then. -/
theorem ofSource_eq_identifier_iff {name : String} :
    ofSource name.toList =
        .ok [⟨.identifier, name, ⟨0, byteLength name.toList⟩⟩,
          lineEnd (byteLength name.toList),
          endOfFile (byteLength name.toList)] ↔
      IsName name := by
  constructor
  · intro scans
    exact tokensFrom_haveNames 0 false name.toList _ scans _
      List.mem_cons_self rfl
  · intro isName
    have scans :
        Scans [] 0 false name.toList [wordToken name 0] true :=
      scans_name isName stops_nil
    rw [scans.ofSource, wordToken, isName.wordKind_eq, Nat.zero_add]
    rfl

/-- The scanner knows no token that opens with a stray. -/
theorem tokensFrom_stray
    {stray : Char} (isStray : isStray stray = true) (offset : Nat)
    (pending : Bool) (back : List Char) :
    tokensFrom offset pending (stray :: back) =
      .error ⟨.unexpectedText (String.ofList [stray]),
        ⟨offset, offset + stray.utf8Size⟩⟩ := by
  have noStart : ¬Lexeme.startsName stray = true := by
    rw [Lexeme.startsName_iff, isStray]
    simp
  rw [tokensFrom,
    Lexeme.atHead_unknown (Text.beyond_of_isStray isStray) noStart]
  rfl

/-- A word is scanned up to its first stray, and no further. -/
theorem ofSource_of_stray
    {front back : List Char} {stray : Char}
    (isWord : Name.isWord (front ++ stray :: back) = true)
    (known : ∀ c ∈ front, isStray c = false)
    (isStray : isStray stray = true) :
    ofSource (front ++ stray :: back) =
      .error ⟨.unexpectedText (String.ofList [stray]),
        ⟨byteLength front, byteLength front + stray.utf8Size⟩⟩ := by
  cases front with
  | nil => exact tokensFrom_stray isStray 0 false back
  | cons c tail =>
      rcases Name.isWord_cons.mp isWord with ⟨starts, continues⟩
      have isFront : Lexeme.isWord (c :: tail) = true := by
        refine Lexeme.isWord_iff.mpr ⟨Name.isWord_cons.mpr
          ⟨starts, fun d isIn => ?_⟩, known⟩
        exact continues d (List.mem_append_left _ isIn)
      have ends : Lexeme.EndsName (stray :: back) := by
        refine stops_cons.mpr ?_
        rw [← Bool.not_eq_true, Lexeme.continuesName_iff, isStray]
        simp
      have scans :
          Scans (stray :: back) 0 false
            (String.ofList (c :: tail)).toList
            [wordToken (String.ofList (c :: tail)) 0] _ :=
        scans_word (by rwa [String.toList_ofList]) ends
      rw [String.toList_ofList] at scans
      rw [ofSource, scans.tokensFrom_append, tokensFrom_stray isStray,
        Nat.zero_add]
      rfl

end Token

namespace Name

open Text (byteLength isStray)

/-- A text is scanned as one identifier exactly if it is an identifier without strays.  At the first
stray of an identifier the scanner finds no token. -/
theorem isIdentifier_scanned (name : String) :
    (Token.ofSource name.toList =
        .ok [⟨.identifier, name, ⟨0, byteLength name.toList⟩⟩,
          .lineEnd (byteLength name.toList),
          .endOfFile (byteLength name.toList)] ↔
      isIdentifier name = true ∧ ∀ c ∈ name.toList, isStray c = false) ∧
    ∀ front stray back,
      isIdentifier name = true → name.toList = front ++ stray :: back →
        (∀ c ∈ front, isStray c = false) → isStray stray = true →
          Token.ofSource name.toList =
            .error ⟨.unexpectedText (String.ofList [stray]),
              ⟨byteLength front, byteLength front + stray.utf8Size⟩⟩ := by
  refine ⟨Token.ofSource_eq_identifier_iff.trans Lexeme.isName_iff, ?_⟩
  intro front stray back isIdentifier shape known isStray
  have isWord := (isIdentifier_iff.mp isIdentifier).1
  rw [shape] at isWord ⊢
  exact Token.ofSource_of_stray isWord known isStray

/-- Letters and digits of other scripts are scanned, and a superscript is not. -/
theorem isIdentifier_scanned_scripts :
    Token.ofSource "größe٣".toList =
        .ok [⟨.identifier, "größe٣", ⟨0, 9⟩⟩, .lineEnd 9, .endOfFile 9] ∧
      isIdentifier "größe٣" = true ∧
      isIdentifier "x²y" = true ∧
      (∀ c ∈ ['x'], isStray c = false) ∧ isStray '²' = true ∧
      Token.ofSource "x²y".toList =
        .error ⟨.unexpectedText "²", ⟨1, 3⟩⟩ := by
  have noStray : ∀ c ∈ "größe٣".toList, isStray c = false :=
    List.forall_iff_forall_mem.mp (by decide +kernel)
  have isName : isIdentifier "größe٣" = true := by decide +kernel
  have isName' : isIdentifier "x²y" = true := by decide +kernel
  have known : ∀ c ∈ ['x'], isStray c = false :=
    List.forall_iff_forall_mem.mp (by decide +kernel)
  have stray : isStray '²' = true := by decide +kernel
  exact ⟨(isIdentifier_scanned "größe٣").1.mpr ⟨isName, noStray⟩, isName,
    isName', known, stray,
    (isIdentifier_scanned "x²y").2 ['x'] '²' ['y'] isName' rfl known
      stray⟩

/-- A superscript makes an identifier that the scanner rejects. -/
theorem isIdentifier_superscript :
    isIdentifier "x²" = true ∧
      Token.ofSource "x²".toList =
        .error ⟨.unexpectedText "²", ⟨1, 3⟩⟩ ∧
      ¬(isIdentifier "x²" = true ↔
        Token.ofSource "x²".toList =
          .ok [⟨.identifier, "x²", ⟨0, 3⟩⟩, .lineEnd 3, .endOfFile 3]) := by
  have isName : isIdentifier "x²" = true := by decide +kernel
  have fails :
      Token.ofSource "x²".toList =
        .error ⟨.unexpectedText "²", ⟨1, 3⟩⟩ := by
    decide +kernel
  refine ⟨isName, fails, fun agree => ?_⟩
  cases fails.symm.trans (agree.mp isName)

end Name

end GoUnion
