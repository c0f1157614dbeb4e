import GoUnion.Proofs.Lexing.Extent

/-!
# Names in source text

What the scanner takes for an identifier.  A word is a run of name characters;
it is a name unless it is reserved.  Text that is a word to the scanner is one
wherever no name character stands behind it.
-/

namespace GoUnion.Lexeme

/-- Whether a text is a run of name characters that opens like a name. -/
def isWord : List Char → Bool
  | [] => false
  | c :: tail => startsName c && tail.all continuesName

theorem isWord_cons {c : Char} {tail : List Char} :
    isWord (c :: tail) = true ↔
      startsName c = true ∧ ∀ d ∈ tail, continuesName d = true := by
  rw [isWord, Bool.and_eq_true, List.all_eq_true]

/-- A text that the scanner takes for an identifier. -/
structure IsName (name : String) : Prop where
  word : isWord name.toList = true
  notReserved : Keyword.ofString? name = none

instance (name : String) : Decidable (IsName name) :=
  decidable_of_iff
    (isWord name.toList = true ∧ Keyword.ofString? name = none)
    ⟨fun ⟨word, notReserved⟩ => ⟨word, notReserved⟩,
      fun ⟨word, notReserved⟩ => ⟨word, notReserved⟩⟩

theorem IsName.ne_empty {name : String} (isName : IsName name) :
    name ≠ "" := by
  rintro rfl
  have word := isName.word
  cases word

theorem IsName.opens {name : String} (isName : IsName name) :
    ∃ c tail, name.toList = c :: tail ∧ startsName c = true := by
  have valid := isName.word
  rcases shape : name.toList with _ | ⟨c, tail⟩
  · rw [shape] at valid
    cases valid
  · rw [shape] at valid
    exact ⟨c, tail, rfl, (isWord_cons.mp valid).1⟩

/-- No character of a class is next. -/
def Stops (inClass : Char → Bool) (text : List Char) : Prop :=
  ∀ c ∈ text.head?, inClass c = false

variable {inClass : Char → Bool}

@[simp]
theorem stops_nil : Stops inClass [] := by
  intro c isHead
  cases isHead

@[simp]
theorem stops_cons {c : Char} {tail : List Char} :
    Stops inClass (c :: tail) ↔ inClass c = false := by
  simp [Stops]

theorem takeWhile_of_stops
    {front rest : List Char}
    (each : ∀ c ∈ front, inClass c = true) (stops : Stops inClass rest) :
    (front ++ rest).takeWhile inClass = front := by
  rw [List.takeWhile_append_of_pos each]
  cases rest with
  | nil => simp
  | cons c later => simp [stops_cons.mp stops]

/-- No name character is next. -/
abbrev EndsName : List Char → Prop :=
  Stops continuesName

/-- A character that starts a name starts nothing else. -/
theorem atHead_of_startsName
    {c : Char} (starts : startsName c = true) (rest : List Char) :
    atHead c rest = nameAtHead c rest := by
  have noNewline : c ≠ '\n' := by
    rintro rfl
    revert starts
    decide
  have noSlash : c ≠ '/' := by
    rintro rfl
    revert starts
    decide
  have noGap : ¬isGap c = true := by
    intro gap
    simp only [isGap, Bool.or_eq_true, decide_eq_true_eq] at gap
    rcases gap with ((rfl | rfl) | rfl) | rfl
    all_goals
      revert starts
      decide
  rw [atHead, if_neg noNewline, if_neg noGap, if_neg noSlash,
    if_pos starts]

/-- The kind of token that a word is. -/
def wordKind (word : String) : TokenKind :=
  match Keyword.ofString? word with
  | some reserved => .keyword reserved
  | none => .identifier

theorem IsName.wordKind_eq {name : String} (isName : IsName name) :
    wordKind name = .identifier := by
  rw [wordKind, isName.notReserved]

theorem atHead_word
    {c : Char} {tail rest : List Char}
    (starts : startsName c = true)
    (continues : ∀ d ∈ tail, continuesName d = true)
    (ends : EndsName rest) :
    atHead c (tail ++ rest) =
      (.token (wordKind (String.ofList (c :: tail))), tail.length) := by
  rw [atHead_of_startsName starts, nameAtHead,
    takeWhile_of_stops continues ends, wordKind]
  cases Keyword.ofString? (String.ofList (c :: tail)) with
  | none => rfl
  | some reserved => rfl

/-! ## What the scanner finds -/

/-- Whatever a scanner finds has some property. -/
def Finds
    (property : Lexeme → Prop) (scanner : List Char → Lexeme × Nat) :
    Prop :=
  ∀ rest lexeme extra, scanner rest = (lexeme, extra) → property lexeme

/-- A property of everything that is found apart from names, string literals, gaps and comments. -/
structure HoldsOfMarks (property : Lexeme → Prop) : Prop where
  unknown : property .unknown
  fixed : ∀ entry ∈ fixed, property (.token entry.2)
  number : property (.token .number)
  rune : property (.token .rune)

section

variable {property : Lexeme → Prop}

theorem finds_ite
    {first second : List Char → Lexeme × Nat} (condition : Prop)
    [Decidable condition] (finds : condition → Finds property first)
    (finds' : ¬condition → Finds property second) :
    Finds property fun rest =>
      if condition then first rest else second rest := by
  by_cases holds : condition
  · simpa only [if_pos holds] using finds holds
  · simpa only [if_neg holds] using finds' holds

theorem finds_lexeme
    {lexeme : Lexeme} (holds : property lexeme)
    (measure : List Char → Nat) :
    Finds property fun rest => (lexeme, measure rest) := by
  intro rest found extra same
  cases same
  exact holds

theorem finds_literal
    {kind : TokenKind} (unknown : property .unknown)
    (holds : property (.token kind)) (search : List Char → Bool × Nat) :
    Finds property fun rest => literal kind (search rest) := by
  intro rest lexeme extra found
  dsimp only at found
  rcases searched : search rest with ⟨closed, count⟩
  rw [searched] at found
  cases closed with
  | false =>
      cases found
      exact unknown
  | true =>
      cases found
      exact holds

theorem finds_fixedAtHead (marks : HoldsOfMarks property) (c : Char) :
    Finds property (fixedAtHead c) := by
  intro rest lexeme extra found
  rw [fixedAtHead] at found
  split at found
  case h_1 entry kind isLongest =>
    cases found
    exact marks.fixed _ (longest_eq_some isLongest).1
  case h_2 =>
    cases found
    exact marks.unknown

theorem finds_runeAtHead (marks : HoldsOfMarks property) :
    Finds property runeAtHead := by
  intro rest lexeme extra found
  unfold runeAtHead at found
  split at found
  · cases found
    exact marks.unknown
  · exact finds_literal marks.unknown marks.rune _ rest lexeme extra found

theorem finds_pointAtHead (marks : HoldsOfMarks property) :
    Finds property pointAtHead := by
  intro rest lexeme extra found
  cases rest with
  | nil => exact finds_fixedAtHead marks '.' [] lexeme extra found
  | cons c tail =>
      rw [pointAtHead] at found
      split at found
      · cases found
        exact marks.number
      · exact finds_fixedAtHead marks _ _ _ _ found

/-- What is found has a property, if this holds of what gaps, comments, names and string literals
are found as. -/
theorem finds_atHead
    {c : Char} (marks : HoldsOfMarks property)
    (newline : c = '\n' → property .newline)
    (gap : isGap c = true → property .gap)
    (slash : c = '/' → Finds property slashAtHead)
    (name : startsName c = true → Finds property (nameAtHead c))
    (quoted : c = '"' → property (.token .string))
    (raw : c = '\x60' → property (.token .rawString)) :
    Finds property (atHead c) := by
  refine finds_ite _ (fun holds => finds_lexeme (newline holds) _)
    fun _ => ?_
  refine finds_ite _ (fun holds => finds_lexeme (gap holds) _) fun _ => ?_
  refine finds_ite _ slash fun _ => ?_
  refine finds_ite _ name fun _ => ?_
  refine finds_ite _ (fun _ => finds_lexeme marks.number _) fun _ => ?_
  refine finds_ite _ (fun _ => finds_pointAtHead marks) fun _ => ?_
  refine finds_ite _
    (fun holds => finds_literal marks.unknown (quoted holds) _) fun _ => ?_
  refine finds_ite _
    (fun holds => finds_literal marks.unknown (raw holds) _) fun _ => ?_
  exact finds_ite _ (fun _ => finds_runeAtHead marks)
    fun _ => finds_fixedAtHead marks c

end

/-! ## Classes of tokens -/

/-- A lexeme is no token of a class. -/
def Avoids (isKind : TokenKind → Bool) (lexeme : Lexeme) : Prop :=
  ∀ kind, lexeme = .token kind → isKind kind = false

section

variable {isKind : TokenKind → Bool}

@[simp]
theorem avoids_token {kind : TokenKind} :
    Avoids isKind (.token kind) ↔ isKind kind = false := by
  constructor
  · intro avoids
    exact avoids kind rfl
  · rintro isOther kind' ⟨⟩
    exact isOther

theorem avoids_other
    {lexeme : Lexeme} (isOther : ∀ kind, lexeme ≠ .token kind) :
    Avoids isKind lexeme :=
  fun kind same => absurd same (isOther kind)

theorem holdsOfMarks_avoids
    (noFixed : ∀ entry ∈ fixed, isKind entry.2 = false)
    (noNumber : isKind .number = false) (noRune : isKind .rune = false) :
    HoldsOfMarks (Avoids isKind) where
  unknown := avoids_other (by simp)
  fixed := fun entry isIn => avoids_token.mpr (noFixed entry isIn)
  number := avoids_token.mpr noNumber
  rune := avoids_token.mpr noRune

theorem finds_slashAtHead (marks : HoldsOfMarks (Avoids isKind)) :
    Finds (Avoids isKind) slashAtHead := by
  intro rest lexeme extra found
  unfold slashAtHead at found
  split at found
  · cases found
    exact avoids_other (by simp)
  · split at found
    · cases found
      exact avoids_other (by simp)
    · cases found
      exact avoids_other (by simp)
  · exact finds_fixedAtHead marks _ _ _ _ found

/-- A class without operators, numbers and runes is found among names and strings only. -/
theorem avoids_atHead
    {c : Char} (marks : HoldsOfMarks (Avoids isKind))
    (name : startsName c = true → Finds (Avoids isKind) (nameAtHead c))
    (quoted : c = '"' → isKind .string = false)
    (raw : c = '\x60' → isKind .rawString = false) :
    Finds (Avoids isKind) (atHead c) :=
  finds_atHead marks (fun _ => avoids_other (by simp))
    (fun _ => avoids_other (by simp)) (fun _ => finds_slashAtHead marks)
    name (fun holds => avoids_token.mpr (quoted holds))
    (fun holds => avoids_token.mpr (raw holds))

end

/-! ## What the scanner takes for a word -/

/-- Whether a token is an identifier or a reserved word. -/
def isWordKind : TokenKind → Bool
  | .identifier | .keyword _ => true
  | _ => false

/-- What does not start like a name is no word. -/
theorem avoidsWord_atHead
    {c : Char} (noStart : ¬startsName c = true) :
    Finds (Avoids isWordKind) (atHead c) :=
  avoids_atHead (holdsOfMarks_avoids (by decide) rfl rfl)
    (fun starts => absurd starts noStart) (fun _ => rfl) (fun _ => rfl)

/-- What the scanner finds at the start of a name is a word as long as it goes. -/
theorem taken_of_nameAtHead
    {c : Char} {rest : List Char} {lexeme : Lexeme} {extra : Nat}
    (found : nameAtHead c rest = (lexeme, extra)) :
    rest.take extra = rest.takeWhile continuesName ∧
      lexeme =
        .token (wordKind (String.ofList (c :: rest.take extra))) := by
  have taken :
      rest.take (rest.takeWhile continuesName).length =
        rest.takeWhile continuesName :=
    (List.prefix_iff_eq_take.mp
      (List.takeWhile_prefix continuesName)).symm
  rw [nameAtHead] at found
  split at found
  case h_1 word isWord =>
    cases found
    rw [taken, wordKind, isWord]
    exact ⟨rfl, rfl⟩
  case h_2 notReserved =>
    cases found
    rw [taken, wordKind, notReserved]
    exact ⟨rfl, rfl⟩

theorem isName_of_atHead
    {c : Char} {rest : List Char} {extra : Nat}
    (found : atHead c rest = (.token .identifier, extra)) :
    IsName (String.ofList (c :: rest.take extra)) := by
  by_cases starts : startsName c = true
  · rw [atHead_of_startsName starts] at found
    rcases taken_of_nameAtHead found with ⟨taken, isWord⟩
    have notReserved :
        Keyword.ofString? (String.ofList (c :: rest.take extra)) =
          none := by
      rw [wordKind] at isWord
      split at isWord
      case h_1 => cases isWord
      case h_2 notReserved => exact notReserved
    refine ⟨?_, notReserved⟩
    rw [String.toList_ofList, taken]
    exact isWord_cons.mpr
      ⟨starts, List.all_eq_true.mp List.all_takeWhile⟩
  · cases avoidsWord_atHead starts rest _ extra found _ rfl

/-- A reserved word is written as it is spelled. -/
theorem spelling_of_atHead
    {c : Char} {rest : List Char} {extra : Nat} {word : Keyword}
    (found : atHead c rest = (.token (.keyword word), extra)) :
    c :: rest.take extra = word.spelling.toList := by
  by_cases starts : startsName c = true
  · rw [atHead_of_startsName starts] at found
    rcases taken_of_nameAtHead found with ⟨-, isWord⟩
    have reserved :
        Keyword.ofString? (String.ofList (c :: rest.take extra)) =
          some word := by
      rw [wordKind] at isWord
      split at isWord
      case h_1 reserved =>
        cases isWord
        exact reserved
      case h_2 => cases isWord
    rw [Keyword.ofString?] at reserved
    have spelled := List.find?_some reserved
    rw [beq_iff_eq.mp spelled, String.toList_ofList]
  · cases avoidsWord_atHead starts rest _ extra found _ rfl

end GoUnion.Lexeme
