import GoUnion.Proofs.Lexing.Names
import GoUnion.Proofs.Lexing.Splice

/-!
# Replacing a piece of a text

A piece of a text between a reserved word and a token that ends a statement may
be replaced by a text that opens with the same word and may end a statement
too.  The tokens in front of the piece stay as they are, and those behind it say
what they said before.
-/

namespace GoUnion

open Text (Span byteLength byteLength_append takeBytes dropBytes)

/-- A text with another one in the place of a span. -/
def Text.Span.replace
    (span : Span) (replacement text : List Char) : List Char :=
  takeBytes span.start text ++ (replacement ++ dropBytes span.stop text)

theorem takeBytes_append (front back : List Char) :
    takeBytes (byteLength front) (front ++ back) = front := by
  induction front with
  | nil =>
      cases back with
      | nil => rfl
      | cons => rfl
  | cons c front ih =>
      have positive : 0 < c.utf8Size + byteLength front :=
        Nat.add_pos_left c.utf8Size_pos _
      rw [List.cons_append, byteLength, takeBytes,
        Nat.add_sub_cancel_left, ih]
      exact fun isZero => absurd isZero (Nat.ne_of_gt positive)

theorem dropBytes_append (front back : List Char) :
    dropBytes (byteLength front) (front ++ back) = back := by
  induction front with
  | nil =>
      cases back with
      | nil => rfl
      | cons => rfl
  | cons c front ih =>
      have positive : 0 < c.utf8Size + byteLength front :=
        Nat.add_pos_left c.utf8Size_pos _
      rw [List.cons_append, byteLength, dropBytes,
        Nat.add_sub_cancel_left, ih]
      exact fun isZero => absurd isZero (Nat.ne_of_gt positive)

namespace Token

theorem exists_atHead_of_mem
    {rest text : List Char} {offset : Nat} {pending final : Bool}
    {tokens : List Token} {token : Token}
    (scans : Scans rest offset pending text tokens final)
    (isIn : token ∈ tokens)
    (noSemicolon : token.kind ≠ .symbol .semicolon) :
    ∃ c tail more,
      Lexeme.atHead c (tail ++ more) = (.token token.kind, tail.length) ∧
        token.text = String.ofList (c :: tail) := by
  induction scans with
  | stop => cases isIn
  | @lexeme offset pending after final c tail text lexeme tokens others
      isHead leaves _ ih =>
      rcases List.mem_append.mp isIn with isFirst | isLater
      · rcases leave_cases leaves with rfl | rfl | ⟨kind, rfl, -, rfl⟩
        · cases isFirst
        · rw [List.mem_singleton.mp isFirst] at noSemicolon
          exact absurd rfl noSemicolon
        · rw [List.mem_singleton.mp isFirst]
          exact ⟨c, tail, text ++ rest, isHead, rfl⟩
      · exact ih isLater

theorem text_ne_empty_of_mem
    {rest text : List Char} {offset : Nat} {pending final : Bool}
    {tokens : List Token} {token : Token}
    (scans : Scans rest offset pending text tokens final)
    (isIn : token ∈ tokens)
    (noSemicolon : token.kind ≠ .symbol .semicolon) :
    token.text ≠ "" := by
  rcases exists_atHead_of_mem scans isIn noSemicolon with
    ⟨c, tail, -, -, isText⟩
  rw [isText, Ne, String.ofList_eq_empty_iff]
  exact List.cons_ne_nil c tail

theorem text_of_keyword
    {rest text : List Char} {offset : Nat} {pending final : Bool}
    {tokens : List Token} {token : Token} {word : Keyword}
    (scans : Scans rest offset pending text tokens final)
    (isIn : token ∈ tokens) (isWord : token.kind = .keyword word) :
    token.text = word.spelling := by
  have noSemicolon : token.kind ≠ .symbol .semicolon := by simp [isWord]
  rcases exists_atHead_of_mem scans isIn noSemicolon with
    ⟨c, tail, more, found, isText⟩
  rw [isWord] at found
  have spelled := Lexeme.spelling_of_atHead found
  rw [List.take_left] at spelled
  rw [isText, spelled, String.ofList_toList]

/-- Behind the last line stand only the tokens that the scanner adds there. -/
theorem not_mem_ending
    {token : Token} (noSemicolon : token.kind ≠ .symbol .semicolon)
    (noEnd : token.kind ≠ .endOfFile) (pending : Bool) (offset : Nat) :
    token ∉ lineEnd? pending offset ++ [endOfFile offset] := by
  intro isIn
  rcases List.mem_append.mp isIn with isMark | isEnd
  · cases pending with
    | false => cases isMark
    | true =>
        rw [List.mem_singleton.mp isMark] at noSemicolon
        exact noSemicolon rfl
  · rw [List.mem_singleton.mp isEnd] at noEnd
    exact noEnd rfl

/-- Where a token does not stand behind some tokens, it stands among those before. -/
theorem exists_split
    {front back used ending : List Token} {token : Token}
    (same : front ++ token :: back = used ++ ending)
    (notBehind : token ∉ ending) :
    ∃ middle, used = front ++ token :: middle ∧
      back = middle ++ ending := by
  rcases List.append_eq_append_iff.mp same with
    ⟨between, rfl, shape⟩ | ⟨between, rfl, shape⟩
  · cases between with
    | nil =>
        rw [List.nil_append] at shape
        rw [← shape] at notBehind
        exact absurd List.mem_cons_self notBehind
    | cons first between =>
        cases shape
        exact ⟨between, rfl, rfl⟩
  · rw [shape] at notBehind
    exact absurd (by simp) notBehind

/-- Another text may stand between a reserved word and a token that ends a statement. -/
theorem ofSource_replace
    {text replacement : List Char} {front middle back : List Token}
    {word closing : Token} {reserved : Keyword}
    {Holds : List Token → Prop}
    (scanned :
      ofSource text = .ok (front ++ word :: (middle ++ closing :: back)))
    (isWord : word.kind = .keyword reserved)
    (long : 3 ≤ reserved.spelling.toList.length)
    (ends : closing.kind.endsStatement = true)
    (opens : ∃ more, replacement = reserved.spelling.toList ++ more)
    (forms : ∀ offset pending rest, ∃ tokens,
      Scans rest offset pending replacement tokens true ∧ Holds tokens) :
    word.span.start ≤ closing.span.stop ∧
      ∃ inner back',
        ofSource (Span.replace ⟨word.span.start, closing.span.stop⟩
            replacement text) = .ok (front ++ (inner ++ back')) ∧
          words back = words back' ∧ Holds inner := by
  rcases scans_of_tokensFrom scanned with ⟨used, final, scans, shape⟩
  have noSemicolon : closing.kind ≠ .symbol .semicolon := by
    intro isMark
    rw [isMark] at ends
    cases ends
  have noEnd : closing.kind ≠ .endOfFile := by
    intro isEnd
    rw [isEnd] at ends
    cases ends
  have regroup :
      front ++ word :: (middle ++ closing :: back) =
        (front ++ word :: middle) ++ closing :: back := by
    simp
  rw [regroup] at shape
  rcases exists_split shape (not_mem_ending noSemicolon noEnd final _) with
    ⟨later, rfl, rfl⟩
  have wordText := text_of_keyword scans (by simp) isWord
  have closingText := text_ne_empty_of_mem scans (by simp) noSemicolon
  rw [List.append_assoc, List.cons_append] at scans
  rcases scans.cut (wordText ▸ by cases reserved <;> decide) with
    ⟨before, inside, behind, rfl, cut⟩
  rcases cut.scansBehind.cut closingText with
    ⟨before', inside', behind', rfl, cut'⟩
  have isInside : inside = reserved.spelling.toList := by
    have isText := cut.text
    rw [wordText] at isText
    rw [isText, String.toList_ofList]
  subst isInside
  rcases opens with ⟨more, rfl⟩
  rcases cut.scansBefore with ⟨between, scansBefore⟩
  rcases forms (0 + byteLength before) between (behind' ++ []) with
    ⟨inner, scansInner, holds⟩
  have scansBehind := cut'.scansBehind
  rw [ends] at scansBehind
  rcases scansBehind.shift (0 + byteLength before +
      byteLength (reserved.spelling.toList ++ more)) with
    ⟨later', scansLater, sameLater⟩
  have isStart : word.span.start = byteLength before := by
    rw [cut.start, Nat.zero_add]
  have isStop :
      closing.span.stop =
        byteLength
          (before ++ (reserved.spelling.toList ++ (before' ++ inside'))) := by
    rw [cut'.stop]
    simp only [byteLength_append]
    omega
  have replaced :
      Span.replace ⟨word.span.start, closing.span.stop⟩
          (reserved.spelling.toList ++ more)
          (before ++ (reserved.spelling.toList ++
            (before' ++ (inside' ++ behind')))) =
        before ++ ((reserved.spelling.toList ++ more) ++ behind') := by
    have whole :
        before ++ (reserved.spelling.toList ++
            (before' ++ (inside' ++ behind'))) =
          (before ++ (reserved.spelling.toList ++
            (before' ++ inside'))) ++ behind' := by
      simp
    rw [Span.replace, isStart, isStop, takeBytes_append, whole,
      dropBytes_append]
  have scansFront :
      Scans ((reserved.spelling.toList ++ more) ++ behind' ++ []) 0 false
        before front between := by
    rw [List.append_assoc, List.append_assoc]
    exact scansBefore.behind long _
  have scansAll :=
    (scansFront.append (scansInner.append scansLater)).ofSource
  constructor
  · rw [isStart, isStop, byteLength_append]
    exact Nat.le_add_right _ _
  · rw [replaced]
    refine ⟨inner, _,
      by rw [scansAll, List.append_assoc front, List.append_assoc inner],
      ?_, holds⟩
    simp only [words_append, sameLater]
    rw [words_lineEnd? final]
    rfl

end Token

end GoUnion
