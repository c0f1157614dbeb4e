import GoUnion.Proofs.Constraints.Comments
import Mathlib.Data.List.Infix
import Mathlib.Data.Prod.Lex
import Mathlib.Order.Monotone.Basic

/-!
# Lines and columns identify offsets

The place behind a text is the line and the column of what would come next.  One
more character takes the place to the start of the next line, or one column on,
so places grow in the lexicographic order with the text in front of them.
Therefore the boundaries of a text have different places, and an offset is found
again as the length of the beginning of the text that has its place.

A location is printed with its file, line and column.  A number has no colon in
it, so the two numbers can be told apart, and offsets that are printed alike are
the same.
-/

namespace GoUnion.Text

open Build.Header (Whole exists_last_line)

/-! ## The place behind a text -/

/-- The line and the column behind a text, counted from one. -/
def place (before : List Char) : Nat × Nat :=
  (before.count '\n' + 1, (Location.lastLine before).length + 1)

theorem Location.lastLine_concat_newline (before : List Char) :
    lastLine (before ++ ['\n']) = [] := by
  simp [lastLine]

theorem Location.lastLine_concat
    {c : Char} (different : c ≠ '\n') (before : List Char) :
    lastLine (before ++ [c]) = lastLine before ++ [c] := by
  simp [lastLine, different]

/-- One more character takes the place to the next line, or one column on. -/
theorem place_concat (before : List Char) (c : Char) :
    place (before ++ [c]) =
      if c = '\n' then ((place before).1 + 1, 1)
      else ((place before).1, (place before).2 + 1) := by
  split
  case isTrue isNewline =>
    rw [isNewline]
    simp [place, Location.lastLine_concat_newline]
  case isFalse different =>
    simp [place, Location.lastLine_concat different, different]

theorem place_lt_concat (before : List Char) (c : Char) :
    toLex (place before) < toLex (place (before ++ [c])) := by
  rw [place_concat, Prod.Lex.toLex_lt_toLex]
  split
  case isTrue => exact .inl (Nat.lt_succ_self _)
  case isFalse => exact .inr ⟨rfl, Nat.lt_succ_self _⟩

/-- The place moves on with whatever is added. -/
theorem place_lt_append
    (before : List Char) {middle : List Char} (notEmpty : middle ≠ []) :
    toLex (place before) < toLex (place (before ++ middle)) := by
  induction middle using List.reverseRecOn with
  | nil => exact absurd rfl notEmpty
  | append_singleton middle c ih =>
      have step := place_lt_concat (before ++ middle) c
      rw [← List.append_assoc]
      by_cases isEmpty : middle = []
      · subst isEmpty
        rwa [List.append_nil] at step ⊢
      · exact (ih isEmpty).trans step

/-- The later of two boundaries of a text has the later place. -/
theorem strictMonoOn_place (text : List Char) :
    StrictMonoOn (fun offset => toLex (place (takeBytes offset text)))
      {offset | IsBoundary text offset} := by
  intro offset isBoundary offset' isBoundary' before
  rcases isBoundary.split with ⟨front, back, whole, rfl⟩
  rcases isBoundary'.split with ⟨front', back', whole', rfl⟩
  rcases exists_append_of_byteLength_le (whole.symm.trans whole')
    (Nat.le_of_lt before) with ⟨middle, rfl, -⟩
  have notEmpty : middle ≠ [] := by
    rintro rfl
    rw [List.append_nil] at before
    exact Nat.lt_irrefl _ before
  dsimp only
  rw [whole, takeBytes_append, ← whole, whole', takeBytes_append]
  exact place_lt_append front notEmpty

/-! ## Finding an offset again -/

/-- The offset in a text with a certain line and column. -/
def offset? (text : List Char) (line column : Nat) : Option Nat :=
  (text.inits.find? (place · = (line, column))).map byteLength

/-- A boundary is found by its place. -/
theorem offset?_eq_some_iff
    {text : List Char} {line column offset : Nat} :
    offset? text line column = some offset ↔
      IsBoundary text offset ∧
        place (takeBytes offset text) = (line, column) := by
  constructor
  · intro finds
    rcases Option.map_eq_some_iff.mp finds with ⟨before, found, rfl⟩
    have isPlace := List.find?_some found
    rcases (List.mem_inits _ _).mp (List.mem_of_find?_eq_some found) with
      ⟨behind, rfl⟩
    rw [takeBytes_append]
    exact ⟨isBoundary_append before behind, of_decide_eq_true isPlace⟩
  · rintro ⟨isBoundary, isPlace⟩
    rw [offset?, Option.map_eq_some_iff]
    cases found : text.inits.find? (place · = (line, column)) with
    | none =>
        have isBeginning : takeBytes offset text ∈ text.inits :=
          (List.mem_inits _ _).mpr
            ⟨_, takeBytes_append_dropBytes offset text⟩
        have noPlace := List.find?_eq_none.mp found _ isBeginning
        exact absurd (decide_eq_true isPlace) noPlace
    | some before =>
        refine ⟨before, rfl, ?_⟩
        have isPlace' := List.find?_some found
        rcases (List.mem_inits _ _).mp
          (List.mem_of_find?_eq_some found) with ⟨behind, rfl⟩
        have isBoundary' := isBoundary_append before behind
        refine (strictMonoOn_place _).injOn isBoundary' isBoundary ?_
        rw [takeBytes_append, isPlace]
        exact congrArg toLex (of_decide_eq_true isPlace')

/-- All characters start before the end of their text. -/
theorem takeBytes_of_le
    {text : List Char} {bytes : Nat} (enough : byteLength text ≤ bytes) :
    takeBytes bytes text = text := by
  induction text generalizing bytes with
  | nil => cases bytes <;> rfl
  | cons c rest ih =>
      have positive := c.utf8Size_pos
      rw [byteLength] at enough
      rw [takeBytes, ih (by omega)]
      omega

/-! ## Printed locations -/

/-- A number is told by its digits. -/
theorem toDigits_injective : Function.Injective (Nat.toDigits 10) :=
  Function.LeftInverse.injective (g := (Nat.ofDigitChars 10 · 0))
    fun _ => Nat.ofDigitChars_ten_toDigits

/-- No digit is a colon. -/
theorem ne_colon_of_mem_toDigits
    {number : Nat} : ∀ c ∈ Nat.toDigits 10 number, decide (c ≠ ':') = true := by
  intro c isIn
  have isDigit := Nat.isDigit_of_mem_toDigits (by decide) (by decide) isIn
  rw [decide_eq_true_eq]
  rintro rfl
  revert isDigit
  decide

/-- Two numbers with a colon between them are told apart. -/
theorem numbers_of_colon
    {first second first' second' : Nat}
    (same :
      Nat.toDigits 10 first ++ ':' :: Nat.toDigits 10 second =
        Nat.toDigits 10 first' ++ ':' :: Nat.toDigits 10 second') :
    first = first' ∧ second = second' := by
  have stops (rest : List Char) : Lexeme.Stops (· ≠ ':') (':' :: rest) := by
    simp
  have firsts := congrArg (List.takeWhile (· ≠ ':')) same
  rw [Lexeme.takeWhile_of_stops ne_colon_of_mem_toDigits (stops _),
    Lexeme.takeWhile_of_stops ne_colon_of_mem_toDigits (stops _)] at firsts
  rw [firsts] at same
  have seconds := List.tail_eq_of_cons_eq (List.append_cancel_left same)
  exact ⟨toDigits_injective firsts, toDigits_injective seconds⟩

namespace Location

theorem toList_render (location : Location) :
    location.render.toList =
      (location.file.toList ++ [':']) ++
        (Nat.toDigits 10 location.line ++
          ':' :: Nat.toDigits 10 location.column) := by
  simp [render, toString, String.toList_append, List.append_assoc]

/-- In one file, locations that are printed alike have the same line and column. -/
theorem place_of_render
    {location location' : Location}
    (sameFile : location.file = location'.file)
    (same : location.render = location'.render) :
    location.line = location'.line ∧
      location.column = location'.column := by
  have chars := congrArg String.toList same
  rw [toList_render, toList_render, sameFile] at chars
  exact numbers_of_colon (List.append_cancel_left chars)

/-! ## Locations of spans -/

/-- A location at a boundary counts the newlines in front of it, and the characters behind the last
of them. -/
theorem ofSpan_of_boundary
    (file : String) {text : List Char} {span : Span}
    (isBoundary : IsBoundary text span.start) :
    ∃ front line behind,
      text = front ++ (line ++ behind) ∧ Whole front ∧ '\n' ∉ line ∧
        span.start = byteLength (front ++ line) ∧
        (ofSpan file text span).line =
          1 + (front ++ line).count '\n' ∧
        (ofSpan file text span).column = 1 + line.length := by
  rcases isBoundary.split with ⟨before, behind, rfl, isStart⟩
  rcases exists_last_line before with ⟨front, line, rfl, whole, noNewline⟩
  refine ⟨front, line, behind, by simp, whole, noNewline, isStart, ?_, ?_⟩
  all_goals
    rw [ofSpan, isStart, takeBytes_append]
    dsimp only
  · exact Nat.add_comm _ _
  · rw [lastLine_append whole noNewline, Nat.add_comm]

/-- What starts behind the end of a text is located at the end. -/
theorem ofSpan_of_beyond
    (file : String) {text : List Char} {span : Span}
    (beyond : byteLength text ≤ span.start) :
    ofSpan file text span =
      { ofSpan file text (.point (byteLength text)) with span } := by
  rw [ofSpan, ofSpan, takeBytes_of_le beyond, Span.point,
    takeBytes_of_le (Nat.le_refl _)]

/-- The line of a location counts the newlines in front of it and its column the characters behind
the last of them.  Both together grow with the offset, are printed differently for different
offsets, and give the offset back.  What starts behind the end is located at the end. -/
theorem ofSpan_identifies
    (file : String) {text : List Char} {span span' : Span}
    (isBoundary : IsBoundary text span.start)
    (isBoundary' : IsBoundary text span'.start) :
    let location := ofSpan file text span
    let location' := ofSpan file text span'
    (∃ front line behind,
      text = front ++ (line ++ behind) ∧ Whole front ∧ '\n' ∉ line ∧
        span.start = byteLength (front ++ line) ∧
        location.line = 1 + (front ++ line).count '\n' ∧
        location.column = 1 + line.length) ∧
      (toLex (location.line, location.column) <
          toLex (location'.line, location'.column) ↔
        span.start < span'.start) ∧
      (location.render = location'.render ↔ span.start = span'.start) ∧
      offset? text location.line location.column = some span.start ∧
      ∀ beyond : Span, byteLength text ≤ beyond.start →
        ofSpan file text beyond =
          { ofSpan file text (.point (byteLength text)) with
            span := beyond } := by
  intro location location'
  have found :
      offset? text location.line location.column = some span.start :=
    offset?_eq_some_iff.mpr ⟨isBoundary, rfl⟩
  have found' :
      offset? text location'.line location'.column = some span'.start :=
    offset?_eq_some_iff.mpr ⟨isBoundary', rfl⟩
  refine ⟨ofSpan_of_boundary file isBoundary,
    (strictMonoOn_place text).lt_iff_lt isBoundary isBoundary', ?_, found,
    fun beyond => ofSpan_of_beyond file⟩
  constructor
  · intro same
    have sameFile : location.file = location'.file := rfl
    rcases place_of_render sameFile same with ⟨sameLine, sameColumn⟩
    rw [sameLine, sameColumn, found'] at found
    exact (Option.some_inj.mp found).symm
  · intro same
    have sameFile : location.file = location'.file := rfl
    have sameLine : location.line = location'.line := by
      dsimp only [location, location', ofSpan]
      rw [same]
    have sameColumn : location.column = location'.column := by
      dsimp only [location, location', ofSpan]
      rw [same]
    rw [render, render, sameFile, sameLine, sameColumn]

/-- Behind a character of two bytes, an empty line and a part of a line. -/
theorem ofSpan_identifies_lines :
    let text := "é\n\nx".toList
    IsBoundary text 2 ∧ IsBoundary text 4 ∧ byteLength text ≤ 9 ∧
      ofSpan "a.go" text ⟨2, 3⟩ = ⟨"a.go", ⟨2, 3⟩, 1, 2⟩ ∧
      ofSpan "a.go" text ⟨4, 5⟩ = ⟨"a.go", ⟨4, 5⟩, 3, 1⟩ ∧
      toLex (1, 2) < toLex (3, 1) ∧
      (ofSpan "a.go" text ⟨2, 3⟩).render ≠
        (ofSpan "a.go" text ⟨4, 5⟩).render ∧
      offset? text 1 2 = some 2 ∧
      ofSpan "a.go" text ⟨9, 9⟩ = ⟨"a.go", ⟨9, 9⟩, 3, 2⟩ := by
  intro text
  have isBoundary : IsBoundary text 2 := by decide
  have isBoundary' : IsBoundary text 4 := by decide
  have beyond : byteLength text ≤ 9 := by decide
  rcases @ofSpan_identifies "a.go" text ⟨2, 3⟩ ⟨4, 5⟩ isBoundary isBoundary'
    with ⟨-, ordered, printed, found, atEnd⟩
  refine ⟨isBoundary, isBoundary', beyond, by decide, by decide,
    ordered.mpr (by decide), ?_, found, ?_⟩
  · intro same
    exact absurd (printed.mp same) (by decide)
  · rw [atEnd ⟨9, 9⟩ beyond]
    decide

end Location

end GoUnion.Text
