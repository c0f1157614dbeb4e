import GoUnion.Proofs.Constraints.Lines

/-!
# Block comments in headers

A block comment may go over several lines, and the reader of headers looks for
its end on each of them, without the white space around the line.  It finds the
same end as a search through the whole text.  Behind it, the line may hold white
space only, else the header ends there.
-/

namespace GoUnion

namespace Text

variable {pattern front body text : List Char} {c : Char}

/-! ## Searching for a mark -/

theorem cutAt_eq_none
    (absent : ¬pattern <:+: text) : cutAt pattern text = none := by
  induction text with
  | nil =>
      have nonempty : pattern.isEmpty = false := by
        cases pattern with
        | nil => exact absurd List.nil_infix absent
        | cons => rfl
      rw [cutAt, nonempty]
      rfl
  | cons c rest ih =>
      rw [List.infix_cons_iff, not_or] at absent
      have notHere : pattern.isPrefixOf? (c :: rest) = none := by
        cases found : pattern.isPrefixOf? (c :: rest) with
        | none => rfl
        | some after =>
            rw [List.isPrefixOf?_eq_some_iff_append_eq] at found
            exact absurd ⟨after, found⟩ absent.1
      rw [cutAt, notHere]
      dsimp only
      rw [ih absent.2]
      rfl

/-- A text is cut where a comment is first closed. -/
theorem cutAt_closing
    (closesOnce : ¬['*', '/'] <:+: body) (rest : List Char) :
    cutAt ['*', '/'] (body ++ '*' :: '/' :: rest) = some (body, rest) := by
  induction body with
  | nil => rfl
  | cons c body ih =>
      rw [List.infix_cons_iff, not_or] at closesOnce
      have notHere :
          ['*', '/'].isPrefixOf? (c :: (body ++ '*' :: '/' :: rest)) =
            none := by
        cases found :
            ['*', '/'].isPrefixOf? (c :: (body ++ '*' :: '/' :: rest)) with
        | none => rfl
        | some after =>
            rw [List.isPrefixOf?_eq_some_iff_append_eq] at found
            cases body with
            | nil => cases found
            | cons d body =>
                cases found
                exact absurd ⟨body, rfl⟩ closesOnce.1
      rw [List.cons_append, cutAt, notHere]
      dsimp only
      rw [ih closesOnce.2]
      rfl

/-! ## White space at the start -/

theorem trim_eq_nil : trim text = [] ↔ Blank text := by
  constructor
  · intro isEmpty
    have isBlank := trimEnd_eq_nil.mp isEmpty
    rcases exists_blank text with ⟨blank, isBlank', shape⟩
    rw [shape]
    exact List.forall_mem_append.mpr ⟨isBlank', isBlank⟩
  · intro isBlank
    rw [trim, trimStart_eq_nil.mpr isBlank]
    rfl

theorem trimStart_append_cons
    (solid : isBlank c = false) (front text : List Char) :
    trimStart (front ++ c :: text) = trimStart front ++ c :: text := by
  rw [trimStart, List.dropWhile_append]
  split
  case isTrue isEmpty =>
    rw [trimStart, List.isEmpty_iff.mp isEmpty]
    exact trimStart_of_starts solid
  case isFalse => rfl

theorem trimStart_suffix (text : List Char) : trimStart text <:+ text :=
  List.dropWhile_suffix isBlank

end Text

namespace Build.Header

open Text (Blank isBlank byteLength trim trimStart trimEnd)

variable {front body indent line text : List Char} {commentOpen : Bool}

/-! ## Lines with block comments -/

/-- What follows a comment that is closed on a line decides whether the header goes on. -/
theorem afterOpening_closed
    (closesOnce : ¬['*', '/'] <:+: body) (more : List Char) :
    afterOpening (body ++ '*' :: '/' :: trimEnd more) =
      if Blank more then .plain else .ends := by
  have same : (trim (trimEnd more)).isEmpty = true ↔ Blank more := by
    rw [Text.trim_trimEnd, List.isEmpty_iff, Text.trim_eq_nil]
  rw [afterOpening, Text.cutAt_closing closesOnce]
  dsimp only
  exact if_congr same rfl rfl

theorem afterOpening_open (absent : ¬['*', '/'] <:+: body) :
    afterOpening body = .opens := by
  rw [afterOpening, Text.cutAt_eq_none absent]

theorem trimEnd_closing (front more : List Char) :
    trimEnd (front ++ '*' :: '/' :: more) =
      front ++ '*' :: '/' :: trimEnd more :=
  Text.trimEnd_append_word (List.cons_ne_nil '*' ['/']) (by decide) front
    more

/-- A line that closes a comment, by what follows it there. -/
theorem classify_closing
    (closesOnce : ¬['*', '/'] <:+: body) (more : List Char) :
    classify true (body ++ '*' :: '/' :: more) =
      if Blank more then .plain else .ends := by
  rw [classify, trim, Text.trimStart_append_cons (by decide),
    trimEnd_closing]
  refine afterOpening_closed (fun isInfix => closesOnce ?_) more
  exact isInfix.trans (Text.trimStart_suffix body).isInfix

theorem classify_inside (absent : ¬['*', '/'] <:+: line) :
    classify true line = .opens := by
  rw [classify, if_pos rfl]
  refine afterOpening_open fun isInfix => absent (isInfix.trans ?_)
  exact (Text.trimEnd_prefix _).isInfix.trans
    (Text.trimStart_suffix line).isInfix

theorem classify_opening
    (isIndent : Blank indent) (rest : List Char) :
    classify false (indent ++ '/' :: '*' :: rest) =
      afterOpening (trimEnd rest) := by
  have mark :
      trimEnd ('/' :: '*' :: rest) = '/' :: '*' :: trimEnd rest :=
    Text.trimEnd_append_cons (by decide) ['/'] rest
  rw [classify, trim, Text.trimStart_blank_append isIndent,
    Text.trimStart_of_starts (by decide), mark]
  rfl

/-- No line inside of a block comment constrains the build. -/
theorem constraints_inside
    (whole : Whole front) (absent : ¬['*', '/'] <:+: front) (offset : Nat)
    (rest : List Char) :
    constraints offset true (front ++ rest) =
      constraints (offset + byteLength front) true rest := by
  induction front using lines_induction generalizing offset with
  | last line noNewline =>
      obtain rfl := whole.eq_nil noNewline
      rfl
  | line line others noNewline ih =>
      have absentHere : ¬['*', '/'] <:+: line :=
        fun isInfix => absent (isInfix.trans ⟨[], '\n' :: others, rfl⟩)
      have absentLater : ¬['*', '/'] <:+: others :=
        fun isInfix =>
          absent (isInfix.trans ⟨line ++ ['\n'], [], by simp⟩)
      rw [List.append_assoc, List.cons_append, constraints_line noNewline,
        classify_inside absentHere]
      change constraints _ true (others ++ rest) = _
      rw [ih whole.later absentLater, List.append_cons line _ others,
        Text.byteLength_append _ others, Nat.add_assoc]

/-! ## Block comments -/

/-- A line was passed up to the end of a block comment: only white space may follow. -/
def Closed (commentOpen : Bool) (passed : List Char) : Prop :=
  ∀ more, classify commentOpen (passed ++ more) =
    if Blank more then .plain else .ends

/-- Behind a block comment that opens on a line, the last line of the comment was passed. -/
theorem exists_closed
    (isIndent : Blank indent) (inLine : '\n' ∉ indent)
    (closesOnce : ¬['*', '/'] <:+: body) :
    ∃ lines passed commentOpen,
      indent ++ '/' :: '*' :: (body ++ ['*', '/']) = lines ++ passed ∧
      Whole lines ∧ '\n' ∉ passed ∧ Closed commentOpen passed ∧
      ∀ offset rest,
        constraints offset false (lines ++ (passed ++ rest)) =
          constraints (offset + byteLength lines) commentOpen
            (passed ++ rest) := by
  induction body using lines_induction with
  | last body noNewline =>
      refine ⟨[], indent ++ '/' :: '*' :: (body ++ ['*', '/']), false, rfl,
        whole_nil, by simp [inLine, noNewline], ?_, fun _ _ => rfl⟩
      intro more
      rw [List.append_assoc, List.cons_append, List.cons_append,
        List.append_assoc, classify_opening isIndent]
      change afterOpening (trimEnd (body ++ '*' :: '/' :: more)) = _
      rw [trimEnd_closing, afterOpening_closed closesOnce]
  | line line rest noNewline _ =>
      rcases exists_last_line rest with
        ⟨inside, last, rfl, whole, noNewline'⟩
      have absentHere : ¬['*', '/'] <:+: trimEnd line :=
        fun isInfix => closesOnce (isInfix.trans
          ((Text.trimEnd_prefix line).isInfix.trans
            ⟨[], '\n' :: (inside ++ last), rfl⟩))
      have absentInside : ¬['*', '/'] <:+: inside :=
        fun isInfix => closesOnce
          (isInfix.trans ⟨line ++ ['\n'], last, by simp⟩)
      have closesLast : ¬['*', '/'] <:+: last :=
        fun isInfix => closesOnce
          (isInfix.trans ⟨line ++ '\n' :: inside, [], by simp⟩)
      have noNewlineHere : '\n' ∉ indent ++ '/' :: '*' :: line := by
        simp [inLine, noNewline]
      refine ⟨((indent ++ '/' :: '*' :: line) ++ ['\n']) ++ inside,
        last ++ ['*', '/'], true, by simp, (whole_line _).append whole,
        by simp [noNewline'], ?_, ?_⟩
      · intro more
        rw [List.append_assoc]
        exact classify_closing closesLast more
      · intro offset rest
        rw [List.append_assoc, List.append_assoc, List.singleton_append,
          constraints_line noNewlineHere, classify_opening isIndent,
          afterOpening_open absentHere]
        change constraints _ true (inside ++ (last ++ ['*', '/'] ++ rest)) = _
        rw [constraints_inside whole absentInside,
          Text.byteLength_append _ inside, Nat.add_assoc]

theorem Closed.plain
    {passed : List Char} (closed : Closed commentOpen passed) :
    classify commentOpen passed = .plain := by
  rw [← List.append_nil passed, closed [], if_pos Text.blank_nil]

theorem Closed.blank
    {passed : List Char} {c : Char} (closed : Closed commentOpen passed)
    (blank : isBlank c = true) : Closed commentOpen (passed ++ [c]) := by
  intro more
  have same : Blank (c :: more) ↔ Blank more := by
    rw [Blank, List.forall_mem_cons]
    exact ⟨And.right, fun rest => ⟨blank, rest⟩⟩
  rw [List.append_assoc, List.singleton_append, closed (c :: more)]
  exact if_congr same rfl rfl

/-- No constraint is found from a line on that ends the header by something behind the part that
was passed. -/
theorem constraints_of_solid
    {passed : List Char} {c : Char} (inLine : '\n' ∉ passed)
    (solid : isBlank c = false)
    (ends : ∀ line, line <+: text →
      classify commentOpen (passed ++ c :: line) = .ends) (offset : Nat) :
    constraints offset commentOpen (passed ++ c :: text) = [] := by
  rcases exists_first_line text with ⟨line, rest, rfl, noNewline, isEnd⟩
  have noNewline : '\n' ∉ passed ++ c :: line := by
    rw [List.mem_append, List.mem_cons, not_or, not_or]
    refine ⟨inLine, ?_, noNewline⟩
    rintro rfl
    cases solid
  have whole :
      passed ++ c :: (line ++ rest) = (passed ++ c :: line) ++ rest := by
    simp
  rw [whole]
  exact constraints_of_ends noNewline isEnd (ends line ⟨rest, rfl⟩) offset

/-- Behind a block comment, no constraint follows on the line. -/
theorem Closed.constraints_eq_nil
    {passed : List Char} {c : Char} (closed : Closed commentOpen passed)
    (inLine : '\n' ∉ passed) (solid : isBlank c = false)
    (text : List Char) (offset : Nat) :
    constraints offset commentOpen (passed ++ c :: text) = [] := by
  refine constraints_of_solid inLine solid (fun line _ => ?_) offset
  rw [closed (c :: line), if_neg]
  intro blank
  rw [blank c List.mem_cons_self] at solid
  cases solid

end Build.Header

end GoUnion
