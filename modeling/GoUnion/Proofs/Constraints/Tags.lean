import GoUnion.Build.Header
import GoUnion.Proofs.Constraints.Reading

/-!
# Tags given by the user

A context answers five special tags by its platform before it looks at the tags
that were given, so giving one of these changes nothing.  Every other tag is
satisfied once it was given, and no tag stops being satisfied.

An expression without negation and a line of the older form without an
exclamation mark ask only for tags that are satisfied.  So they hold in every
context that satisfies more tags.
-/

namespace GoUnion.Build

/-! ## Given tags -/

namespace Context

/-- The tags that are answered without the tags that were given. -/
def specialTags : List String :=
  ["cgo", "unix", "linux", "solaris", "darwin"]

/-- A context that was given tags several times. -/
def givenTags (context : Context) (calls : List (List String)) : Context :=
  calls.foldl addTags context

/-- Tags that were given one after the other are tags that were given at once. -/
theorem givenTags_eq (context : Context) (calls : List (List String)) :
    context.givenTags calls = context.addTags calls.flatten := by
  rw [givenTags]
  induction calls generalizing context with
  | nil => simp [addTags]
  | cons tags calls ih =>
      rw [List.foldl_cons, ih, addTags, addTags, addTags]
      simp

theorem satisfies_addTags
    (context : Context) (tags : List String) (tag : String) :
    (context.addTags tags).satisfies tag = true ↔
      context.satisfies tag = true ∨ tag ∈ tags ∧ tag ∉ specialTags := by
  by_cases special : tag ∈ specialTags
  · have unchanged :
        (context.addTags tags).satisfies tag = context.satisfies tag := by
      simp only [specialTags, List.mem_cons, List.not_mem_nil,
        or_false] at special
      rcases special with rfl | rfl | rfl | rfl | rfl
      all_goals rfl
    simp [unchanged, special]
  · have other : ∀ name ∈ specialTags, tag ≠ name :=
      fun name isSpecial same => special (same ▸ isSpecial)
    simp only [specialTags, List.forall_mem_cons, List.not_mem_nil,
      false_implies, implies_true, and_true] at other
    rcases other with ⟨noCgo, noUnix, noLinux, noSolaris, noDarwin⟩
    simp only [satisfies, addTags, noCgo, noUnix, noLinux, noSolaris,
      noDarwin, if_false, special, not_false_eq_true, and_true]
    split
    case isTrue => simp
    case isFalse => simp [or_assoc]

/-- Every tag that one context satisfies is satisfied by another. -/
def Within (context context' : Context) : Prop :=
  ∀ tag, context.satisfies tag = true → context'.satisfies tag = true

variable {context context' : Context}

theorem within_givenTags (context : Context) (calls : List (List String)) :
    context.Within (context.givenTags calls) := by
  intro tag satisfied
  rw [givenTags_eq, satisfies_addTags]
  exact .inl satisfied

end Context

/-! ## Expressions without negation -/

namespace Expression

/-- An expression without negation. -/
def IsPositive : Expression → Prop
  | .tag _ => True
  | .not _ => False
  | .and left right | .or left right => left.IsPositive ∧ right.IsPositive

theorem IsPositive.holds_mono
    {expression : Expression} {context context' : Context}
    (positive : expression.IsPositive) (within : context.Within context')
    (holds : expression.holds context = true) :
    expression.holds context' = true := by
  induction expression with
  | tag name => exact within name holds
  | not => exact positive.elim
  | and left right ihLeft ihRight =>
      rw [Expression.holds, Bool.and_eq_true] at holds ⊢
      exact ⟨ihLeft positive.1 holds.1, ihRight positive.2 holds.2⟩
  | or left right ihLeft ihRight =>
      rw [Expression.holds, Bool.or_eq_true] at holds ⊢
      exact holds.imp (ihLeft positive.1) (ihRight positive.2)

/-- Words without a negation form an expression without one. -/
theorem Derives.isPositive
    {strength : Strength} {words : List Word} {expression : Expression}
    (derives : Derives strength words expression)
    (noNot : Word.not ∉ words) : expression.IsPositive := by
  induction derives with
  | tag => trivial
  | not => exact absurd List.mem_cons_self noNot
  | group _ ih =>
      exact ih fun isIn => noNot (by simp [isIn])
  | operand _ ih | conjunction _ ih => exact ih noNot
  | and _ _ ihLeft ihRight | or _ _ ihLeft ihRight =>
      exact ⟨ihLeft fun isIn => noNot (by simp [isIn]),
        ihRight fun isIn => noNot (by simp [isIn])⟩

/-- The text of every word of a text is part of it. -/
theorem Spaced.subset
    {rest text : List Char} {words : List Word} {word : Word}
    (spaced : Spaced rest words text) (isIn : word ∈ words) :
    word.text ⊆ text := by
  induction spaced with
  | done => cases isIn
  | word _ _ ih =>
      intro c inWord
      rcases List.mem_cons.mp isIn with rfl | isLater
      · simp [inWord]
      · simp [ih isLater inWord]

/-- A text without exclamation marks is read as an expression without negation. -/
theorem isPositive_of_text
    {text : List Char} {expression : Expression}
    (reads : ofText text = .ok expression) (noMark : '!' ∉ text) :
    expression.IsPositive := by
  rcases ofText_eq_ok_iff.mp reads with ⟨words, ⟨_, _, spaced⟩, derives⟩
  refine derives.isPositive fun isIn => noMark ?_
  exact spaced.subset isIn List.mem_cons_self

end Expression

/-! ## Lines without exclamation marks -/

theorem mem_of_mem_splitOnP
    {isMark : Char → Bool} {text piece : List Char} {c : Char}
    (isPiece : piece ∈ text.splitOnP isMark) (isIn : c ∈ piece) :
    c ∈ text := by
  induction text generalizing piece with
  | nil =>
      rw [List.splitOnP_nil, List.mem_singleton] at isPiece
      exact isPiece ▸ isIn
  | cons d text ih =>
      rw [List.splitOnP_cons_eq_if_modifyHead] at isPiece
      split at isPiece
      case isTrue =>
        rcases List.mem_cons.mp isPiece with rfl | isPiece
        · cases isIn
        · exact List.mem_cons_of_mem _ (ih isPiece isIn)
      case isFalse =>
        rcases pieces : text.splitOnP isMark with _ | ⟨first, others⟩
        · rw [pieces] at isPiece
          cases isPiece
        · rw [pieces, List.modifyHead_cons] at isPiece
          rw [pieces] at ih
          rcases List.mem_cons.mp isPiece with rfl | isPiece
          · rcases List.mem_cons.mp isIn with rfl | isIn
            · exact List.mem_cons_self
            · exact List.mem_cons_of_mem _ (ih List.mem_cons_self isIn)
          · exact List.mem_cons_of_mem _
              (ih (List.mem_cons_of_mem _ isPiece) isIn)

namespace Context

variable {context context' : Context}

theorem satisfiesTerm_mono
    {term : List Char} (noMark : '!' ∉ term)
    (within : context.Within context')
    (holds : context.satisfiesTerm term = true) :
    context'.satisfiesTerm term = true := by
  unfold satisfiesTerm at holds ⊢
  split at holds
  case h_1 => exact absurd List.mem_cons_self noMark
  case h_2 => exact within _ holds

theorem satisfiesOptions_mono
    {line : List Char} (noMark : '!' ∉ line)
    (within : context.Within context')
    (holds : context.satisfiesOptions line = true) :
    context'.satisfiesOptions line = true := by
  rw [satisfiesOptions, List.any_eq_true] at holds ⊢
  rcases holds with ⟨option, isOption, holds⟩
  refine ⟨option, isOption, ?_⟩
  rw [List.all_eq_true] at holds ⊢
  intro term isTerm
  refine satisfiesTerm_mono (fun isIn => noMark ?_) within
    (holds term isTerm)
  exact mem_of_mem_splitOnP (List.mem_filter.mp isOption).1
    (mem_of_mem_splitOnP isTerm isIn)

end Context

/-- The constraints of a header hold no exclamation mark. -/
def Header.IsPositive (header : Header) : Prop :=
  (∀ text ∈ header.expression.map (·.1), '!' ∉ text) ∧
    ∀ line ∈ header.options, '!' ∉ line

theorem Context.admitsSource_mono
    {context context' : Context} {source : List Char} {header : Header}
    (scans : Header.ofSource source = .ok header)
    (positive : header.IsPositive) (within : context.Within context')
    (admits : context.admitsSource source = .ok true) :
    context'.admitsSource source = .ok true := by
  rw [admitsSource, scans, Reader.ok_bind] at admits ⊢
  rcases header with ⟨expression, options⟩
  rcases positive with ⟨noMark, noMarks⟩
  cases expression with
  | none =>
      have holds : options.all context.satisfiesOptions = true :=
        Except.ok.inj admits
      have holds' : options.all context'.satisfiesOptions = true := by
        rw [List.all_eq_true] at holds ⊢
        intro line isLine
        exact satisfiesOptions_mono (noMarks line isLine) within
          (holds line isLine)
      exact congrArg Except.ok holds'
  | some line =>
      rcases line with ⟨text, span⟩
      dsimp only at admits ⊢
      cases reads : Expression.ofText text with
      | error fault =>
          rw [reads] at admits
          cases admits
      | ok expression =>
          rw [reads] at admits
          have holds : expression.holds context = true :=
            Except.ok.inj admits
          have isPositive :=
            Expression.isPositive_of_text reads (noMark text rfl)
          exact congrArg Except.ok (isPositive.holds_mono within holds)

/-- Tags that the user gives are satisfied afterwards unless they are special and the platform does
not satisfy them, and the answer about every other tag stays.  So a constraint without negation that
holds still holds, whichever form it has, and a file whose constraints have no exclamation mark is
not lost. -/
theorem Context.givenTags_honoured
    (context : Context) (calls : List (List String)) :
    (∀ tag ∈ calls.flatten, (context.givenTags calls).satisfies tag = true ↔
      context.satisfies tag = true ∨ tag ∉ specialTags) ∧
    (∀ tag ∉ calls.flatten,
      (context.givenTags calls).satisfies tag = context.satisfies tag) ∧
    (∀ expression : Expression, expression.IsPositive →
      expression.holds context = true →
      expression.holds (context.givenTags calls) = true) ∧
    (∀ line : List Char, '!' ∉ line →
      context.satisfiesOptions line = true →
      (context.givenTags calls).satisfiesOptions line = true) ∧
    ∀ (source : List Char) (header : Header),
      Header.ofSource source = .ok header → header.IsPositive →
      context.admitsSource source = .ok true →
      (context.givenTags calls).admitsSource source = .ok true := by
  have answer (tag : String) :
      (context.givenTags calls).satisfies tag = true ↔
        context.satisfies tag = true ∨
          tag ∈ calls.flatten ∧ tag ∉ specialTags := by
    rw [givenTags_eq]
    exact satisfies_addTags context calls.flatten tag
  have within := within_givenTags context calls
  refine ⟨?_, ?_, fun _ positive => positive.holds_mono within,
    fun _ noMark => satisfiesOptions_mono noMark within,
    fun _ _ scans positive => admitsSource_mono scans positive within⟩
  · intro tag isGiven
    rw [answer tag]
    simp only [isGiven, true_and]
  · intro tag notGiven
    rw [Bool.eq_iff_iff, answer tag]
    simp only [notGiven, false_and, or_false]

/-- Tags given in two calls: one that is new, one that names another system, and two that are
special. -/
theorem Context.givenTags_honoured_calls :
    let context : Context := ⟨"linux", "amd64", false, []⟩
    let calls := [["integration", "windows"], ["cgo", "linux"]]
    let source := "//go:build linux && (cgo || integration)".toList
    (context.givenTags calls).satisfies "windows" = true ∧
    (context.givenTags calls).satisfies "linux" = true ∧
    (context.givenTags calls).satisfies "ignore" =
      context.satisfies "ignore" ∧
    (context.givenTags calls).satisfiesOptions "darwin linux,gc".toList =
      true ∧
    ((context.addTags ["integration"]).givenTags calls).admitsSource source =
      .ok true := by
  intro context calls source
  rcases Context.givenTags_honoured context calls with
    ⟨given, other, -, lines, -⟩
  refine ⟨(given "windows" (by decide)).mpr (.inr (by decide)),
    (given "linux" (by decide)).mpr (.inl (by decide)),
    other "ignore" (by decide), lines _ (by decide) (by decide +kernel), ?_⟩
  refine (Context.givenTags_honoured (context.addTags ["integration"])
    calls).2.2.2.2 source
    ⟨some ("linux && (cgo || integration)".toList, ⟨0, 40⟩), []⟩
    (by decide +kernel) ⟨?_, by simp⟩ (by decide +kernel)
  rintro text ⟨⟩
  decide

/-- A special tag is not satisfied when it is given, unlike the name of any other system. -/
theorem Context.givenTags_ignored :
    let windows := Context.ofPlatform "windows" "amd64"
    let linux := Context.ofPlatform "linux" "amd64"
    (windows.givenTags [["linux"]]).satisfies "linux" = false ∧
    (linux.givenTags [["windows"]]).satisfies "windows" = true := by
  decide

end GoUnion.Build
