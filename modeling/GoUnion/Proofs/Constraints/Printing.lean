import GoUnion.Proofs.Constraints.Reading

/-!
# Printing build expressions

An expression is printed with parentheses around those operands that would
otherwise be read as something else: a weaker operator below a stronger one, and
an operator on the right of the same operator.  There are no others: every list
of words that forms the expression has the printed words in it, in their order.

What is printed reads as the expression again, and its value is the truth value
of the expression, where a tag is true if it is satisfied.
-/

namespace GoUnion.Build.Expression

/-- Every tag can be written. -/
def Writable : Expression → Prop
  | .tag name => IsTag name
  | .not operand => operand.Writable
  | .and left right => left.Writable ∧ right.Writable
  | .or left right => left.Writable ∧ right.Writable

/-- Words between parentheses, if they are needed. -/
def grouped (needed : Bool) (words : List Word) : List Word :=
  if needed then .opening :: (words ++ [.closing]) else words

/-- The words of an expression, in a place where pieces of a strength can stand. -/
def words : Strength → Expression → List Word
  | _, .tag name => [.tag name]
  | _, .not operand => .not :: operand.words .operand
  | place, .and left right =>
    grouped (place = .operand)
      (left.words .conjunction ++ .and :: right.words .operand)
  | place, .or left right =>
    grouped (place ≠ .disjunction)
      (left.words .disjunction ++ .or :: right.words .conjunction)

/-- Whether an expression is true, given which tags are. -/
def Truth (satisfied : String → Prop) : Expression → Prop
  | .tag name => satisfied name
  | .not operand => ¬operand.Truth satisfied
  | .and left right => left.Truth satisfied ∧ right.Truth satisfied
  | .or left right => left.Truth satisfied ∨ right.Truth satisfied

/-- The value of an expression is its truth value. -/
theorem holds_iff (context : Context) (expression : Expression) :
    expression.holds context = true ↔
      expression.Truth fun tag => context.satisfies tag = true := by
  induction expression with
  | tag name => rfl
  | not operand ih => rw [holds, Truth, ← ih, Bool.not_eq_true']; simp
  | and left right ihLeft ihRight =>
      rw [holds, Truth, ← ihLeft, ← ihRight, Bool.and_eq_true]
  | or left right ihLeft ihRight =>
      rw [holds, Truth, ← ihLeft, ← ihRight, Bool.or_eq_true]

/-! ## What is printed forms the expression -/

/-- An operand can stand everywhere. -/
theorem Derives.anywhere
    {words : List Word} {expression : Expression}
    (derives : Derives .operand words expression) :
    ∀ place : Strength, Derives place words expression
  | .operand => derives
  | .conjunction => .operand derives
  | .disjunction => .conjunction (.operand derives)

theorem derives_words
    {expression : Expression} (writable : expression.Writable)
    (place : Strength) :
    Derives place (expression.words place) expression := by
  induction expression generalizing place with
  | tag name => exact (Derives.tag writable).anywhere place
  | not operand ih => exact (Derives.not (ih writable _)).anywhere place
  | and left right ihLeft ihRight =>
      have inner := Derives.and (ihLeft writable.1 .conjunction)
        (ihRight writable.2 .operand)
      cases place with
      | operand => exact .group (.conjunction inner)
      | conjunction => exact inner
      | disjunction => exact .conjunction inner
  | or left right ihLeft ihRight =>
      have inner := Derives.or (ihLeft writable.1 .disjunction)
        (ihRight writable.2 .conjunction)
      cases place with
      | operand => exact .group inner
      | conjunction => exact .operand (.group inner)
      | disjunction => exact inner

/-! ## No parentheses are left out by others -/

theorem words_conjunction_sublist (expression : Expression) :
    (expression.words .conjunction).Sublist (expression.words .operand) := by
  cases expression with
  | tag | not | or => exact List.Sublist.refl _
  | and =>
      exact .cons _ (List.sublist_append_left _ _)

theorem words_disjunction_sublist (expression : Expression) :
    (expression.words .disjunction).Sublist
      (expression.words .conjunction) := by
  cases expression with
  | tag | not | and => exact List.Sublist.refl _
  | or => exact .cons _ (List.sublist_append_left _ _)

/-- An operand has parentheses around it at most. -/
theorem words_operand_sublist (expression : Expression) :
    (expression.words .operand).Sublist
      (.opening :: (expression.words .disjunction ++ [.closing])) := by
  cases expression with
  | tag | not => exact .cons _ (List.sublist_append_left _ _)
  | and | or => exact List.Sublist.refl _

/-- Whoever writes an expression writes the printed words at least. -/
theorem words_sublist
    {place : Strength} {used : List Word} {expression : Expression}
    (derives : Derives place used expression) :
    (expression.words place).Sublist used := by
  induction derives with
  | tag => exact List.Sublist.refl _
  | not _ ih => exact ih.cons_cons _
  | group _ ih =>
      exact (words_operand_sublist _).trans
        ((ih.append (List.Sublist.refl _)).cons_cons _)
  | operand _ ih => exact (words_conjunction_sublist _).trans ih
  | conjunction _ ih => exact (words_disjunction_sublist _).trans ih
  | and _ _ ihLeft ihRight | or _ _ ihLeft ihRight =>
      exact ihLeft.append (ihRight.cons_cons _)

/-! ## Printing and reading -/

/-- A text reads as an expression exactly if it is one, and is faulty otherwise.  An expression
printed without needless parentheses, with any white space between the words, reads as itself, and
its value is its truth value. -/
theorem ofText_grammar :
    (∀ text expression,
      ofText text = .ok expression ↔ Written text expression) ∧
    (∀ text, (∃ fault, ofText text = .error fault) ↔
      ∀ expression, ¬Written text expression) ∧
    ∀ expression : Expression, expression.Writable →
      (∀ text, Consists (expression.words .disjunction) text →
        ofText text = .ok expression) ∧
      (∀ used, Derives .disjunction used expression →
        (expression.words .disjunction).Sublist used) ∧
      ∀ context : Context, expression.holds context = true ↔
        expression.Truth fun tag => context.satisfies tag = true := by
  refine ⟨fun text expression => ofText_eq_ok_iff, fun text => ?_,
    fun expression writable => ⟨fun text consists => ?_,
      fun used => words_sublist, fun context => holds_iff context _⟩⟩
  · simp only [← ofText_eq_ok_iff]
    cases ofText text with
    | error fault => simp
    | ok expression => simp
  · exact ofText_eq_ok_iff.mpr
      ⟨_, consists, derives_words writable .disjunction⟩

/-- Operators of both strengths on both sides, one of them grouped to the right. -/
theorem ofText_grammar_mixed :
    let tag (name : String) : Expression := .tag name
    let expression : Expression :=
      .or (.and (.or (tag "a") (tag "b")) (.not (.not (tag "go1.2"))))
        (.or (tag "c") (tag "d_e"))
    expression.Writable ∧
      expression.words .disjunction =
        [.opening, .tag "a", .or, .tag "b", .closing, .and, .not, .not,
          .tag "go1.2", .or, .opening, .tag "c", .or, .tag "d_e",
          .closing] ∧
      ofText "(a||b )\t&& ! !go1.2||( c || d_e)\r".toList =
        .ok expression := by
  intro tag expression
  have writable : expression.Writable := by
    have a : IsTag "a" := by decide
    have b : IsTag "b" := by decide
    have go : IsTag "go1.2" := by decide +kernel
    have c : IsTag "c" := by decide
    have d : IsTag "d_e" := by decide +kernel
    exact ⟨⟨⟨a, b⟩, go⟩, c, d⟩
  refine ⟨writable, rfl, ?_⟩
  apply (ofText_grammar.2.2 expression writable).1
  have none : Text.Blank [] := Text.blank_nil
  have space : Text.Blank [' '] := by decide
  have tab : Text.Blank ['\t'] := by decide
  have final : Text.Blank ['\r'] := by decide
  exact ⟨['\r'], final, .word none (.word none (.word none (.word none
    (.word space (.word tab (.word space (.word space (.word none (.word none
      (.word none (.word space (.word space (.word space (.word none
        .done))))))))))))))⟩

end GoUnion.Build.Expression
