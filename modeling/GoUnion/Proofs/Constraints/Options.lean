import GoUnion.Proofs.Constraints.Lines
import GoUnion.Proofs.Constraints.Printing

/-!
# The two forms of constraints

The older form of a constraint lists options on lines of their own.  A line
holds if one of its options does, an option if all of its terms do, and a header
if all of its lines do.  The newer form says the same with one expression, the
conjunction over the lines of the disjunctions over the options of the
conjunctions over the terms, however these are grouped.  Where a header has a
line of the newer form, its lines of the older form play no part.
-/

namespace GoUnion

namespace Text

/-! ## Words of a text -/

variable {front back blank word text : List Char} {c : Char}

theorem words_nil : words [] = [] := by
  simp [words, List.splitOnP_nil]

theorem words_append_cons
    (isBlank : isBlank c = true) (front back : List Char) :
    words (front ++ c :: back) = words front ++ words back := by
  rw [words, List.splitOnP_append_cons front back isBlank,
    List.filter_append]
  rfl

theorem words_cons (isBlank : isBlank c = true) (text : List Char) :
    words (c :: text) = words text := by
  simpa [words_nil] using words_append_cons isBlank [] text

/-- No word goes on over white space. -/
theorem words_append
    (opens : opensBlank back = true) (front : List Char) :
    words (front ++ back) = words front ++ words back := by
  cases back with
  | nil => rw [words_nil, List.append_nil, List.append_nil]
  | cons c rest => rw [words_append_cons opens, words_cons opens]

theorem words_blank_append
    (isBlank : Blank blank) (text : List Char) :
    words (blank ++ text) = words text := by
  induction blank with
  | nil => rfl
  | cons c blank ih =>
      rw [Blank, List.forall_mem_cons] at isBlank
      rw [List.cons_append, words_cons isBlank.1, ih isBlank.2]

theorem words_blank (isBlank : Blank blank) : words blank = [] := by
  simpa [words_nil] using words_blank_append isBlank []

theorem Blank.opens (isBlank : Blank blank) : opensBlank blank = true := by
  cases blank with
  | nil => rfl
  | cons c blank => exact isBlank c List.mem_cons_self

theorem words_append_blank
    (isBlank : Blank blank) (text : List Char) :
    words (text ++ blank) = words text := by
  rw [words_append isBlank.opens, words_blank isBlank, List.append_nil]

theorem words_trim (text : List Char) : words (trim text) = words text := by
  rcases exists_blank text with ⟨front, isFront, shape⟩
  rcases exists_blank_end (trimStart text) with ⟨back, isBack, shape'⟩
  conv => rhs; rw [shape, words_blank_append isFront, shape']
  rw [words_append_blank isBack, trim]

theorem words_word
    (nonempty : word ≠ []) (solid : Solid word) :
    words word = [word] := by
  rw [words, List.splitOnP_eq_singleton solid]
  simp [nonempty]

theorem opensBlank_trimEnd (opens : opensBlank text = true) :
    opensBlank (trimEnd text) = true := by
  cases text with
  | nil => rfl
  | cons c rest =>
      rw [trimEnd]
      split
      · rfl
      · exact opens

end Text

namespace Build

open Text (Blank isBlank opensBlank trim trimStart trimEnd)
open Expression (IsTag Written)

/-! ## Options -/

/-- A term of the older form. -/
structure Term where
  negated : Bool
  tag : String
  isTag : IsTag tag

namespace Term

/-- The text of a term. -/
def text (term : Term) : List Char :=
  if term.negated then '!' :: term.tag.toList else term.tag.toList

/-- The expression that says what a term does. -/
def expression (term : Term) : Expression :=
  if term.negated then .not (.tag term.tag) else .tag term.tag

/-- Whether a term holds. -/
def holds (context : Context) (term : Term) : Bool :=
  context.satisfies term.tag != term.negated

theorem holds_expression (context : Context) (term : Term) :
    term.expression.holds context = term.holds context := by
  rw [expression, holds]
  cases term.negated <;> simp [Expression.holds]

/-- The characters of a term are those of its tag and the sign in front. -/
theorem inTag_of_mem
    {term : Term} {c : Char} (isIn : c ∈ term.text) :
    c = '!' ∨ Expression.inTag c = true := by
  rw [text] at isIn
  split at isIn
  case isTrue =>
    exact (List.mem_cons.mp isIn).imp id (term.isTag.inside c)
  case isFalse => exact .inr (term.isTag.inside c isIn)

theorem text_ne_nil (term : Term) : term.text ≠ [] := by
  rw [text]
  split
  · exact List.cons_ne_nil _ _
  · exact fun isEmpty =>
      term.isTag.nonempty (String.toList_eq_nil_iff.mp isEmpty)

theorem satisfiesTerm_text (context : Context) (term : Term) :
    context.satisfiesTerm term.text = term.holds context := by
  rw [text, holds]
  cases term.negated with
  | true => simp [Context.satisfiesTerm]
  | false =>
      -- The second case applies only where no sign is in front, which holds of every tag.
      have noSign (tail : List Char) : term.tag.toList ≠ '!' :: tail := by
        intro shape
        have inside := term.isTag.inside '!' (by simp [shape])
        revert inside
        decide
      simp [Context.satisfiesTerm]

end Term

/-- The terms of an option with commas between them. -/
def optionText (option : List Term) : List Char :=
  [','].intercalate (option.map Term.text)

/-- Some options, each behind white space, and white space behind the last. -/
inductive ListsOptions : List (List Term) → List Char → Prop where
  | nil {blank : List Char} (isBlank : Blank blank) :
      ListsOptions [] blank
  | cons {option : List Term} {options : List (List Term)}
      {blank text : List Char}
      (isBlank : Blank blank) (separated : blank ≠ [])
      (later : ListsOptions options text) :
      ListsOptions (option :: options)
        (blank ++ (optionText option ++ text))

theorem satisfiesOption_text
    {option : List Term} (nonempty : option ≠ []) (context : Context) :
    ((optionText option).splitOn ',').all context.satisfiesTerm =
      option.all (·.holds context) := by
  have noComma : ∀ text ∈ option.map Term.text, ',' ∉ text := by
    intro text isText isIn
    rcases List.mem_map.mp isText with ⟨term, -, rfl⟩
    rcases Term.inTag_of_mem isIn with isSign | inside
    · cases isSign
    · revert inside
      decide
  rw [optionText, List.splitOn_intercalate ',' noComma (by simpa),
    List.all_map]
  congr 1
  funext term
  exact term.satisfiesTerm_text context

theorem solid_optionText (option : List Term) :
    Text.Solid (optionText option) := by
  have inTerm {term : Term} {c : Char} (isIn : c ∈ term.text) :
      isBlank c = false := by
    rcases Term.inTag_of_mem isIn with rfl | inside
    · decide
    · exact Expression.isBlank_of_inTag inside
  intro c isIn
  induction option with
  | nil => cases isIn
  | cons term option ih =>
      rw [optionText, List.map_cons] at isIn
      cases option with
      | nil =>
          rw [List.map_nil, List.intercalate_singleton] at isIn
          exact inTerm isIn
      | cons next option =>
          rw [List.map_cons, List.intercalate_cons_cons, List.append_assoc,
            List.mem_append, List.mem_append] at isIn
          rcases isIn with inFirst | isComma | inOthers
          · exact inTerm inFirst
          · cases List.mem_singleton.mp isComma
            decide
          · exact ih inOthers

theorem optionText_ne_nil
    {option : List Term} (nonempty : option ≠ []) :
    optionText option ≠ [] := by
  rcases option with _ | ⟨term, option⟩
  · exact absurd rfl nonempty
  · cases option with
    | nil =>
        rw [optionText, List.map_cons, List.map_nil,
          List.intercalate_singleton]
        exact term.text_ne_nil
    | cons next option =>
        rw [optionText, List.map_cons, List.map_cons,
          List.intercalate_cons_cons]
        simp

theorem ListsOptions.opens
    {options : List (List Term)} {text : List Char}
    (lists : ListsOptions options text) : opensBlank text = true := by
  cases lists with
  | nil isBlank => exact isBlank.opens
  | @cons _ _ blank _ isBlank separated later =>
      cases blank with
      | nil => exact absurd rfl separated
      | cons c blank => exact isBlank c List.mem_cons_self

/-- The words of a line are its options, as no option holds white space. -/
theorem ListsOptions.words_eq
    {options : List (List Term)} {text : List Char}
    (lists : ListsOptions options text)
    (nonempty : ∀ option ∈ options, option ≠ []) :
    Text.words text = options.map optionText := by
  induction lists with
  | nil isBlank =>
      rw [Text.words_blank isBlank, List.map_nil]
  | cons isBlank separated later ih =>
      rw [List.forall_mem_cons] at nonempty
      rw [Text.words_blank_append isBlank, Text.words_append later.opens,
        Text.words_word (optionText_ne_nil nonempty.1)
          (solid_optionText _),
        ih nonempty.2]
      rfl

theorem ListsOptions.satisfiesOptions_eq
    {options : List (List Term)} {body : List Char}
    (lists : ListsOptions options body)
    (nonempty : ∀ option ∈ options, option ≠ []) (context : Context) :
    context.satisfiesOptions (trim body) =
      options.any fun option => option.all (·.holds context) := by
  rw [Context.satisfiesOptions, Text.words_trim, lists.words_eq nonempty,
    List.any_map, Bool.eq_iff_iff, List.any_eq_true, List.any_eq_true]
  refine exists_congr fun option => and_congr_right fun isOption => ?_
  rw [← satisfiesOption_text (nonempty option isOption) context]
  rfl

/-! ## Lines -/

/-- A line of the older form, by what stands behind the word `+build`. -/
inductive OptionsLine (body : List Char) : List Char → Prop where
  | line {indent gap : List Char}
      (isIndent : Blank indent) (isGap : Blank gap)
      (opens : opensBlank body = true) :
      OptionsLine body
        (indent ++ '/' :: '/' :: (gap ++ ("+build".toList ++ body)))

/-- A line of the newer form, by what stands behind the word `go:build`. -/
inductive ExpressionLine (body : List Char) : List Char → Prop where
  | line {indent : List Char}
      (isIndent : Blank indent) (opens : opensBlank body = true) :
      ExpressionLine body
        (indent ++ '/' :: '/' :: ("go:build".toList ++ body))

theorem OptionsLine.classify_eq
    {body line : List Char} (isLine : OptionsLine body line) :
    Header.classify false line = .options (trim body) := by
  cases isLine with
  | @line indent gap isIndent isGap opens =>
      have kept :
          trimEnd (gap ++ ("+build".toList ++ body)) =
            gap ++ ("+build".toList ++ trimEnd body) :=
        Text.trimEnd_append_word (by decide) (by decide) gap body
      have noExpression :
          "go:build".toList.isPrefixOf?
            (gap ++ ("+build".toList ++ trimEnd body)) = none := by
        cases gap with
        | nil => rfl
        | cons c gap =>
            refine Expression.isPrefixOf?_of_ne ?_ _ _
            rintro rfl
            exact absurd (isGap _ List.mem_cons_self) (by decide)
      have isOptions :
          "+build".toList.isPrefixOf?
            (trimStart (gap ++ ("+build".toList ++ trimEnd body))) =
              some (trimEnd body) := by
        rw [Text.trimStart_blank_append isGap]
        exact List.isPrefixOf?_eq_some_iff_append_eq.mpr rfl
      rw [Header.classify_of_comment isIndent, kept, Header.ofComment,
        noExpression]
      dsimp only
      rw [isOptions]
      dsimp only
      rw [if_pos (Text.opensBlank_trimEnd opens), Text.trim_trimEnd]

theorem ExpressionLine.classify_eq
    {body line : List Char} (isLine : ExpressionLine body line) :
    Header.classify false line = .expression (trim body) := by
  cases isLine with
  | @line indent isIndent opens =>
      have kept :
          trimEnd ("go:build".toList ++ body) =
            "go:build".toList ++ trimEnd body :=
        Text.trimEnd_append_word (List.cons_ne_nil _ _) (by decide) [] body
      rw [Header.classify_of_comment isIndent, kept, Header.ofComment,
        List.isPrefixOf?_eq_some_iff_append_eq.mpr rfl]
      dsimp only
      rw [if_pos (Text.opensBlank_trimEnd opens), Text.trim_trimEnd]

/-! ## Expressions between white space -/

namespace Expression

theorem Word.Valid.solid
    {word : Word} (valid : word.Valid) : Text.Solid word.text := by
  cases word with
  | tag name => exact fun c isIn => isBlank_of_inTag (valid.inside c isIn)
  | not | and | or | opening | closing => decide

theorem Spaced.trimEnd
    {words : List Word} {blank text : List Char}
    (spaced : Spaced blank words text) (isBlank : Blank blank)
    (valid : ∀ word ∈ words, word.Valid) :
    Spaced [] words (Text.trimEnd text) := by
  induction spaced with
  | done =>
      rw [Text.trimEnd_eq_nil.mpr isBlank]
      exact .done
  | word isBlank later ih =>
      rw [List.forall_mem_cons] at valid
      rcases valid.1.exists_start with ⟨c, tail, shape, -⟩
      have nonempty : _ ≠ [] := shape ▸ List.cons_ne_nil c tail
      rw [Text.trimEnd_append_word nonempty valid.1.solid]
      exact .word isBlank (ih valid.2)

/-- An expression is the same without the white space around it. -/
theorem Written.trim
    {text : List Char} {expression : Expression}
    (written : Written text expression) :
    Written (trim text) expression := by
  rcases written with ⟨words, ⟨blank, isBlank, spaced⟩, derives⟩
  refine ⟨words, ⟨[], Text.blank_nil, ?_⟩, derives⟩
  rcases words with _ | ⟨word, words⟩
  · exact absurd rfl derives.ne_nil
  · rcases spaced.trimStart_eq (derives.valid word List.mem_cons_self) with
      ⟨later, shape, spaced⟩
    rw [Text.trim, shape]
    exact (Spaced.word Text.blank_nil spaced).trimEnd isBlank derives.valid

/-- An expression joins one expression for each of some items by an operator, in their order and
grouped in any way. -/
inductive Joins {α : Type}
    (operator : Expression → Expression → Expression)
    (each : α → Expression → Prop) : List α → Expression → Prop where
  | single {item : α} {expression : Expression}
      (isOf : each item expression) : Joins operator each [item] expression
  | join {front back : List α} {left right : Expression}
      (joinsFront : Joins operator each front left)
      (joinsBack : Joins operator each back right) :
      Joins operator each (front ++ back) (operator left right)

section Joins

variable {α : Type} {operator : Expression → Expression → Expression}
  {each : α → Expression → Prop} {items : List α}
  {expression : Expression} {context : Context} {holds : α → Bool}

theorem Joins.ne_nil (joins : Joins operator each items expression) :
    items ≠ [] := by
  induction joins with
  | single => exact List.cons_ne_nil _ _
  | join _ _ ih _ => simp [ih]

theorem Joins.exists_of_mem
    (joins : Joins operator each items expression) :
    ∀ item ∈ items, ∃ expression, each item expression := by
  induction joins with
  | single isOf => simpa using ⟨_, isOf⟩
  | join _ _ ihFront ihBack =>
      exact List.forall_mem_append.mpr ⟨ihFront, ihBack⟩

theorem Joins.holds_and
    (joins : Joins .and each items expression)
    (same : ∀ item expression, each item expression →
      expression.holds context = holds item) :
    expression.holds context = items.all holds := by
  induction joins with
  | single isOf => simp [same _ _ isOf]
  | join _ _ ihFront ihBack =>
      rw [Expression.holds, ihFront, ihBack, List.all_append]

theorem Joins.holds_or
    (joins : Joins .or each items expression)
    (same : ∀ item expression, each item expression →
      expression.holds context = holds item) :
    expression.holds context = items.any holds := by
  induction joins with
  | single isOf => simp [same _ _ isOf]
  | join _ _ ihFront ihBack =>
      rw [Expression.holds, ihFront, ihBack, List.any_append]

end Joins

/-- The conjunctions of the terms of an option. -/
def JoinsTerms : List Term → Expression → Prop :=
  Joins .and fun term expression => expression = term.expression

/-- The disjunctions of the options of a line. -/
def JoinsOptions : List (List Term) → Expression → Prop :=
  Joins .or JoinsTerms

/-- The conjunctions of some lines. -/
def JoinsLines : List (List (List Term)) → Expression → Prop :=
  Joins .and JoinsOptions

end Expression

/-- Whether some lines hold: each has an option all of whose terms hold. -/
def holdsLines
    (context : Context) (lines : List (List (List Term))) : Bool :=
  lines.all fun options => options.any fun option =>
    option.all fun term => term.holds context

theorem holds_of_joinsLines
    {lines : List (List (List Term))} {expression : Expression}
    (joins : Expression.JoinsLines lines expression) (context : Context) :
    expression.holds context = holdsLines context lines := by
  refine joins.holds_and ?_
  intro options expression joins
  refine joins.holds_or ?_
  intro option expression joins
  refine joins.holds_and ?_
  rintro term expression rfl
  exact term.holds_expression context

theorem option_ne_nil
    {lines : List (List (List Term))} {expression : Expression}
    (joins : Expression.JoinsLines lines expression) :
    ∀ options ∈ lines, ∀ option ∈ options, option ≠ [] := by
  intro options isLine option isOption
  rcases joins.exists_of_mem options isLine with ⟨_, joins⟩
  rcases joins.exists_of_mem option isOption with ⟨_, joins⟩
  exact joins.ne_nil

/-! ## Headers -/

namespace Header

/-- A line that constrains the build. -/
def Line.Constrains : Line → Prop
  | .expression _ | .options _ => True
  | .plain | .opens | .ends => False

/-- What the line of a constraint is. -/
def Constraint.kind (constraint : Constraint) : Line :=
  match constraint.form with
  | .expression => .expression constraint.text
  | .options => .options constraint.text

theorem Line.Constrains.map_kind
    {kind : Line} (constrains : kind.Constrains) (offset : Nat)
    (line : List Char) :
    (kind.constraint? offset line).toList.map Constraint.kind = [kind] := by
  cases kind with
  | expression | options => rfl
  | plain | opens | ends => exact constrains.elim

theorem Line.Constrains.leaves
    {kind : Line} (constrains : kind.Constrains) :
    kind.leaves? = some false := by
  cases kind with
  | expression | options => rfl
  | plain | opens | ends => exact constrains.elim

/-- The header of a source text has some lines among others that do not constrain the build, given
whether a block comment is open before it. -/
inductive HasLines : Bool → List (List Char) → List Char → Prop where
  | done {commentOpen : Bool} {rest : List Char}
      (none : constraints 0 commentOpen rest = []) :
      HasLines commentOpen [] rest
  | last {line : List Char} (noNewline : '\n' ∉ line) :
      HasLines false [line] line
  | line {line text : List Char} {lines : List (List Char)}
      (noNewline : '\n' ∉ line) (later : HasLines false lines text) :
      HasLines false (line :: lines) (line ++ '\n' :: text)
  | plain {commentOpen : Bool} {line text : List Char}
      {lines : List (List Char)} (noNewline : '\n' ∉ line)
      (isPlain : classify commentOpen line = .plain)
      (later : HasLines false lines text) :
      HasLines commentOpen lines (line ++ '\n' :: text)
  | opens {commentOpen : Bool} {line text : List Char}
      {lines : List (List Char)} (noNewline : '\n' ∉ line)
      (opens : classify commentOpen line = .opens)
      (later : HasLines true lines text) :
      HasLines commentOpen lines (line ++ '\n' :: text)

/-- The constraints of a header are its constraint lines. -/
theorem HasLines.map_kind
    {commentOpen : Bool} {lines : List (List Char)} {source : List Char}
    (has : HasLines commentOpen lines source)
    {kinds : List Line} (areKinds : lines.map (classify false) = kinds)
    (constrain : ∀ kind ∈ kinds, kind.Constrains) (offset : Nat) :
    (constraints offset commentOpen source).map Constraint.kind =
      kinds := by
  subst areKinds
  rw [List.forall_mem_map] at constrain
  induction has generalizing offset with
  | done none => rw [constraints_eq_nil none offset, List.map_nil, List.map_nil]
  | last noNewline =>
      rw [List.forall_mem_singleton] at constrain
      rw [constraints_last noNewline, constrain.map_kind]
      rfl
  | line noNewline later ih =>
      rw [List.forall_mem_cons] at constrain
      rw [constraints_line noNewline, List.map_append,
        constrain.1.map_kind, constrain.1.leaves]
      dsimp only
      rw [ih _ constrain.2]
      rfl
  | plain noNewline isPlain later ih =>
      rw [constraints_line noNewline, isPlain]
      exact ih _ constrain
  | opens noNewline opens later ih =>
      rw [constraints_line noNewline, opens]
      exact ih _ constrain

theorem options_of_map_kind
    {constraints : List Constraint} {texts : List (List Char)}
    (kinds : constraints.map Constraint.kind = texts.map .options) :
    (∀ constraint ∈ constraints, constraint.form = .options) ∧
      constraints.map (·.text) = texts := by
  induction constraints generalizing texts with
  | nil =>
      rw [List.map_nil, eq_comm, List.map_eq_nil_iff] at kinds
      exact ⟨by simp, by simp [kinds]⟩
  | cons constraint constraints ih =>
      rcases texts with _ | ⟨text, texts⟩
      · cases kinds
      · rw [List.map_cons, List.map_cons, List.cons.injEq] at kinds
        rcases ih kinds.2 with ⟨forms, rfl⟩
        have first := kinds.1
        rw [Constraint.kind] at first
        split at first
        case h_1 => cases first
        case h_2 isOptions =>
          cases first
          exact ⟨List.forall_mem_cons.mpr ⟨isOptions, forms⟩, rfl⟩

end Header

namespace Context

open Header (constraints Constraint)

variable {context : Context} {source : List Char}

/-- Lines of the older form alone must all hold. -/
theorem admitsSource_of_options
    {texts : List (List Char)}
    (kinds : (constraints 0 false source).map Constraint.kind =
      texts.map .options) :
    context.admitsSource source =
      .ok (texts.all context.satisfiesOptions) := by
  rcases Header.options_of_map_kind kinds with ⟨forms, rfl⟩
  rw [admitsSource, Header.ofSource, Header.scanFrom_eq,
    Header.foldlM_add_options forms]
  rfl

/-- A line of the newer form decides alone. -/
theorem admitsSource_of_expression
    {front back : List (List Char)} {text : List Char}
    {expression : Expression}
    (kinds : (constraints 0 false source).map Constraint.kind =
      front.map .options ++ .expression text :: back.map .options)
    (written : Written text expression) :
    context.admitsSource source = .ok (expression.holds context) := by
  rcases List.map_eq_append_iff.mp kinds with
    ⟨before, others, shape, kindsBefore, kindsOthers⟩
  rcases List.map_eq_cons_iff.mp kindsOthers with
    ⟨constraint, behind, rfl, isExpression, kindsBehind⟩
  rcases Header.options_of_map_kind kindsBefore with ⟨formsBefore, -⟩
  rcases Header.options_of_map_kind kindsBehind with ⟨formsBehind, -⟩
  rcases constraint with ⟨offset, line, form, text'⟩
  cases form with
  | options => cases isExpression
  | expression =>
      cases isExpression
      rw [admitsSource, Header.ofSource, Header.scanFrom_eq, shape,
        List.foldlM_append, Header.foldlM_add_options formsBefore,
        Reader.ok_bind, List.foldlM_cons, Header.add]
      dsimp only
      rw [if_neg (by simp [Header.empty]), Reader.ok_bind,
        Header.foldlM_add_options formsBehind, Reader.ok_bind]
      dsimp only
      rw [Expression.ofText_eq_ok_iff.mpr written]
      rfl

end Context

/-- A line of the older form with some options. -/
def WritesOptions (options : List (List Term)) (line : List Char) : Prop :=
  ∃ body, OptionsLine body line ∧ ListsOptions options body

/-- A line of the newer form with an expression. -/
def WritesExpression (expression : Expression) (line : List Char) : Prop :=
  ∃ body, ExpressionLine body line ∧ Written body expression

theorem exists_texts
    {lines : List (List Char)}
    (each : ∀ line ∈ lines, ∃ body, OptionsLine body line) :
    ∃ texts : List (List Char), lines.map (Header.classify false) =
      texts.map Header.Line.options := by
  induction lines with
  | nil => exact ⟨[], rfl⟩
  | cons line lines ih =>
      rw [List.forall_mem_cons] at each
      rcases each.1 with ⟨body, isLine⟩
      rcases ih each.2 with ⟨texts, kinds⟩
      refine ⟨trim body :: texts, ?_⟩
      rw [List.map_cons, List.map_cons, isLine.classify_eq, kinds]

theorem exists_texts_of_writesOptions
    {written : List (List (List Term))} {lines : List (List Char)}
    (each : List.Forall₂ WritesOptions written lines)
    (nonempty : ∀ options ∈ written, ∀ option ∈ options, option ≠ [])
    (context : Context) :
    ∃ texts : List (List Char),
      lines.map (Header.classify false) =
        texts.map Header.Line.options ∧
      texts.all context.satisfiesOptions = holdsLines context written := by
  induction each with
  | nil => exact ⟨[], rfl, rfl⟩
  | @cons options line _ _ writes _ ih =>
      rw [List.forall_mem_cons] at nonempty
      rcases writes with ⟨body, isLine, lists⟩
      rcases ih nonempty.2 with ⟨texts, kinds, same⟩
      refine ⟨trim body :: texts, ?_, ?_⟩
      · rw [List.map_cons, List.map_cons, isLine.classify_eq, kinds]
      · rw [List.all_cons, same, lists.satisfiesOptions_eq nonempty.1]
        rfl

/-- Both forms of constraints mean the same.  A header with lines of the older form, and one with a
line of the newer form that joins their options, give the same answer.  In a header with both, the
line of the newer form decides alone, whatever it and the others say. -/
theorem Context.admitsSource_forms
    (context : Context) {expression : Expression} {line : List Char}
    (isLine : WritesExpression expression line)
    {modern : List Char}
    (isModern : Header.HasLines false [line] modern) :
    context.admitsSource modern = .ok (expression.holds context) ∧
    (∀ {options : List (List (List Term))} {lines : List (List Char)}
      {legacy : List Char},
      Expression.JoinsLines options expression →
      List.Forall₂ WritesOptions options lines →
      Header.HasLines false lines legacy →
      context.admitsSource legacy = context.admitsSource modern ∧
      context.admitsSource legacy = .ok (holdsLines context options)) ∧
    ∀ (front back : List (List Char)) {both : List Char},
      (∀ line ∈ front ++ back, ∃ body, OptionsLine body line) →
      Header.HasLines false (front ++ line :: back) both →
      context.admitsSource both = context.admitsSource modern := by
  have decides (front back : List (List Char)) {source : List Char}
      (others : ∀ line ∈ front ++ back, ∃ body, OptionsLine body line)
      (has : Header.HasLines false (front ++ line :: back) source) :
      context.admitsSource source = .ok (expression.holds context) := by
    rw [List.forall_mem_append] at others
    rcases isLine with ⟨body, isLine, written⟩
    rcases exists_texts others.1 with ⟨frontTexts, frontKinds⟩
    rcases exists_texts others.2 with ⟨backTexts, backKinds⟩
    have kinds :
        (front ++ line :: back).map (Header.classify false) =
          frontTexts.map .options ++
            .expression (trim body) :: backTexts.map .options := by
      rw [List.map_append, List.map_cons, frontKinds, backKinds,
        isLine.classify_eq]
    refine Context.admitsSource_of_expression
      (has.map_kind kinds ?_ 0) written.trim
    simp [Header.Line.Constrains, or_imp, forall_and]
  have single := decides [] [] (by simp) isModern
  refine ⟨single, ?_, ?_⟩
  · intro options lines legacy joins writes has
    rcases exists_texts_of_writesOptions writes (option_ne_nil joins)
      context with ⟨texts, kinds, same⟩
    have legacyAnswer :
        context.admitsSource legacy = .ok (holdsLines context options) := by
      rw [← same]
      refine Context.admitsSource_of_options (has.map_kind kinds ?_ 0)
      simp [Header.Line.Constrains]
    rw [single, holds_of_joinsLines joins]
    exact ⟨legacyAnswer, legacyAnswer⟩
  · intro front back both others has
    rw [decides front back others has, single]

/-- Two lines of the older form, and the line of the newer form that says the same. -/
theorem Context.admitsSource_forms_two_lines :
    let context : Context := ⟨"linux", "amd64", false, []⟩
    let comment := "/* Only some builds. */".toList
    let legacyLines :=
      ["// +build linux,!cgo darwin".toList, "//\t+build\tamd64 ".toList]
    let modernLine := "//go:build (linux && !cgo || darwin) && amd64".toList
    let clause := "package p".toList
    context.admitsSource
        (comment ++ '\n' ::
          (legacyLines[0] ++ '\n' :: (legacyLines[1] ++ '\n' :: clause))) =
      .ok true ∧
    context.admitsSource (modernLine ++ '\n' :: clause) = .ok true ∧
    context.admitsSource
        ("// +build ignore".toList ++ '\n' ::
          (modernLine ++ '\n' :: ("//+build".toList ++ '\n' :: clause))) =
      .ok true := by
  intro context comment legacyLines modernLine clause
  have none : Blank [] := Text.blank_nil
  have space : Blank [' '] := by decide
  have tab : Blank ['\t'] := by decide
  have linux : IsTag "linux" := by decide
  have cgo : IsTag "cgo" := by decide
  have darwin : IsTag "darwin" := by decide
  have amd64 : IsTag "amd64" := by decide +kernel
  let expression : Expression :=
    .and (.or (.and (.tag "linux") (.not (.tag "cgo"))) (.tag "darwin"))
      (.tag "amd64")
  have writes : WritesExpression expression modernLine := by
    refine ⟨" (linux && !cgo || darwin) && amd64".toList,
      .line none (by decide), expression.words .disjunction,
      ⟨[], none, ?_⟩, Expression.derives_words ?_ .disjunction⟩
    · exact .word space (.word none (.word space (.word space (.word none
        (.word space (.word space (.word none (.word space (.word space
          .done)))))))))
    · exact ⟨⟨⟨linux, cgo⟩, darwin⟩, amd64⟩
  have ends : Header.constraints 0 false clause = [] := by
    rw [Header.constraints_last (by decide)]
    rfl
  have isModern :
      Header.HasLines false [modernLine] (modernLine ++ '\n' :: clause) :=
    .line (by decide) (.done ends)
  rcases Context.admitsSource_forms context writes isModern with
    ⟨single, legacy, both⟩
  have holds : expression.holds context = true := by decide
  rw [holds] at single
  refine ⟨?_, single, ?_⟩
  · let onLinux : Term := ⟨false, "linux", linux⟩
    let noCgo : Term := ⟨true, "cgo", cgo⟩
    let onDarwin : Term := ⟨false, "darwin", darwin⟩
    let onAmd64 : Term := ⟨false, "amd64", amd64⟩
    have joins :
        Expression.JoinsLines
          ([[[onLinux] ++ [noCgo]] ++ [[onDarwin]]] ++ [[[onAmd64]]])
          expression :=
      .join (.single (.join (.single (.join (.single rfl) (.single rfl)))
        (.single (.single rfl)))) (.single (.single (.single rfl)))
    have firstBody :
        [' '] ++ (optionText [onLinux, noCgo] ++
          ([' '] ++ (optionText [onDarwin] ++ []))) =
            " linux,!cgo darwin".toList := by
      simp [optionText, Term.text, onLinux, noCgo, onDarwin]
    have secondBody :
        ['\t'] ++ (optionText [onAmd64] ++ [' ']) =
          "\tamd64 ".toList := by
      simp [optionText, Term.text, onAmd64]
    have writesLines :
        List.Forall₂ WritesOptions
          [[[onLinux, noCgo], [onDarwin]], [[onAmd64]]] legacyLines := by
      refine .cons ⟨" linux,!cgo darwin".toList, ?_, ?_⟩
        (.cons ⟨"\tamd64 ".toList, ?_, ?_⟩ .nil)
      · exact .line none space (by decide)
      · rw [← firstBody]
        exact .cons space (by decide) (.cons space (by decide) (.nil none))
      · exact .line none tab (by decide)
      · rw [← secondBody]
        exact .cons tab (by decide) (.nil space)
    have has :
        Header.HasLines false legacyLines
          (comment ++ '\n' :: (legacyLines[0] ++ '\n' ::
            (legacyLines[1] ++ '\n' :: clause))) :=
      .plain (by decide) (by decide)
        (.line (by decide) (.line (by decide) (.done ends)))
    rw [(legacy joins writesLines has).1, single]
  · have ignored : OptionsLine " ignore".toList "// +build ignore".toList :=
      .line none space (by decide)
    have isEmpty : OptionsLine [] "//+build".toList :=
      .line none none (by decide)
    have others :
        ∀ line ∈ ["// +build ignore".toList] ++ ["//+build".toList],
          ∃ body, OptionsLine body line := by
      simpa using ⟨⟨_, ignored⟩, ⟨_, isEmpty⟩⟩
    have has :
        Header.HasLines false
          (["// +build ignore".toList] ++
            modernLine :: ["//+build".toList])
          ("// +build ignore".toList ++ '\n' ::
            (modernLine ++ '\n' :: ("//+build".toList ++ '\n' :: clause))) :=
      .line (by decide) (.line (by decide) (.line (by decide)
        (.done ends)))
    rw [both _ _ others has, single]

end Build

end GoUnion
