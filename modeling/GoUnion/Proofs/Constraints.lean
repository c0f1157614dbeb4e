import GoUnion.Build.Expression
import GoUnion.Proofs.Lexing.Names
import Mathlib.Data.List.TakeWhile

/-!
# The grammar of build expressions

An expression is a disjunction of conjunctions of operands.  An operand is a
tag, a negated operand, or a disjunction between parentheses.  Both binary
operators group to the left: a disjunction is a conjunction, or a disjunction
with one more conjunction behind it.

The grammar is stated on words.  A text consists of words with white space
around them, which may be missing everywhere.
-/

namespace GoUnion

namespace Text

/-- What holds of every code point in the ranges of a set holds of every character in it. -/
theorem CharSet.of_contains
    {set : CharSet} (holds : Char → Bool)
    (each : set.ranges.all fun (first, last) =>
      (List.range' first (last + 1 - first)).all fun code =>
        holds (Char.ofNat code))
    {c : Char} (isIn : set.contains c = true) : holds c = true := by
  rcases exists_range_of_search isIn with ⟨range, isRange, low, high⟩
  rw [List.all_eq_true] at each
  have inRange := List.all_eq_true.mp (each range isRange) c.toNat
    (List.mem_range'_1.mpr ⟨low, by omega⟩)
  rwa [Char.ofNat_toNat] at inRange

/-- A text of white space only. -/
def Blank (text : List Char) : Prop :=
  ∀ c ∈ text, isBlank c = true

instance (text : List Char) : Decidable (Blank text) :=
  decidable_of_iff (text.all isBlank = true) List.all_eq_true

theorem blank_nil : Blank [] :=
  fun _ isIn => absurd isIn List.not_mem_nil

/-- A text without white space. -/
def Solid (text : List Char) : Prop :=
  ∀ c ∈ text, isBlank c = false

instance (text : List Char) : Decidable (Solid text) :=
  decidable_of_iff (text.all (!isBlank ·) = true) (by simp [Solid])

theorem trimStart_blank_append
    {blank : List Char} (isBlank : Blank blank) (text : List Char) :
    trimStart (blank ++ text) = trimStart text :=
  List.dropWhile_append_of_pos isBlank

theorem trimStart_of_starts
    {c : Char} {rest : List Char} (starts : isBlank c = false) :
    trimStart (c :: rest) = c :: rest :=
  List.dropWhile_cons_of_neg (by simp [starts])

theorem trimStart_eq_nil {text : List Char} :
    trimStart text = [] ↔ Blank text :=
  List.dropWhile_eq_nil_iff

/-- White space goes up to what is left without it. -/
theorem exists_blank (text : List Char) :
    ∃ blank, Blank blank ∧ text = blank ++ trimStart text :=
  ⟨text.takeWhile isBlank, fun _ => List.mem_takeWhile_imp,
    List.takeWhile_append_dropWhile.symm⟩

end Text

namespace Build.Expression

open Text (Blank isBlank trimStart)
open Lexeme (Stops)

/-- White space is no part of a tag. -/
theorem inTag_of_isBlank {c : Char} (blank : isBlank c = true) :
    inTag c = false := by
  have outside : (!inTag c) = true :=
    Text.CharSet.of_contains (fun c => !inTag c) (by decide +kernel) blank
  simpa using outside

theorem isBlank_of_inTag {c : Char} (inside : inTag c = true) :
    isBlank c = false := by
  cases blank : isBlank c with
  | false => rfl
  | true => rw [inTag_of_isBlank blank] at inside; cases inside

/-! ## Words -/

/-- A word of an expression. -/
inductive Word where
  | tag (name : String)
  | not
  | and
  | or
  | opening
  | closing
  deriving DecidableEq, Repr

/-- The text of a word. -/
def Word.text : Word → List Char
  | .tag name => name.toList
  | .not => ['!']
  | .and => ['&', '&']
  | .or => ['|', '|']
  | .opening => ['(']
  | .closing => [')']

/-- A text that can be a tag. -/
structure IsTag (name : String) : Prop where
  nonempty : name ≠ ""
  inside : ∀ c ∈ name.toList, inTag c = true

instance (name : String) : Decidable (IsTag name) :=
  decidable_of_iff (name ≠ "" ∧ name.toList.all inTag = true)
    ⟨fun ⟨nonempty, inside⟩ => ⟨nonempty, List.all_eq_true.mp inside⟩,
      fun isTag => ⟨isTag.nonempty, List.all_eq_true.mpr isTag.inside⟩⟩

/-- A word that is no tag, or a tag that can be written. -/
def Word.Valid : Word → Prop
  | .tag name => IsTag name
  | _ => True

/-- A text opens with some words, each behind white space that may be missing, and the rest
follows. -/
inductive Spaced (rest : List Char) : List Word → List Char → Prop where
  | done : Spaced rest [] rest
  | word {word : Word} {words : List Word} {blank text : List Char}
      (isBlank : Blank blank) (later : Spaced rest words text) :
      Spaced rest (word :: words) (blank ++ (word.text ++ text))

/-- A text consists of some words with white space around them. -/
def Consists (words : List Word) (text : List Char) : Prop :=
  ∃ blank, Blank blank ∧ Spaced blank words text

variable {words front back : List Word} {word : Word}
  {text middle rest : List Char} {expression : Expression}

theorem Spaced.single
    {blank : List Char} (isBlank : Blank blank) (word : Word)
    (rest : List Char) :
    Spaced rest [word] (blank ++ (word.text ++ rest)) :=
  .word isBlank .done

theorem Spaced.append
    (before : Spaced middle front text) (behind : Spaced rest back middle) :
    Spaced rest (front ++ back) text := by
  induction before with
  | done => exact behind
  | word isBlank _ ih => exact .word isBlank ih

theorem Spaced.split
    (spaced : Spaced rest (front ++ back) text) :
    ∃ middle, Spaced middle front text ∧ Spaced rest back middle := by
  induction front generalizing text with
  | nil => exact ⟨text, .done, spaced⟩
  | cons word front ih =>
      cases spaced with
      | word isBlank later =>
          rcases ih later with ⟨middle, before, behind⟩
          exact ⟨middle, .word isBlank before, behind⟩

/-- A word starts with a character that is not white space. -/
theorem Word.Valid.exists_start (valid : word.Valid) :
    ∃ c tail, word.text = c :: tail ∧ isBlank c = false := by
  cases word with
  | tag name =>
      rcases shape : name.toList with _ | ⟨c, tail⟩
      · exact absurd (String.toList_eq_nil_iff.mp shape) valid.nonempty
      · refine ⟨c, tail, shape, isBlank_of_inTag (valid.inside c ?_)⟩
        rw [shape]
        exact List.mem_cons_self
  | not | and | or | opening | closing => exact ⟨_, _, rfl, by decide⟩

/-- Behind white space stands the first word. -/
theorem Spaced.trimStart_eq
    (spaced : Spaced rest (word :: words) text) (valid : word.Valid) :
    ∃ later, trimStart text = word.text ++ later ∧
      Spaced rest words later := by
  cases spaced with
  | word isBlank later =>
      rcases valid.exists_start with ⟨c, tail, shape, starts⟩
      refine ⟨_, ?_, later⟩
      rw [Text.trimStart_blank_append isBlank, shape, List.cons_append,
        Text.trimStart_of_starts starts]

/-- An operator or a parenthesis ends a tag in front of it. -/
theorem Spaced.stops
    (spaced : Spaced rest (word :: words) text)
    (noTag : ∀ name, word ≠ .tag name) : Stops inTag text := by
  cases spaced with
  | @word _ _ blank text isBlank later =>
      cases blank with
      | cons c blank =>
          exact Lexeme.stops_cons.mpr
            (inTag_of_isBlank (isBlank c List.mem_cons_self))
      | nil =>
          cases word with
          | tag name => exact absurd rfl (noTag name)
          | not | and | or | opening | closing =>
              exact Lexeme.stops_cons.mpr (by decide)

/-! ## Derivations -/

/-- The pieces of an expression, from the strongest to the weakest. -/
inductive Strength where
  | operand
  | conjunction
  | disjunction
  deriving DecidableEq, Repr

/-- Which words form which expression. -/
inductive Derives : Strength → List Word → Expression → Prop where
  | tag {name : String} (isTag : IsTag name) :
      Derives .operand [.tag name] (.tag name)
  | not {words : List Word} {operand : Expression}
      (derives : Derives .operand words operand) :
      Derives .operand (.not :: words) (.not operand)
  | group {words : List Word} {expression : Expression}
      (derives : Derives .disjunction words expression) :
      Derives .operand (.opening :: (words ++ [.closing])) expression
  | operand {words : List Word} {expression : Expression}
      (derives : Derives .operand words expression) :
      Derives .conjunction words expression
  | and {front back : List Word} {left right : Expression}
      (derivesLeft : Derives .conjunction front left)
      (derivesRight : Derives .operand back right) :
      Derives .conjunction (front ++ .and :: back) (.and left right)
  | conjunction {words : List Word} {expression : Expression}
      (derives : Derives .conjunction words expression) :
      Derives .disjunction words expression
  | or {front back : List Word} {left right : Expression}
      (derivesLeft : Derives .disjunction front left)
      (derivesRight : Derives .conjunction back right) :
      Derives .disjunction (front ++ .or :: back) (.or left right)

/-- A text is an expression. -/
def Written (text : List Char) (expression : Expression) : Prop :=
  ∃ words, Consists words text ∧ Derives .disjunction words expression

end Build.Expression

end GoUnion
