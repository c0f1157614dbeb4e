import GoUnion.Proofs.Constraints
import GoUnion.Proofs.Grammar.Consumption
import Mathlib.Data.List.Basic

/-!
# Reading build expressions

The reader of a piece takes words from the front of a text that form the piece,
and it takes every such piece, as long as what follows cannot continue it.  So a
text reads as an expression exactly if it is that expression.
-/

namespace GoUnion.Build.Expression

open Text (Blank isBlank trimStart)
open Lexeme (Stops)
open Reader (bind_eq_ok ok_bind)

variable {words : List Word} {word other : Word}
  {operator text middle rest later : List Char} {expression : Expression}

/-! ## Operators and tags -/

theorem length_trimStart_le (text : List Char) :
    (trimStart text).length ≤ text.length :=
  List.length_dropWhile_le _ text

/-- What is taken is an operator behind white space. -/
theorem after?_eq_some
    {taken : { rest : List Char // rest.length < text.length }}
    (found : after? operator text = some taken) :
    ∃ blank, Blank blank ∧ text = blank ++ (operator ++ taken.1) := by
  rw [after?] at found
  split at found
  case h_1 => cases found
  case h_2 rest isPrefix =>
    split at found
    case isFalse => cases found
    case isTrue =>
      cases found
      rcases Text.exists_blank text with ⟨blank, isBlank, shape⟩
      rw [List.isPrefixOf?_eq_some_iff_append_eq] at isPrefix
      rw [← isPrefix] at shape
      exact ⟨blank, isBlank, shape⟩

/-- A word that is taken stands in front of what is left. -/
theorem Spaced.taken
    (word : Word)
    {taken : { rest : List Char // rest.length < text.length }}
    (found : after? word.text text = some taken)
    (behind : Spaced rest words taken.1) :
    Spaced rest (word :: words) text := by
  rcases after?_eq_some found with ⟨blank, isBlank, shape⟩
  rw [shape]
  exact .word isBlank behind

theorem after?_of_trimStart
    (nonempty : operator ≠ []) (shape : trimStart text = operator ++ later) :
    ∃ shorter, after? operator text = some ⟨later, shorter⟩ := by
  have shorter : later.length < text.length := by
    have bound := length_trimStart_le text
    have long := List.length_pos_iff.mpr nonempty
    rw [shape, List.length_append] at bound
    omega
  refine ⟨shorter, ?_⟩
  rw [after?, shape, List.isPrefixOf?_eq_some_iff_append_eq.mpr rfl]
  exact dif_pos shorter

theorem isPrefixOf?_of_ne
    {c d : Char} (different : c ≠ d) (front text : List Char) :
    (c :: front).isPrefixOf? (d :: text) = none := by
  rw [List.isPrefixOf?, beq_false_of_ne different]
  rfl

/-- Words that start differently are not taken for each other. -/
theorem Word.not_prefix
    (valid : word.Valid) (noTag : ∀ name, other ≠ .tag name)
    (different : other ≠ word) (later : List Char) :
    other.text.isPrefixOf? (word.text ++ later) = none := by
  cases word with
  | tag name =>
      rcases shape : name.toList with _ | ⟨c, tail⟩
      · exact absurd (String.toList_eq_nil_iff.mp shape) valid.nonempty
      have inside : inTag c = true :=
        valid.inside c (shape ▸ List.mem_cons_self)
      have noMark {mark : Char} (outside : inTag mark = false) :
          mark ≠ c := by
        rintro rfl
        rw [inside] at outside
        cases outside
      rw [text.eq_1, shape]
      cases other with
      | tag name => exact absurd rfl (noTag name)
      | not | and | or | opening | closing =>
          exact isPrefixOf?_of_ne (noMark (by decide)) _ _
  | not | and | or | opening | closing =>
      cases other with
      | tag name => exact absurd rfl (noTag name)
      | not | and | or | opening | closing =>
          first
          | exact absurd rfl different
          | exact isPrefixOf?_of_ne (by decide) _ _

theorem Spaced.after?_eq
    (spaced : Spaced rest (word :: words) text)
    (noTag : ∀ name, word ≠ .tag name) :
    ∃ later shorter, after? word.text text = some ⟨later, shorter⟩ ∧
      Spaced rest words later := by
  have valid : word.Valid := by
    cases word with
    | tag name => exact absurd rfl (noTag name)
    | not | and | or | opening | closing => trivial
  rcases valid.exists_start with ⟨c, tail, start, -⟩
  rcases spaced.trimStart_eq valid with ⟨later, shape, spaced'⟩
  rcases after?_of_trimStart (start ▸ List.cons_ne_nil c tail) shape with
    ⟨shorter, found⟩
  exact ⟨later, shorter, found, spaced'⟩

theorem Spaced.after?_eq_none
    (other : Word) (spaced : Spaced rest (word :: words) text)
    (valid : word.Valid) (noTag : ∀ name, other ≠ .tag name) (different : other ≠ word) :
    after? other.text text = none := by
  rcases spaced.trimStart_eq valid with ⟨later, shape, -⟩
  rw [after?, shape, Word.not_prefix valid noTag different]

theorem readTag_derives
    {rest : { rest : List Char // rest.length < text.length }}
    (succeeds : readTag text = .ok (expression, rest)) :
    ∃ words, Spaced rest.1 words text ∧
      Derives .operand words expression := by
  rcases Text.exists_blank text with ⟨blank, isBlank, shape⟩
  rw [readTag] at succeeds
  split at succeeds
  case h_1 => cases succeeds
  case h_2 c tail start =>
    split at succeeds
    case isFalse => cases succeeds
    case isTrue inside =>
      dsimp only at succeeds
      split at succeeds
      case isFalse => cases succeeds
      case isTrue =>
        cases succeeds
        let name := String.ofList ((trimStart text).takeWhile inTag)
        have isTag : IsTag name := by
          refine ⟨?_, fun c isIn => ?_⟩
          · simp [name, start, inside]
          · rw [String.toList_ofList] at isIn
            exact List.mem_takeWhile_imp isIn
        have whole :
            text = blank ++ ((Word.tag name).text ++
              (trimStart text).dropWhile inTag) := by
          rw [Word.text, String.toList_ofList,
            List.takeWhile_append_dropWhile]
          exact shape
        have spaced := Spaced.single isBlank (.tag name)
          ((trimStart text).dropWhile inTag)
        rw [← whole] at spaced
        exact ⟨[.tag name], spaced, .tag isTag⟩

/-- A reader takes an expression and leaves a rest. -/
def Gives
    {within : List Char → Prop}
    (result : Except ConstraintFault (Expression × { rest // within rest }))
    (expression : Expression) (rest : List Char) : Prop :=
  ∃ isWithin, result = .ok (expression, ⟨rest, isWithin⟩)

theorem gives_readTag
    {name : String} (isTag : IsTag name)
    (spaced : Spaced rest [.tag name] text) (stops : Stops inTag rest) :
    Gives (readTag text) (.tag name) rest := by
  rcases spaced.trimStart_eq isTag with ⟨later, shape, spaced'⟩
  cases spaced'
  rcases nonempty : name.toList with _ | ⟨c, tail⟩
  · exact absurd (String.toList_eq_nil_iff.mp nonempty) isTag.nonempty
  have inside : inTag c = true :=
    isTag.inside c (nonempty ▸ List.mem_cons_self)
  have taken : (trimStart text).takeWhile inTag = name.toList := by
    rw [shape]
    exact Lexeme.takeWhile_of_stops isTag.inside stops
  have left : (trimStart text).dropWhile inTag = rest := by
    have whole : _ ++ (trimStart text).dropWhile inTag = trimStart text :=
      List.takeWhile_append_dropWhile
    rw [taken, shape] at whole
    rw [shape]
    exact List.append_cancel_left whole
  have shorter : rest.length < text.length := by
    have bound := length_trimStart_le text
    rw [shape, Word.text, nonempty, List.length_append,
      List.length_cons] at bound
    omega
  refine ⟨shorter, ?_⟩
  rw [readTag]
  split
  case h_1 isNil =>
    rw [shape, Word.text, nonempty] at isNil
    cases isNil
  case h_2 d more start =>
    rw [shape, Word.text, nonempty] at start
    cases start
    rw [if_pos inside]
    dsimp only
    rw [dif_pos (by rw [left]; exact shorter)]
    simp only [taken, left, String.ofList_toList]

/-! ## What a reader takes is a piece -/

mutual

theorem readOr_derives
    {text : List Char} {expression : Expression}
    {rest : { rest : List Char // rest.length < text.length }}
    (succeeds : readOr text = .ok (expression, rest)) :
    ∃ words, Spaced rest.1 words text ∧
      Derives .disjunction words expression := by
  rw [readOr] at succeeds
  obtain ⟨⟨first, ⟨middle, byFirst⟩⟩, readsFirst, succeeds⟩ :=
    bind_eq_ok succeeds
  obtain ⟨⟨whole, ⟨final, byMore⟩⟩, readsMore, succeeds⟩ :=
    bind_eq_ok succeeds
  cases succeeds
  obtain ⟨front, before, derives⟩ := readAnd_derives readsFirst
  obtain ⟨back, behind, derives'⟩ :=
    moreOr_derives (.conjunction derives) readsMore
  exact ⟨front ++ back, before.append behind, derives'⟩
  termination_by 8 * text.length + 2
  decreasing_by all_goals omega

theorem moreOr_derives
    {text : List Char} {left expression : Expression} {front : List Word}
    {rest : { rest : List Char // rest.length ≤ text.length }}
    (derives : Derives .disjunction front left)
    (succeeds : moreOr left text = .ok (expression, rest)) :
    ∃ words, Spaced rest.1 words text ∧
      Derives .disjunction (front ++ words) expression := by
  rw [moreOr] at succeeds
  split at succeeds
  case h_1 =>
    cases succeeds
    exact ⟨[], .done, by rwa [List.append_nil]⟩
  case h_2 operand shorter found =>
    obtain ⟨⟨right, ⟨middle, byRight⟩⟩, readsRight, succeeds⟩ :=
      bind_eq_ok succeeds
    obtain ⟨⟨whole, ⟨final, byMore⟩⟩, readsMore, succeeds⟩ :=
      bind_eq_ok succeeds
    cases succeeds
    obtain ⟨inner, before, derivesRight⟩ := readAnd_derives readsRight
    obtain ⟨back, behind, derivesAll⟩ :=
      moreOr_derives (.or derives derivesRight) readsMore
    exact ⟨.or :: (inner ++ back),
      .taken .or found (before.append behind), by simpa using derivesAll⟩
  termination_by 8 * text.length + 3
  decreasing_by all_goals omega

theorem readAnd_derives
    {text : List Char} {expression : Expression}
    {rest : { rest : List Char // rest.length < text.length }}
    (succeeds : readAnd text = .ok (expression, rest)) :
    ∃ words, Spaced rest.1 words text ∧
      Derives .conjunction words expression := by
  rw [readAnd] at succeeds
  obtain ⟨⟨first, ⟨middle, byFirst⟩⟩, readsFirst, succeeds⟩ :=
    bind_eq_ok succeeds
  obtain ⟨⟨whole, ⟨final, byMore⟩⟩, readsMore, succeeds⟩ :=
    bind_eq_ok succeeds
  cases succeeds
  obtain ⟨front, before, derives⟩ := readNot_derives readsFirst
  obtain ⟨back, behind, derives'⟩ :=
    moreAnd_derives (.operand derives) readsMore
  exact ⟨front ++ back, before.append behind, derives'⟩
  termination_by 8 * text.length + 1
  decreasing_by all_goals omega

theorem moreAnd_derives
    {text : List Char} {left expression : Expression} {front : List Word}
    {rest : { rest : List Char // rest.length ≤ text.length }}
    (derives : Derives .conjunction front left)
    (succeeds : moreAnd left text = .ok (expression, rest)) :
    ∃ words, Spaced rest.1 words text ∧
      Derives .conjunction (front ++ words) expression := by
  rw [moreAnd] at succeeds
  split at succeeds
  case h_1 =>
    cases succeeds
    exact ⟨[], .done, by rwa [List.append_nil]⟩
  case h_2 operand shorter found =>
    obtain ⟨⟨right, ⟨middle, byRight⟩⟩, readsRight, succeeds⟩ :=
      bind_eq_ok succeeds
    obtain ⟨⟨whole, ⟨final, byMore⟩⟩, readsMore, succeeds⟩ :=
      bind_eq_ok succeeds
    cases succeeds
    obtain ⟨inner, before, derivesRight⟩ := readNot_derives readsRight
    obtain ⟨back, behind, derivesAll⟩ :=
      moreAnd_derives (.and derives derivesRight) readsMore
    exact ⟨.and :: (inner ++ back),
      .taken .and found (before.append behind), by simpa using derivesAll⟩
  termination_by 8 * text.length + 3
  decreasing_by all_goals omega

theorem readNot_derives
    {text : List Char} {expression : Expression}
    {rest : { rest : List Char // rest.length < text.length }}
    (succeeds : readNot text = .ok (expression, rest)) :
    ∃ words, Spaced rest.1 words text ∧
      Derives .operand words expression := by
  rw [readNot] at succeeds
  split at succeeds
  case h_1 operand shorter found =>
    obtain ⟨⟨inner, ⟨final, byInner⟩⟩, readsInner, succeeds⟩ :=
      bind_eq_ok succeeds
    cases succeeds
    obtain ⟨words, spaced, derives⟩ := readNot_derives readsInner
    exact ⟨.not :: words, .taken .not found spaced, .not derives⟩
  case h_2 =>
    split at succeeds
    case h_1 => exact readTag_derives succeeds
    case h_2 inside shorter found =>
      obtain ⟨⟨inner, ⟨closing, byInner⟩⟩, readsInner, succeeds⟩ :=
        bind_eq_ok succeeds
      dsimp only at succeeds
      split at succeeds
      case h_1 => cases succeeds
      case h_2 final byClosing found' =>
        cases succeeds
        obtain ⟨words, spaced, derives⟩ := readOr_derives readsInner
        exact ⟨.opening :: (words ++ [.closing]),
          .taken .opening found
            (spaced.append (.taken .closing found' .done)),
          .group derives⟩
  termination_by 8 * text.length
  decreasing_by all_goals omega

end

/-! ## A reader takes every piece -/

/-- The reader of a piece goes on behind it, where it does not meet the operator of a stronger
piece. -/
def Accepts
    (text rest : List Char) (expression : Expression) : Strength → Prop
  | .operand => Gives (readNot text) expression rest
  | .conjunction => ∀ whole final,
      Gives (moreAnd expression rest) whole final →
        Gives (readAnd text) whole final
  | .disjunction => after? ['&', '&'] rest = none → ∀ whole final,
      Gives (moreOr expression rest) whole final →
        Gives (readOr text) whole final

theorem gives_moreAnd
    (noMore : after? ['&', '&'] rest = none) (expression : Expression) :
    Gives (moreAnd expression rest) expression rest := by
  refine ⟨Nat.le_refl _, ?_⟩
  rw [moreAnd, noMore]

theorem gives_moreOr
    (noMore : after? ['|', '|'] rest = none) (expression : Expression) :
    Gives (moreOr expression rest) expression rest := by
  refine ⟨Nat.le_refl _, ?_⟩
  rw [moreOr, noMore]

theorem Derives.accepts
    {strength : Strength}
    (derives : Derives strength words expression)
    (spaced : Spaced rest words text) (stops : Stops inTag rest) :
    Accepts text rest expression strength := by
  induction derives generalizing text rest with
  | tag isTag =>
      have noNot : after? ['!'] text = none :=
        Spaced.after?_eq_none .not spaced isTag (by simp) (by simp)
      have noGroup : after? ['('] text = none :=
        Spaced.after?_eq_none .opening spaced isTag (by simp) (by simp)
      rcases gives_readTag isTag spaced stops with ⟨within, reads⟩
      refine ⟨within, ?_⟩
      rw [readNot, noNot, noGroup]
      exact reads
  | not _ ih =>
      rcases spaced.after?_eq (by simp) with ⟨later, shorter, found, behind⟩
      rcases ih behind stops with ⟨within, reads⟩
      refine ⟨by omega, ?_⟩
      rw [readNot, show after? ['!'] text = _ from found]
      dsimp only
      rw [reads]
      rfl
  | group _ ih =>
      have noNot : after? ['!'] text = none :=
        Spaced.after?_eq_none .not spaced trivial (by simp) (by simp)
      rcases spaced.after?_eq (by simp) with ⟨later, shorter, found, behind⟩
      rcases behind.split with ⟨middle, inside, closed⟩
      rcases closed.after?_eq (by simp) with ⟨final, shorter', found', isEnd⟩
      cases isEnd
      have noAnd : after? ['&', '&'] middle = none :=
        Spaced.after?_eq_none .and closed trivial (by simp) (by simp)
      have noOr : after? ['|', '|'] middle = none :=
        Spaced.after?_eq_none .or closed trivial (by simp) (by simp)
      rcases ih inside (closed.stops (by simp)) noAnd _ _
        (gives_moreOr noOr _) with ⟨within, reads⟩
      refine ⟨by omega, ?_⟩
      rw [readNot, noNot, show after? ['('] text = _ from found]
      dsimp only
      rw [reads, ok_bind]
      dsimp only
      rw [show after? [')'] middle = _ from found']
      rfl
  | operand _ ih =>
      rintro whole final ⟨within, goesOn⟩
      rcases ih spaced stops with ⟨shorter, reads⟩
      refine ⟨by omega, ?_⟩
      rw [readAnd, reads, ok_bind]
      dsimp only
      rw [goesOn]
      rfl
  | and _ _ ihLeft ihRight =>
      rintro whole final ⟨within, goesOn⟩
      rcases spaced.split with ⟨middle, before, behind⟩
      rcases behind.after?_eq (by simp) with ⟨later, shorter, found, behind'⟩
      rcases ihRight behind' stops with ⟨within', reads⟩
      refine ihLeft before (behind.stops (by simp)) whole final
        ⟨by omega, ?_⟩
      rw [moreAnd, show after? ['&', '&'] middle = _ from found]
      dsimp only
      rw [reads, ok_bind]
      dsimp only
      rw [goesOn]
      rfl
  | conjunction _ ih =>
      rintro noAnd whole final ⟨within, goesOn⟩
      rcases ih spaced stops _ _ (gives_moreAnd noAnd _) with
        ⟨shorter, reads⟩
      refine ⟨by omega, ?_⟩
      rw [readOr, reads, ok_bind]
      dsimp only
      rw [goesOn]
      rfl
  | or _ _ ihLeft ihRight =>
      rintro noAnd whole final ⟨within, goesOn⟩
      rcases spaced.split with ⟨middle, before, behind⟩
      have noAnd' : after? ['&', '&'] middle = none :=
        Spaced.after?_eq_none .and behind trivial (by simp) (by simp)
      rcases behind.after?_eq (by simp) with ⟨later, shorter, found, behind'⟩
      rcases ihRight behind' stops _ _ (gives_moreAnd noAnd _) with
        ⟨within', reads⟩
      refine ihLeft before (behind.stops (by simp)) noAnd' whole final
        ⟨by omega, ?_⟩
      rw [moreOr, show after? ['|', '|'] middle = _ from found]
      dsimp only
      rw [reads, ok_bind]
      dsimp only
      rw [goesOn]
      rfl

/-! ## Whole texts -/

/-- Where only white space is left, no operator comes next. -/
theorem after?_of_blank
    (blank : Blank text) (nonempty : operator ≠ []) :
    after? operator text = none := by
  rw [after?, Text.trimStart_eq_nil.mpr blank]
  cases operator with
  | nil => exact absurd rfl nonempty
  | cons c operator => rfl

theorem stops_of_blank (blank : Blank text) : Stops inTag text :=
  fun c isHead => inTag_of_isBlank (blank c (List.mem_of_mem_head? isHead))

theorem Derives.valid
    {strength : Strength}
    (derives : Derives strength words expression) :
    ∀ word ∈ words, word.Valid := by
  induction derives with
  | tag isTag =>
      intro word isIn
      rw [List.mem_singleton.mp isIn]
      exact isTag
  | not _ ih => simpa [Word.Valid] using ih
  | group _ ih => simpa [Word.Valid, or_imp, forall_and] using ih
  | operand _ ih | conjunction _ ih => exact ih
  | and _ _ ihLeft ihRight | or _ _ ihLeft ihRight =>
      simpa [Word.Valid, or_imp, forall_and] using ⟨ihLeft, ihRight⟩

theorem Derives.ne_nil
    {strength : Strength}
    (derives : Derives strength words expression) : words ≠ [] := by
  induction derives with
  | tag | not | group => simp
  | operand _ ih | conjunction _ ih => exact ih
  | and | or => simp

/-- A text reads as an expression exactly if it is that expression. -/
theorem ofText_eq_ok_iff :
    ofText text = .ok expression ↔ Written text expression := by
  constructor
  · intro succeeds
    rw [ofText] at succeeds
    split at succeeds
    case isTrue => cases succeeds
    case isFalse =>
      obtain ⟨⟨first, ⟨rest, shorter⟩⟩, reads, succeeds⟩ :=
        bind_eq_ok succeeds
      dsimp only at succeeds
      split at succeeds
      case isFalse => cases succeeds
      case isTrue isEmpty =>
        cases succeeds
        obtain ⟨words, spaced, derives⟩ := readOr_derives reads
        have blank := Text.trimStart_eq_nil.mp (List.isEmpty_iff.mp isEmpty)
        exact ⟨words, ⟨rest, blank, spaced⟩, derives⟩
  · rintro ⟨words, ⟨blank, isBlank, spaced⟩, derives⟩
    have nonempty : (trimStart text).isEmpty = false := by
      rcases words with _ | ⟨word, words⟩
      · exact absurd rfl derives.ne_nil
      have valid := derives.valid word List.mem_cons_self
      rcases valid.exists_start with ⟨c, tail, shape, -⟩
      rcases spaced.trimStart_eq valid with ⟨later, shape', -⟩
      rw [shape', shape]
      rfl
    have accepts := derives.accepts spaced (stops_of_blank isBlank)
      (after?_of_blank isBlank (by simp)) _ _
      (gives_moreOr (after?_of_blank isBlank (by simp)) _)
    rcases accepts with ⟨shorter, reads⟩
    rw [ofText, nonempty, reads]
    simp [Text.trimStart_eq_nil.mpr isBlank, ok_bind]
    rfl

end GoUnion.Build.Expression
