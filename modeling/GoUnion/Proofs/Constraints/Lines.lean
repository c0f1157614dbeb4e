import GoUnion.Proofs.Constraints
import GoUnion.Proofs.Positions.Faults.Files

/-!
# Constraint lines

A header is read line by line, and each line adds to the header found so far.
This module separates the two: `constraints` goes through the lines and keeps
those that constrain the build, and the header comes from adding these up.
What a line adds never decides how the lines behind it are read.
-/

namespace GoUnion

namespace Text

/-! ## White space at the end -/

variable {front blank word text : List Char} {c : Char}

theorem trimEnd_eq_nil : trimEnd text = [] ↔ Blank text := by
  induction text with
  | nil => simp [trimEnd, Blank]
  | cons c rest ih =>
      rw [Blank, List.forall_mem_cons, ← Blank, ← ih, trimEnd]
      cases trimEnd rest with
      | nil => cases isBlank c <;> simp
      | cons d kept => simp

theorem trimEnd_append_blank
    (isBlank : Blank blank) (text : List Char) :
    trimEnd (text ++ blank) = trimEnd text := by
  induction text with
  | nil => exact trimEnd_eq_nil.mpr isBlank
  | cons c rest ih => rw [List.cons_append, trimEnd, ih, trimEnd]

/-- White space in front of a character that is none stays. -/
theorem trimEnd_append_cons
    (solid : isBlank c = false) (front text : List Char) :
    trimEnd (front ++ c :: text) = front ++ c :: trimEnd text := by
  induction front with
  | nil => simp [trimEnd, solid]
  | cons d front ih => simp [trimEnd, ih]

/-- White space in front of a word stays. -/
theorem trimEnd_append_word
    (nonempty : word ≠ []) (solid : Solid word)
    (front text : List Char) :
    trimEnd (front ++ (word ++ text)) = front ++ (word ++ trimEnd text) := by
  have last := List.dropLast_append_getLast nonempty
  have each := solid _ (List.getLast_mem nonempty)
  generalize word.dropLast = start at last
  rw [← last, List.append_assoc, ← List.append_assoc front,
    List.singleton_append, trimEnd_append_cons each]
  simp

theorem trim_append_blank
    (isBlank : Blank blank) (text : List Char) :
    trim (text ++ blank) = trim text := by
  rw [trim, trim, trimStart, trimStart, List.dropWhile_append]
  split
  case isTrue isEmpty =>
    rw [List.isEmpty_iff.mp isEmpty, List.dropWhile_eq_nil_iff.mpr isBlank]
  case isFalse => exact trimEnd_append_blank isBlank _

/-- White space follows what is left without it. -/
theorem exists_blank_end (text : List Char) :
    ∃ blank, Blank blank ∧ text = trimEnd text ++ blank := by
  induction text with
  | nil => exact ⟨[], by simp [Blank], rfl⟩
  | cons c rest ih =>
      by_cases isBlank : Blank (c :: rest)
      · exact ⟨c :: rest, isBlank, by rw [trimEnd_eq_nil.mpr isBlank]; rfl⟩
      · rcases ih with ⟨blank, isBlank', shape⟩
        refine ⟨blank, isBlank', ?_⟩
        have kept : trimEnd (c :: rest) = c :: trimEnd rest := by
          rw [← trimEnd_eq_nil, trimEnd] at isBlank
          rw [trimEnd]
          split
          case isTrue drops => exact absurd (if_pos drops) isBlank
          case isFalse => rfl
        rw [kept, List.cons_append, ← shape]

theorem trim_trimEnd (text : List Char) :
    trim (trimEnd text) = trim text := by
  rcases exists_blank_end text with ⟨blank, isBlank, shape⟩
  conv => rhs; rw [shape]
  rw [trim_append_blank isBlank]

end Text

namespace Build.Header

open Text (Span byteLength trimEnd)

variable {front back line rest text : List Char} {commentOpen : Bool}

/-! ## Lines -/

theorem firstLine_line
    (noNewline : '\n' ∉ line) (rest : List Char) :
    firstLine (line ++ '\n' :: rest) = (line ++ ['\n'], rest) := by
  induction line with
  | nil => rw [List.nil_append, firstLine, if_pos rfl, List.nil_append]
  | cons c line ih =>
      rw [List.mem_cons, not_or] at noNewline
      rw [List.cons_append, firstLine, if_neg (Ne.symm noNewline.1),
        ih noNewline.2]
      rfl

theorem firstLine_last (noNewline : '\n' ∉ line) :
    firstLine line = (line, []) := by
  induction line with
  | nil => rfl
  | cons c line ih =>
      rw [List.mem_cons, not_or] at noNewline
      rw [firstLine, if_neg (Ne.symm noNewline.1), ih noNewline.2]

/-- Induction on the lines of a text, the last of which has no newline. -/
theorem lines_induction
    {motive : List Char → Prop}
    (last : ∀ line, '\n' ∉ line → motive line)
    (line : ∀ line rest, '\n' ∉ line → motive rest →
      motive (line ++ '\n' :: rest))
    (text : List Char) : motive text := by
  -- The part of a line that was already passed is carried along.
  suffices carried :
      ∀ front, '\n' ∉ front → motive (front ++ text) from
    carried [] List.not_mem_nil
  induction text with
  | nil =>
      intro front noNewline
      rw [List.append_nil]
      exact last front noNewline
  | cons c rest ih =>
      intro front noNewline
      by_cases newline : c = '\n'
      · rw [newline]
        exact line front rest noNewline (ih [] List.not_mem_nil)
      · rw [List.append_cons]
        exact ih _ (by simp [noNewline, Ne.symm newline])

/-! ## Whole lines -/

/-- A text in which every line has its newline. -/
def Whole (text : List Char) : Prop :=
  ∀ c ∈ text.getLast?, c = '\n'

theorem Whole.eq_nil (whole : Whole line) (noNewline : '\n' ∉ line) :
    line = [] := by
  rcases shape : line.getLast? with _ | c
  · exact List.getLast?_eq_none_iff.mp shape
  · cases whole c shape
    exact absurd (List.mem_of_getLast? shape) noNewline

theorem Whole.behind (whole : Whole (front ++ rest)) : Whole rest := by
  intro c isLast
  refine whole c ?_
  rw [List.getLast?_append, isLast]
  rfl

theorem Whole.later (whole : Whole (line ++ '\n' :: rest)) :
    Whole rest := by
  rw [List.append_cons] at whole
  exact whole.behind

theorem whole_nil : Whole [] := by
  simp [Whole]

theorem whole_line (line : List Char) : Whole (line ++ ['\n']) := by
  simp [Whole]

theorem Whole.append (whole : Whole front) (whole' : Whole back) :
    Whole (front ++ back) := by
  intro c isLast
  rw [List.getLast?_append] at isLast
  rcases shape : back.getLast? with _ | d
  · rw [shape] at isLast
    exact whole c isLast
  · rw [shape] at isLast
    cases isLast
    exact whole' c shape

/-- What is behind the last newline of a text. -/
theorem exists_last_line (text : List Char) :
    ∃ front line, text = front ++ line ∧ Whole front ∧ '\n' ∉ line := by
  induction text using lines_induction with
  | last line noNewline => exact ⟨[], line, rfl, whole_nil, noNewline⟩
  | line line rest noNewline ih =>
      rcases ih with ⟨front, last, rfl, whole, noNewline'⟩
      refine ⟨(line ++ ['\n']) ++ front, last, by simp, ?_, noNewline'⟩
      exact (whole_line line).append whole

/-- What is in front of the first newline of a text. -/
theorem exists_first_line (text : List Char) :
    ∃ line rest, text = line ++ rest ∧ '\n' ∉ line ∧
      ∀ c ∈ rest.head?, c = '\n' := by
  induction text using lines_induction with
  | last line noNewline => exact ⟨line, [], by simp, noNewline, by simp⟩
  | line line rest noNewline _ =>
      exact ⟨line, '\n' :: rest, rfl, noNewline, by simp⟩

theorem Whole.unique
    {front front' line line' : List Char} (whole : Whole front)
    (whole' : Whole front') (noNewline : '\n' ∉ line)
    (noNewline' : '\n' ∉ line') (same : front ++ line = front' ++ line') :
    front = front' := by
  rcases List.append_eq_append_iff.mp same with
    ⟨middle, rfl, rfl⟩ | ⟨middle, rfl, rfl⟩
  · rw [whole'.behind.eq_nil
      fun isIn => noNewline (List.mem_append_left _ isIn), List.append_nil]
  · rw [whole.behind.eq_nil
      fun isIn => noNewline' (List.mem_append_left _ isIn), List.append_nil]

/-! ## What lines are -/

/-- A line is the same without its newline. -/
theorem classify_append_newline (commentOpen : Bool) (line : List Char) :
    classify commentOpen (line ++ ['\n']) = classify commentOpen line := by
  rw [classify, classify, Text.trim_append_blank (by decide)]

/-- A line that begins with a comment is what the comment holds. -/
theorem classify_of_comment
    {indent comment : List Char} (isIndent : Text.Blank indent) :
    classify false (indent ++ '/' :: '/' :: comment) =
      ofComment (trimEnd comment) := by
  have slashes :
      trimEnd ('/' :: '/' :: comment) = '/' :: '/' :: trimEnd comment :=
    Text.trimEnd_append_cons (by decide) ['/'] comment
  rw [classify, Text.trim, Text.trimStart_blank_append isIndent,
    Text.trimStart_of_starts (by decide), slashes]
  rfl

/-! ## Constraints -/

/-- The forms of a constraint. -/
inductive Form where
  | expression
  | options
  deriving DecidableEq, Repr

/-- A line that constrains the build: where it starts, the line itself, and what it says. -/
structure Constraint where
  offset : Nat
  line : List Char
  form : Form
  text : List Char
  deriving DecidableEq, Repr

/-- The span of a constraint without the white space behind it. -/
def Constraint.span (constraint : Constraint) : Span :=
  ⟨constraint.offset,
    constraint.offset + byteLength (trimEnd constraint.line)⟩

/-- The constraint that a line is, if it is one. -/
def Line.constraint? (offset : Nat) (line : List Char) :
    Line → Option Constraint
  | .expression text => some ⟨offset, line, .expression, text⟩
  | .options text => some ⟨offset, line, .options, text⟩
  | .plain | .opens | .ends => none

/-- Whether a block comment is open behind a line, if the header goes on there. -/
def Line.leaves? : Line → Option Bool
  | .opens => some true
  | .ends => none
  | .plain | .expression _ | .options _ => some false

/-- The constraints of a header that starts at an offset. -/
def constraints (offset : Nat) (commentOpen : Bool) :
    List Char → List Constraint
  | [] => []
  | c :: rest =>
    let line := (firstLine (c :: rest)).1
    let kind := classify commentOpen line
    (kind.constraint? offset line).toList ++
      match kind.leaves? with
      | some still =>
        constraints (offset + byteLength line) still
          (firstLine (c :: rest)).2
      | none => []
  termination_by text => text.length
  decreasing_by
    have := length_firstLine_snd c rest
    simp only [List.length_cons]
    omega

/-- A header with one more constraint. -/
def add (header : Header) (constraint : Constraint) :
    Except ConstraintError Header :=
  match constraint.form with
  | .expression =>
    if header.expression.isSome then .error ⟨.repeated, constraint.span⟩
    else
      .ok { header with
        expression := some (constraint.text, constraint.span) }
  | .options =>
    .ok { header with options := header.options ++ [constraint.text] }

/-- A header is read by adding up its constraints. -/
theorem scanFrom_eq
    (offset : Nat) (commentOpen : Bool) (header : Header)
    (text : List Char) :
    scanFrom offset commentOpen header text =
      (constraints offset commentOpen text).foldlM add header := by
  fun_induction scanFrom offset commentOpen header text with
  | case1 => rw [constraints]; rfl
  | case2 offset commentOpen header c rest line next isLine ih
  | case3 offset commentOpen header c rest line next isLine ih =>
      rw [ih, constraints, isLine]
      rfl
  | case4 offset commentOpen header c rest line isLine =>
      rw [constraints, isLine]
      rfl
  | case5 offset commentOpen header c rest line text isLine span known =>
      rw [constraints, isLine]
      change _ = (add header ⟨offset, line, .expression, text⟩ >>= _)
      rw [add, if_pos known]
      rfl
  | case6 offset commentOpen header c rest line next text isLine span
      unknown ih =>
      rw [ih, constraints, isLine]
      change _ = (add header ⟨offset, line, .expression, text⟩ >>= _)
      rw [add, if_neg unknown]
      rfl
  | case7 offset commentOpen header c rest line next text isLine ih =>
      rw [ih, constraints, isLine]
      rfl

/-! ## Constraints by lines -/

theorem constraints_last
    (noNewline : '\n' ∉ line) (offset : Nat) (commentOpen : Bool) :
    constraints offset commentOpen line =
      ((classify commentOpen line).constraint? offset line).toList := by
  cases line with
  | nil => cases commentOpen <;> rw [constraints] <;> rfl
  | cons c rest =>
      rw [constraints, firstLine_last noNewline]
      dsimp only
      split <;> simp [constraints]

theorem constraints_line
    (noNewline : '\n' ∉ line) (offset : Nat) (commentOpen : Bool)
    (rest : List Char) :
    constraints offset commentOpen (line ++ '\n' :: rest) =
      ((classify commentOpen line).constraint? offset
        (line ++ ['\n'])).toList ++
        match (classify commentOpen line).leaves? with
        | some still =>
          constraints (offset + byteLength (line ++ ['\n'])) still rest
        | none => [] := by
  rcases whole : line ++ '\n' :: rest with _ | ⟨c, others⟩
  · exact absurd whole (by simp)
  · rw [constraints, ← whole, firstLine_line noNewline]
    dsimp only
    rw [classify_append_newline]

theorem mem_constraint?
    {offset : Nat} {kind : Line} {constraint : Constraint}
    (isIn : constraint ∈ (kind.constraint? offset line).toList) :
    constraint.offset = offset ∧ constraint.line = line := by
  cases kind with
  | expression text | options text =>
      cases List.mem_singleton.mp isIn
      exact ⟨rfl, rfl⟩
  | plain | opens | ends => cases isIn

/-- No constraint starts in front of the text in which it is found. -/
theorem le_offset
    {offset : Nat} {constraint : Constraint}
    (isIn : constraint ∈ constraints offset commentOpen text) :
    offset ≤ constraint.offset := by
  induction text using lines_induction generalizing offset commentOpen with
  | last line noNewline =>
      rw [constraints_last noNewline] at isIn
      exact (mem_constraint? isIn).1.ge
  | line line rest noNewline ih =>
      rw [constraints_line noNewline] at isIn
      rcases List.mem_append.mp isIn with here | later
      · exact (mem_constraint? here).1.ge
      · split at later
        case h_1 => exact (Nat.le_add_right _ _).trans (ih later)
        case h_2 => cases later

/-- What follows some lines adds constraints that start behind them, and changes none. -/
theorem constraints_append
    (whole : Whole front) (offset : Nat) (commentOpen : Bool)
    (text : List Char) :
    ∃ later,
      constraints offset commentOpen (front ++ text) =
        constraints offset commentOpen front ++ later ∧
      ∀ constraint ∈ later,
        offset + byteLength front ≤ constraint.offset := by
  induction front using lines_induction generalizing offset commentOpen with
  | last line noNewline =>
      obtain rfl := whole.eq_nil noNewline
      refine ⟨constraints offset commentOpen text, ?_, ?_⟩
      · rw [constraints, List.nil_append, List.nil_append]
      · exact fun _ => le_offset
  | line line rest noNewline ih =>
      rw [List.append_assoc, List.cons_append, constraints_line noNewline,
        constraints_line noNewline]
      cases (classify commentOpen line).leaves? with
      | none => exact ⟨[], by simp, by simp⟩
      | some still =>
          rcases ih whole.later (offset + byteLength (line ++ ['\n']))
              still with
            ⟨later, shape, behind⟩
          refine ⟨later, ?_, ?_⟩
          · rw [List.append_assoc, ← shape]
          · intro constraint isIn
            have bound := behind constraint isIn
            rw [List.append_cons, Text.byteLength_append]
            omega

/-- A line that ends the header is the last one that counts. -/
theorem constraints_of_ends
    (noNewline : '\n' ∉ line) (isEnd : ∀ c ∈ rest.head?, c = '\n')
    (ends : classify commentOpen line = .ends) (offset : Nat) :
    constraints offset commentOpen (line ++ rest) = [] := by
  cases rest with
  | nil =>
      rw [List.append_nil, constraints_last noNewline, ends]
      rfl
  | cons c rest =>
      cases isEnd c rfl
      rw [constraints_line noNewline, ends]
      rfl

/-- Whether a text holds a constraint does not depend on where it stands. -/
theorem constraints_eq_nil
    {offset : Nat} (none : constraints offset commentOpen text = [])
    (other : Nat) : constraints other commentOpen text = [] := by
  have same {kind : Line} {offset other : Nat} {line : List Char}
      (none : (kind.constraint? offset line).toList = []) :
      (kind.constraint? other line).toList = [] := by
    cases kind with
    | expression text | options text => cases none
    | plain | opens | ends => rfl
  induction text using lines_induction
    generalizing offset other commentOpen with
  | last line noNewline =>
      rw [constraints_last noNewline] at none ⊢
      exact same none
  | line line rest noNewline ih =>
      rw [constraints_line noNewline, List.append_eq_nil_iff] at none ⊢
      refine ⟨same none.1, ?_⟩
      have later := none.2
      cases leaves : (classify commentOpen line).leaves? with
      | none => rfl
      | some still =>
          rw [leaves] at later
          exact ih later _

/-- Lines of the older form add up in any number. -/
theorem foldlM_add_options
    {constraints : List Constraint}
    (each : ∀ constraint ∈ constraints, constraint.form = .options)
    (header : Header) :
    constraints.foldlM add header =
      .ok { header with
        options := header.options ++ constraints.map (·.text) } := by
  induction constraints generalizing header with
  | nil => simp; rfl
  | cons constraint constraints ih =>
      rw [List.forall_mem_cons] at each
      rw [List.foldlM_cons, add, each.1]
      dsimp only
      rw [Reader.ok_bind, ih each.2]
      simp

end Build.Header

end GoUnion
