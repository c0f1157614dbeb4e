import GoUnion.Proofs.FileGrammar.Soundness

/-!
# Counting delimiters

Delimiters are balanced if every beginning opens at least as many groups as it
closes and all tokens together open as many as they close.  The three kinds of
brackets are counted together.  The readers keep the number of open groups
instead, which is the difference; so what they pass over is what is balanced and
has no semicolon outside delimiters, and they cut expressions at the commas
outside delimiters and nowhere else.
-/

namespace GoUnion.Reader

/-- Whether a token opens a group. -/
def opens (token : Token) : Bool :=
  match token.kind with
  | .symbol mark => mark.opens
  | _ => false

/-- The number of groups that some tokens open. -/
def openings (tokens : List Token) : Nat :=
  tokens.countP opens

/-- The number of groups that some tokens close. -/
def closings (tokens : List Token) : Nat :=
  tokens.countP closes

/-- Tokens with balanced delimiters. -/
structure Delimited (tokens : List Token) : Prop where
  noEnd : ∀ token ∈ tokens, token.kind ≠ .endOfFile
  prefixes : ∀ front, front <+: tokens → closings front ≤ openings front
  totals : openings tokens = closings tokens

/-- Tokens of a kind stand in open groups only, given how many are open before all tokens. -/
def ShelteredIn
    (depth : Nat) (wanted : TokenKind) (tokens : List Token) : Prop :=
  ∀ front token back, tokens = front ++ token :: back →
    token.kind = wanted → closings front < depth + openings front

/-- Tokens of a kind stand inside delimiters only. -/
abbrev Sheltered : TokenKind → List Token → Prop :=
  ShelteredIn 0

variable {depth final : Nat} {token : Token} {front tokens : List Token}
  {wanted : TokenKind}

@[simp]
theorem openings_nil : openings [] = 0 := rfl

@[simp]
theorem closings_nil : closings [] = 0 := rfl

@[simp]
theorem openings_append (front back : List Token) :
    openings (front ++ back) = openings front + openings back :=
  List.countP_append

@[simp]
theorem closings_append (front back : List Token) :
    closings (front ++ back) = closings front + closings back :=
  List.countP_append

theorem openings_cons (token : Token) (tokens : List Token) :
    openings (token :: tokens) = openings [token] + openings tokens :=
  openings_append [token] tokens

theorem closings_cons (token : Token) (tokens : List Token) :
    closings (token :: tokens) = closings [token] + closings tokens :=
  closings_append [token] tokens

/-! ## The number of open groups -/

/-- The number of open groups changes by one at a delimiter. -/
theorem depthAfter_eq_some {next : Nat} :
    depthAfter depth token = some next ↔
      token.kind ≠ .endOfFile ∧
        depth + openings [token] = next + closings [token] := by
  rcases token with ⟨kind, text, span⟩
  cases kind with
  | symbol mark =>
      simp only [depthAfter, openings, closings, List.countP_singleton,
        opens, closes]
      by_cases opens : mark.opens = true
      · have notClosing : mark.closes = false := by
          cases mark <;> first | rfl | cases opens
        simp [opens, notClosing]
      · by_cases closes : mark.closes = true
        · cases depth with
          | zero => simp [opens, closes]
          | succ depth => simp [opens, closes]
        · simp [opens, closes]
  | endOfFile => simp [depthAfter]
  | _ => simp [depthAfter, openings, closings, opens, closes]

/-- Tokens lead from one number of open groups to another if no beginning closes more groups than
are open. -/
theorem nesting_eq_some :
    nesting depth tokens = some final ↔
      (∀ token ∈ tokens, token.kind ≠ .endOfFile) ∧
        (∀ front, front <+: tokens →
          closings front ≤ depth + openings front) ∧
        depth + openings tokens = final + closings tokens := by
  induction tokens generalizing depth with
  | nil => simp [nesting]
  | cons token tokens ih =>
      rw [nesting_cons, Option.bind_eq_some_iff, List.forall_mem_cons,
        openings_cons, closings_cons]
      constructor
      · rintro ⟨next, step, later⟩
        rcases depthAfter_eq_some.mp step with ⟨notEnd, moved⟩
        rcases ih.mp later with ⟨noEnd, prefixes, totals⟩
        refine ⟨⟨notEnd, noEnd⟩, ?_, by omega⟩
        intro front isPrefix
        rcases List.prefix_cons_iff.mp isPrefix with
          rfl | ⟨front, rfl, isPrefix'⟩
        · exact Nat.zero_le _
        · have within := prefixes front isPrefix'
          rw [openings_cons, closings_cons]
          omega
      · rintro ⟨⟨notEnd, noEnd⟩, prefixes, totals⟩
        have first := prefixes [token] (List.prefix_append [token] tokens)
        refine ⟨depth + openings [token] - closings [token],
          depthAfter_eq_some.mpr ⟨notEnd, by omega⟩,
          ih.mpr ⟨noEnd, ?_, by omega⟩⟩
        intro front isPrefix
        have within :=
          prefixes (token :: front) (List.cons_prefix_cons.mpr ⟨rfl, isPrefix⟩)
        rw [openings_cons, closings_cons] at within
        omega

/-- Balanced delimiters leave no group open. -/
theorem delimited_iff : Delimited tokens ↔ Balanced tokens := by
  rw [Balanced, nesting_eq_some]
  simp only [Nat.zero_add]
  constructor
  · intro delimited
    exact ⟨delimited.noEnd, delimited.prefixes, delimited.totals⟩
  · rintro ⟨noEnd, prefixes, totals⟩
    exact ⟨noEnd, prefixes, totals⟩

theorem shelteredIn_nil : ShelteredIn depth wanted [] := by
  intro front token back shape
  simp at shape

/-- Behind a token, what is open has changed by that token. -/
theorem shelteredIn_cons {next : Nat}
    (moved : depth + openings [token] = next + closings [token]) :
    ShelteredIn depth wanted (token :: tokens) ↔
      (token.kind = wanted → 0 < depth) ∧
        ShelteredIn next wanted tokens := by
  constructor
  · intro sheltered
    refine ⟨fun isWanted => ?_, ?_⟩
    · simpa using sheltered [] token tokens rfl isWanted
    · rintro front found back rfl isWanted
      have inside := sheltered (token :: front) found back rfl isWanted
      rw [openings_cons, closings_cons] at inside
      omega
  · rintro ⟨first, later⟩ front found back shape isWanted
    cases front with
    | nil =>
        cases shape
        simpa using first isWanted
    | cons head front =>
        cases shape
        have inside := later front found back rfl isWanted
        rw [openings_cons, closings_cons]
        omega

/-! ## What is passed over -/

/-- A declaration is passed over up to a place where no group is open, unless a semicolon stood
outside delimiters before. -/
theorem passing_eq_some :
    passing depth tokens = some final ↔
      nesting depth tokens = some final ∧
        ShelteredIn depth (.symbol .semicolon) tokens := by
  induction tokens generalizing depth with
  | nil => simp [passing, nesting, shelteredIn_nil]
  | cons token tokens ih =>
      rw [passing_cons, nesting_cons, Option.bind_eq_some_iff,
        Option.bind_eq_some_iff]
      constructor
      · rintro ⟨next, step, later⟩
        rw [passAfter] at step
        split at step
        case isTrue => cases step
        case isFalse goesOn =>
          rcases ih.mp later with ⟨runs, sheltered⟩
          refine ⟨⟨next, step, runs⟩, (shelteredIn_cons
            (depthAfter_eq_some.mp step).2).mpr ⟨?_, sheltered⟩⟩
          intro isSemicolon
          exact Nat.pos_of_ne_zero fun isZero =>
            goesOn ⟨isZero, isSemicolon⟩
      · rintro ⟨⟨next, step, runs⟩, sheltered⟩
        rcases (shelteredIn_cons (depthAfter_eq_some.mp step).2).mp
          sheltered with ⟨first, sheltered⟩
        refine ⟨next, ?_, ih.mpr ⟨runs, sheltered⟩⟩
        rw [passAfter, if_neg]
        · exact step
        · rintro ⟨rfl, isSemicolon⟩
          exact Nat.lt_irrefl 0 (first isSemicolon)

/-- What a declaration that is passed over consists of. -/
theorem passing_zero_iff :
    passing 0 tokens = some 0 ↔
      Delimited tokens ∧ Sheltered (.symbol .semicolon) tokens := by
  rw [passing_eq_some, delimited_iff]
  rfl

/-! ## Expressions -/

/-- An expression in a list: delimiters are balanced, and commas and semicolons stand inside
them. -/
structure IsExpression (value : ConstantExpr) : Prop where
  delimited : Delimited value
  commas : Sheltered (.symbol .comma) value
  semicolons : Sheltered (.symbol .semicolon) value

theorem foldr_intoFirst
    (value first : ConstantExpr) (others : List ConstantExpr) :
    value.foldr intoFirst (first :: others) = (value ++ first) :: others := by
  induction value with
  | nil => rfl
  | cons token value ih =>
      rw [List.foldr_cons, ih]
      rfl

/-- A token that ends no expression belongs to the first one. -/
theorem expressionsOf_cons {next : Nat}
    (step : depthAfter depth token = some next)
    (notComma : token.kind = .symbol .comma → 0 < depth)
    (notSemicolon : token.kind = .symbol .semicolon → 0 < depth)
    (rest : List Token) :
    expressionsOf depth (token :: rest) =
      (expressionsOf next rest).map (intoFirst token) := by
  rcases token with ⟨kind, text, span⟩
  cases kind with
  | endOfFile => cases step
  | symbol mark =>
      have goesOn :
          ¬(depth = 0 ∧ (mark = .semicolon ∨ mark = .rightParen)) := by
        rintro ⟨rfl, rfl | rfl⟩
        · exact absurd (notSemicolon rfl) (Nat.lt_irrefl 0)
        · cases step
      have noComma : ¬(depth = 0 ∧ mark = .comma) := by
        rintro ⟨rfl, rfl⟩
        exact absurd (notComma rfl) (Nat.lt_irrefl 0)
      simp only [depthAfter] at step
      simp only [expressionsOf, if_neg goesOn, if_neg noComma]
      split at step
      case isTrue opens =>
        cases step
        rw [if_pos opens]
      case isFalse notOpening =>
        rw [if_neg notOpening]
        split at step
        case isTrue closes =>
          rw [if_pos closes]
          cases depth with
          | zero => cases step
          | succ depth =>
              cases step
              rfl
        case isFalse notClosing =>
          cases step
          rw [if_neg notClosing]
  | _ =>
      cases step
      rfl

/-- Tokens whose commas and semicolons are sheltered go into one expression. -/
theorem expressionsOf_append
    {value : ConstantExpr} (runs : nesting depth value = some final)
    (commas : ShelteredIn depth (.symbol .comma) value)
    (semicolons : ShelteredIn depth (.symbol .semicolon) value)
    (rest : List Token) :
    expressionsOf depth (value ++ rest) =
      (expressionsOf final rest).map (value.foldr intoFirst) := by
  induction value generalizing depth with
  | nil =>
      cases runs
      exact Option.map_id'.symm
  | cons token value ih =>
      rw [nesting_cons] at runs
      rcases Option.bind_eq_some_iff.mp runs with ⟨next, step, runs⟩
      have moved := (depthAfter_eq_some.mp step).2
      rcases (shelteredIn_cons moved).mp commas with
        ⟨notComma, commas⟩
      rcases (shelteredIn_cons moved).mp semicolons with
        ⟨notSemicolon, semicolons⟩
      rw [List.cons_append,
        expressionsOf_cons step notComma notSemicolon,
        ih runs commas semicolons, Option.map_map]
      rfl

/-- A list of expressions is cut at the commas between them. -/
theorem expressionsOf_separated
    {values : List ConstantExpr}
    (separated : Separated (.symbol .comma) false values tokens)
    (each : ∀ value ∈ values, IsExpression value) :
    expressionsOf 0 tokens = some values := by
  induction separated with
  | @last piece =>
      rw [List.forall_mem_singleton] at each
      have whole :=
        expressionsOf_append (delimited_iff.mp each.delimited) each.commas
          each.semicolons []
      rw [List.append_nil] at whole
      rw [whole, expressionsOf, if_pos rfl, Option.map_some,
        foldr_intoFirst, List.append_nil]
  | trailing allowed => cases allowed
  | @cons piece mark pieces tokens isMark _ ih =>
      rw [List.forall_mem_cons] at each
      have behind :
          expressionsOf 0 (mark :: tokens) = some ([] :: pieces) := by
        simp [expressionsOf, isMark, ih each.2]
      rw [expressionsOf_append (delimited_iff.mp each.1.delimited)
        each.1.commas each.1.semicolons, behind, Option.map_some,
        foldr_intoFirst, List.append_nil]

/-- Tokens up to the first comma outside delimiters, or all of them. -/
theorem exists_first
    (runs : nesting depth tokens = some 0) :
    ShelteredIn depth (.symbol .comma) tokens ∨
      ∃ front mark back, tokens = front ++ mark :: back ∧
        mark.kind = .symbol .comma ∧ nesting depth front = some 0 ∧
          ShelteredIn depth (.symbol .comma) front ∧
            nesting 0 back = some 0 := by
  induction tokens generalizing depth with
  | nil => exact .inl shelteredIn_nil
  | cons token tokens ih =>
      rw [nesting_cons] at runs
      rcases Option.bind_eq_some_iff.mp runs with ⟨next, step, runs⟩
      have moved := (depthAfter_eq_some.mp step).2
      by_cases isCut : depth = 0 ∧ token.kind = .symbol .comma
      · rcases isCut with ⟨rfl, isComma⟩
        have same : depthAfter 0 token = some 0 := by
          simp [depthAfter, isComma, Symbol.opens, Symbol.closes]
        rw [same] at step
        cases step
        exact .inr ⟨[], token, tokens, rfl, isComma, rfl, shelteredIn_nil,
          runs⟩
      · have notCut : token.kind = .symbol .comma → 0 < depth := by
          intro isComma
          exact Nat.pos_of_ne_zero fun isZero => isCut ⟨isZero, isComma⟩
        rcases ih runs with
          all | ⟨front, mark, back, rfl, isMark, inside, commas, later⟩
        · exact .inl ((shelteredIn_cons moved).mpr ⟨notCut, all⟩)
        · refine .inr ⟨token :: front, mark, back, rfl, isMark, ?_,
            (shelteredIn_cons moved).mpr ⟨notCut, commas⟩, later⟩
          rw [nesting_cons, step]
          exact inside

theorem ShelteredIn.of_append_left
    {back : List Token}
    (sheltered : ShelteredIn depth wanted (front ++ back)) :
    ShelteredIn depth wanted front := by
  rintro before token behind rfl isWanted
  exact sheltered before token (behind ++ back) (by simp) isWanted

theorem Sheltered.of_append_right
    {back : List Token} (sheltered : Sheltered wanted (front ++ back))
    (settled : openings front = closings front) :
    Sheltered wanted back := by
  rintro before token behind rfl isWanted
  have inside :=
    sheltered (front ++ before) token behind (by simp) isWanted
  rw [openings_append, closings_append] at inside
  omega

/-- Any tokens with balanced delimiters and no semicolon outside them are a list of
expressions. -/
theorem exists_expressions
    (delimited : Delimited tokens)
    (semicolons : Sheltered (.symbol .semicolon) tokens) :
    ∃ values, Separated (.symbol .comma) false values tokens ∧
      ∀ value ∈ values, IsExpression value := by
  generalize size : tokens.length = length
  induction length using Nat.strongRecOn generalizing tokens with
  | ind length ih =>
      rcases exists_first (delimited_iff.mp delimited) with
        commas | ⟨front, mark, back, rfl, isMark, inside, commas, later⟩
      · refine ⟨[tokens], .last, ?_⟩
        rw [List.forall_mem_singleton]
        exact ⟨delimited, commas, semicolons⟩
      · have isFront : Delimited front := delimited_iff.mpr inside
        have neutral : openings [mark] = 0 ∧ closings [mark] = 0 := by
          simp [openings, closings, opens, closes, isMark, Symbol.opens,
            Symbol.closes]
        have cut :
            Sheltered (.symbol .semicolon) ((front ++ [mark]) ++ back) := by
          simpa using semicolons
        have behind : Sheltered (.symbol .semicolon) back := by
          apply Sheltered.of_append_right cut
          rw [openings_append, closings_append, isFront.totals, neutral.1,
            neutral.2]
        have shorter : back.length < length := by
          rw [← size, List.length_append, List.length_cons]
          omega
        rcases ih _ shorter (delimited_iff.mpr later) behind rfl with
          ⟨values, separated, each⟩
        refine ⟨front :: values, .cons isMark separated, ?_⟩
        rw [List.forall_mem_cons]
        exact ⟨⟨isFront, commas, semicolons.of_append_left⟩, each⟩

/-- In balanced tokens, the expressions that the reader finds are what stands between the commas
outside delimiters. -/
theorem separated_of_expressionsOf
    {values : List ConstantExpr} (delimited : Delimited tokens)
    (semicolons : Sheltered (.symbol .semicolon) tokens)
    (found : expressionsOf 0 tokens = some values) :
    Separated (.symbol .comma) false values tokens ∧
      ∀ value ∈ values, IsExpression value := by
  rcases exists_expressions delimited semicolons with
    ⟨values', separated, each⟩
  have same := expressionsOf_separated separated each
  rw [found] at same
  cases same
  exact ⟨separated, each⟩

end GoUnion.Reader
