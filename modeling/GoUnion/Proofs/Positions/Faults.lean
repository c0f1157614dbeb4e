import GoUnion.Proofs.Positions.Files

/-!
# Positions of syntax errors

Where a reader fails, the span of the error is valid in the source text: it is
that of a token, or of a type that has been read.  Each reader is shown to keep
this and to leave tokens that still stand in order, and a chain of readers keeps
what its members keep.
-/

namespace GoUnion

open Text (Span byteLength byteLength_append)

namespace Reader

variable {text source : List Char} {tokens : List Token}

/-- An error stands at a valid span, and what is left of a value stands in order. -/
def Keeps
    (text : List Char) {β : Type} (remaining : β → List Token) :
    Except SyntaxError β → Prop
  | .error error => error.span.Valid text
  | .ok value => Token.Spanned text (remaining value)

theorem Keeps.bind
    {β γ : Type} {remaining : β → List Token} {remaining' : γ → List Token}
    {first : Except SyntaxError β} {next : β → Except SyntaxError γ}
    (keeps : Keeps text remaining first)
    (each : ∀ value, first = .ok value →
      Token.Spanned text (remaining value) →
        Keeps text remaining' (next value)) :
    Keeps text remaining' (first >>= next) := by
  cases first with
  | error fault => exact keeps
  | ok value => exact each value rfl keeps

/-- A chain that opens with a reader of a value and the tokens behind it. -/
theorem Keeps.andThen
    {α γ : Type} {isRest : List Token → Prop} {remaining : γ → List Token}
    {first : Except SyntaxError (α × Subtype isRest)}
    {next : α × Subtype isRest → Except SyntaxError γ}
    (keeps : Keeps text (·.2.1) first)
    (each : ∀ value rest bound, first = .ok (value, ⟨rest, bound⟩) →
      Token.Spanned text rest →
        Keeps text remaining (next (value, ⟨rest, bound⟩))) :
    Keeps text remaining (first >>= next) := by
  apply keeps.bind
  rintro ⟨value, ⟨rest, bound⟩⟩ found spanned
  exact each value rest bound found spanned

/-- A chain that opens with a reader of nothing but the tokens behind it. -/
theorem Keeps.behind
    {γ : Type} {isRest : List Token → Prop} {remaining : γ → List Token}
    {first : Except SyntaxError (Subtype isRest)}
    {next : Subtype isRest → Except SyntaxError γ}
    (keeps : Keeps text (·.1) first)
    (each : ∀ rest bound, Token.Spanned text rest →
      Keeps text remaining (next ⟨rest, bound⟩)) :
    Keeps text remaining (first >>= next) := by
  apply keeps.bind
  rintro ⟨rest, bound⟩ - spanned
  exact each rest bound spanned

/-! ## Single tokens -/

theorem spanned_nil : Token.Spanned text [] where
  each := by simp
  increasing := .nil

/-- The next token stands at a valid span, also where there is none. -/
theorem valid_current (spanned : Token.Spanned text tokens) :
    (current tokens).span.Valid text := by
  cases tokens with
  | nil => exact .point (Text.isBoundary_append [] text)
  | cons first tail => exact (spanned.each first List.mem_cons_self).1

theorem spanned_tail
    {first : Token} {tail : List Token}
    (spanned : Token.Spanned text tokens) (shape : tokens = first :: tail) :
    Token.Spanned text tail :=
  spanned.sublist (shape ▸ List.sublist_cons_self first tail)

theorem spanned_rest
    {used rest : List Token}
    (spanned : Token.Spanned text tokens) (shape : tokens = used ++ rest) :
    Token.Spanned text rest :=
  spanned.sublist (shape ▸ List.sublist_append_right used rest)

theorem spanned_eat?
    {wanted : TokenKind} {rest : Shorter tokens}
    (spanned : Token.Spanned text tokens)
    (eaten : eat? wanted tokens = some rest) :
    Token.Spanned text rest.1 := by
  rcases eat?_eq_some eaten with ⟨token, shape, -⟩
  exact spanned_tail spanned shape

theorem spanned_eat
    {wanted : TokenKind} {eaten : Bool} {rest : Remainder tokens}
    (spanned : Token.Spanned text tokens)
    (result : eat wanted tokens = (eaten, rest)) :
    Token.Spanned text rest.1 := by
  rw [eat] at result
  split at result
  case h_1 found =>
    cases result
    exact spanned_eat? spanned found
  case h_2 =>
    cases result
    exact spanned

theorem spanned_skipSemicolons (spanned : Token.Spanned text tokens) :
    Token.Spanned text (skipSemicolons tokens).1 := by
  rcases skipSemicolons_semicolons tokens with ⟨semicolons, shape, -⟩
  exact spanned_rest spanned shape

theorem keeps_expect
    (wanted : TokenKind) (spanned : Token.Spanned text tokens) :
    Keeps text (·.2.1) (expect wanted tokens) := by
  rw [expect]
  split
  case h_1 taken => exact spanned_tail spanned (take?_eq_some taken).1
  case h_2 => exact valid_current spanned

theorem keeps_identifier (spanned : Token.Spanned text tokens) :
    Keeps text (·.2.1) (identifier tokens) := by
  refine (keeps_expect .identifier spanned).andThen ?_
  intro token rest shorter _ spanned
  exact spanned

theorem keeps_moreIdentifiers
    {tokens : List Token} (spanned : Token.Spanned text tokens) :
    Keeps text (·.2.1) (moreIdentifiers tokens) := by
  rw [moreIdentifiers]
  split
  case h_1 => exact spanned
  case h_2 afterComma shorter eaten =>
    refine (keeps_identifier (spanned_eat? spanned eaten)).andThen ?_
    intro first next shorter' _ spanned
    have below : next.length < tokens.length := Nat.lt_trans shorter' shorter
    refine (keeps_moreIdentifiers spanned).andThen ?_
    intro others rest _ _ spanned
    exact spanned
  termination_by tokens.length

theorem keeps_identifiers (spanned : Token.Spanned text tokens) :
    Keeps text (·.2.1) (identifiers tokens) := by
  refine (keeps_identifier spanned).andThen ?_
  intro first next shorter _ spanned
  refine (keeps_moreIdentifiers spanned).andThen ?_
  intro others rest _ _ spanned
  exact spanned

/-- A literal that is taken is the next token. -/
theorem cons_of_literal
    {token : Token} {rest : Shorter tokens}
    (taken :
      (take? .string tokens).or (take? .rawString tokens) =
        some (token, rest)) :
    tokens = token :: rest.1 := by
  rcases Option.or_eq_some_iff.mp taken with taken | ⟨-, taken⟩
  · exact (take?_eq_some taken).1
  · exact (take?_eq_some taken).1

theorem keeps_tag (spanned : Token.Spanned text tokens) :
    Keeps text (·.2.1) (tag tokens) := by
  rw [tag]
  split
  case h_1 => exact spanned
  case h_2 token rest taken =>
    have shape := cons_of_literal taken
    split
    · exact spanned_tail spanned shape
    · have isIn : token ∈ tokens := shape ▸ List.mem_cons_self
      exact (spanned.each token isIn).1

theorem keeps_terminator
    (closing : TokenKind) (spanned : Token.Spanned text tokens) :
    Keeps text (·.1) (terminator closing tokens) := by
  rw [terminator]
  split
  case h_1 eaten => exact spanned_eat? spanned eaten
  case h_2 =>
    split
    · exact spanned
    · exact valid_current spanned

theorem keeps_items
    {α : Type} {closing : TokenKind} {bound : Nat}
    {item : (tokens : List Token) → tokens.length ≤ bound → Read α tokens}
    (keeps : ∀ tokens within, Token.Spanned text tokens →
      Keeps text (·.2.1) (item tokens within))
    {tokens : List Token} (spanned : Token.Spanned text tokens)
    (within : tokens.length ≤ bound) :
    Keeps text (·.2.1) (items closing bound item tokens within) := by
  have spannedStart := spanned_skipSemicolons spanned
  rw [items]
  generalize skipSemicolons tokens = start at spannedStart ⊢
  rcases start with ⟨start, below⟩
  dsimp only at spannedStart ⊢
  split
  case h_1 rest shorter eaten =>
    have spanned := spanned_eat? spannedStart eaten
    exact spanned
  case h_2 =>
    refine (keeps start _ spannedStart).andThen ?_
    intro first afterItem byItem _ spanned
    refine (keeps_terminator closing spanned).behind ?_
    intro next byTerminator spanned
    refine (keeps_items keeps spanned _).andThen ?_
    intro others rest byRest _ spanned
    exact spanned
  termination_by tokens.length
  decreasing_by omega

theorem keeps_arrayLength (spanned : Token.Spanned text tokens) :
    Keeps text (·.2.1) (arrayLength source tokens) := by
  rw [arrayLength]
  split
  case h_1 rest found =>
    rcases ellipsis?_eq_some found with ⟨dots, closing, shape, -⟩
    exact spanned_tail (spanned_tail spanned shape) rfl
  case h_2 =>
    split
    case h_1 => exact valid_current spanned
    case h_2 inside rest found =>
      rcases group?_eq_some found with ⟨closing, shape, -⟩
      split
      · exact valid_current spanned
      · exact spanned_tail (spanned_rest spanned shape) rfl

/-! ## Types -/

theorem keeps_shareTypes
    {close : Span} {pending : List Identifier}
    {entries : List ParameterEntry}
    (valid : close.Valid text)
    (placed : ∀ piece ∈ entries.flatMap (·.pieces), piece.Placed text) :
    Keeps text (fun _ => [])
      (ParameterEntry.shareTypes close pending entries) := by
  fun_induction ParameterEntry.shareTypes close pending entries with
  | case1 => exact spanned_nil
  | case2 => exact valid
  | case3 pending identifier entries ih =>
      rw [List.flatMap_cons, List.forall_mem_append] at placed
      exact ih placed.2
  | case4 pending identifier type variadic entries ih =>
      rw [List.flatMap_cons, List.forall_mem_append] at placed
      refine (ih placed.2).bind ?_
      intro others _ _
      exact spanned_nil
  | case5 pending type variadic entries =>
      rw [List.flatMap_cons, List.forall_mem_append] at placed
      exact (placed.1 (.type type) type.mem_pieces).valid

theorem keeps_variadic
    {allowed : Bool} {close : Span} {entries : List ParameterEntry}
    (valid : close.Valid text) :
    Keeps text (fun _ => [])
      (ParameterEntry.variadic allowed close entries) := by
  rw [ParameterEntry.variadic]
  split
  · exact spanned_nil
  · split
    · exact spanned_nil
    · exact valid

/-- The faults of a parameter list stand at its end, or at a type of the list. -/
theorem keeps_resolve
    {allowed : Bool} {close : Span} {entries : List ParameterEntry}
    (valid : close.Valid text)
    (placed : ∀ piece ∈ entries.flatMap (·.pieces), piece.Placed text) :
    Keeps text (fun _ => [])
      (ParameterEntry.resolve allowed close entries) := by
  refine (keeps_variadic valid).bind ?_
  intro isVariadic _ _
  split
  case isTrue =>
    refine (keeps_shareTypes valid placed).bind ?_
    intro list _ _
    exact spanned_nil
  case isFalse => exact spanned_nil

/-- The entries in front of a closing parenthesis are placed. -/
theorem placed_entries
    {entries : List ParameterEntry} {rest : Remainder tokens}
    (spanned : Token.Spanned text tokens)
    (succeeds : parameterEntries source tokens = .ok (entries, rest))
    (ends : kind rest.1 = .symbol .rightParen) :
    ∀ piece ∈ entries.flatMap (·.pieces), piece.Placed text := by
  rcases parameterEntries_consumes succeeds ends with
    ⟨rfl, -⟩ | ⟨used, parts, shape, rfl, separated, reads⟩
  · simp
  · have lie : Lie text used ((parts.map (·.2)).flatMap (·.pieces)) :=
      .parts separated.sublist fun part isIn => (reads part isIn).lie text
    exact lie.placed
      (spanned.sublist (shape ▸ List.sublist_append_left used rest.1))

mutual

theorem keeps_typeExpr
    {tokens : List Token} (spanned : Token.Spanned text tokens) :
    Keeps text (·.2.1) (typeExpr source tokens) := by
  rw [typeExpr]
  split
  case h_1 =>
    refine (keeps_typeName spanned).andThen ?_
    intro named rest _ _ spanned
    exact spanned
  case h_2 =>
    refine (keeps_expect _ spanned).andThen ?_
    intro opening inner shorter _ spanned
    refine (keeps_typeExpr spanned).andThen ?_
    intro type closing shorter' _ spanned
    refine (keeps_expect _ spanned).andThen ?_
    intro mark rest _ _ spanned
    exact spanned
  case h_3 =>
    refine (keeps_expect _ spanned).andThen ?_
    intro star inner shorter _ spanned
    refine (keeps_typeExpr spanned).andThen ?_
    intro element rest _ _ spanned
    exact spanned
  case h_4 =>
    refine (keeps_expect _ spanned).andThen ?_
    intro opening inner shorter _ spanned
    dsimp only
    split
    case h_1 afterBracket byBracket eaten =>
      have spanned : Token.Spanned text afterBracket :=
        spanned_eat? spanned eaten
      refine (keeps_typeExpr spanned).andThen ?_
      intro element rest _ _ spanned
      exact spanned
    case h_2 =>
      refine (keeps_arrayLength spanned).andThen ?_
      intro length afterBracket shorter' _ spanned
      refine (keeps_typeExpr spanned).andThen ?_
      intro element rest _ _ spanned
      exact spanned
  case h_5 =>
    refine (keeps_expect _ spanned).andThen ?_
    intro word opening shorter _ spanned
    refine (keeps_expect _ spanned).andThen ?_
    intro mark inner shorter' _ spanned
    refine (keeps_typeExpr spanned).andThen ?_
    intro key closing shorter'' _ spanned
    refine (keeps_expect _ spanned).andThen ?_
    intro mark' afterBracket byBracket _ spanned
    refine (keeps_typeExpr spanned).andThen ?_
    intro value rest _ _ spanned
    exact spanned
  case h_6 =>
    refine (keeps_expect _ spanned).andThen ?_
    intro word afterChan shorter _ spanned
    dsimp only
    rcases eaten : eat (.symbol .arrow) afterChan with
      ⟨sends, ⟨inner, below⟩⟩
    have spanned : Token.Spanned text inner :=
      spanned_eat spanned eaten
    refine (keeps_typeExpr spanned).andThen ?_
    intro element rest _ _ spanned
    exact spanned
  case h_7 =>
    refine (keeps_expect _ spanned).andThen ?_
    intro arrow afterArrow shorter _ spanned
    refine (keeps_expect _ spanned).andThen ?_
    intro word inner shorter' _ spanned
    refine (keeps_typeExpr spanned).andThen ?_
    intro element rest _ _ spanned
    exact spanned
  case h_8 =>
    refine (keeps_expect _ spanned).andThen ?_
    intro word inner shorter _ spanned
    refine (keeps_functionExpr spanned).andThen ?_
    intro type rest _ _ spanned
    exact spanned
  case h_9 =>
    refine (keeps_expect _ spanned).andThen ?_
    intro word opening shorter _ spanned
    refine (keeps_expect _ spanned).andThen ?_
    intro mark inner shorter' _ spanned
    refine (keeps_items
      (fun inside within spanned => keeps_fieldExprs spanned) spanned
      _).andThen ?_
    intro fields rest _ _ spanned
    exact spanned
  case h_10 =>
    refine (keeps_expect _ spanned).andThen ?_
    intro word opening shorter _ spanned
    refine (keeps_expect _ spanned).andThen ?_
    intro mark inner shorter' _ spanned
    refine (keeps_items
      (fun inside within spanned => keeps_memberExpr spanned) spanned
      _).andThen ?_
    intro members rest _ _ spanned
    exact spanned
  case h_11 => exact valid_current spanned
  termination_by 8 * tokens.length + 1
  decreasing_by all_goals omega

theorem keeps_typeName
    {tokens : List Token} (spanned : Token.Spanned text tokens) :
    Keeps text (·.2.1) (typeName source tokens) := by
  rw [typeName]
  refine (keeps_identifier spanned).andThen ?_
  intro first afterFirst shorter _ spanned
  dsimp only
  split
  case h_1 afterDot byDot eaten =>
    have spanned : Token.Spanned text afterDot :=
      spanned_eat? spanned eaten
    refine (keeps_identifier spanned).andThen ?_
    intro second afterName shorter' _ spanned
    refine (keeps_typeArguments spanned).andThen ?_
    intro arguments rest _ _ spanned
    exact spanned
  case h_2 =>
    refine (keeps_typeArguments spanned).andThen ?_
    intro arguments rest _ _ spanned
    exact spanned
  termination_by 8 * tokens.length
  decreasing_by all_goals omega

theorem keeps_typeArguments
    {tokens : List Token} (spanned : Token.Spanned text tokens) :
    Keeps text (·.2.1) (typeArguments source tokens) := by
  rw [typeArguments]
  split
  case h_1 inner byOpening eaten =>
    split
    case isTrue => exact spanned
    case isFalse =>
      have spanned : Token.Spanned text inner :=
        spanned_eat? spanned eaten
      refine (keeps_typeList spanned).andThen ?_
      intro arguments closing shorter _ spanned
      refine (keeps_expect _ spanned).andThen ?_
      intro mark rest _ _ spanned
      exact spanned
  case h_2 => exact spanned
  termination_by 8 * tokens.length + 3
  decreasing_by all_goals omega

theorem keeps_typeList
    {tokens : List Token} (spanned : Token.Spanned text tokens) :
    Keeps text (·.2.1) (typeList source tokens) := by
  rw [typeList]
  refine (keeps_typeExpr spanned).andThen ?_
  intro first rest shorter _ spanned
  dsimp only
  split
  case h_1 => exact spanned
  case h_2 afterComma byComma eaten =>
    have spanned : Token.Spanned text afterComma :=
      spanned_eat? spanned eaten
    split
    case isTrue => exact spanned
    case isFalse =>
      refine (keeps_typeList spanned).andThen ?_
      intro others final _ _ spanned
      exact spanned
  termination_by 8 * tokens.length + 2
  decreasing_by all_goals omega

theorem keeps_functionExpr
    {tokens : List Token} (spanned : Token.Spanned text tokens) :
    Keeps text (·.2.1) (functionExpr source tokens) := by
  rw [functionExpr]
  refine (keeps_parameterList spanned).andThen ?_
  rintro ⟨parameters, variadic⟩ afterParameters shorter _ spanned
  dsimp only
  split
  case isTrue =>
    refine (keeps_parameterList spanned).andThen ?_
    rintro ⟨results, spread⟩ rest _ _ spanned
    exact spanned
  case isFalse =>
    split
    case isTrue =>
      refine (keeps_typeExpr spanned).andThen ?_
      intro result rest _ _ spanned
      exact spanned
    case isFalse => exact spanned
  termination_by 8 * tokens.length + 4
  decreasing_by all_goals omega

theorem keeps_parameterList
    {allowed : Bool} {tokens : List Token}
    (spanned : Token.Spanned text tokens) :
    Keeps text (·.2.1) (parameterList allowed source tokens) := by
  rw [parameterList]
  refine (keeps_expect _ spanned).andThen ?_
  intro opening inner shorter _ spannedInner
  refine (keeps_parameterEntries spannedInner).andThen ?_
  intro entries closing below found spanned
  refine (keeps_expect _ spanned).andThen ?_
  intro close rest _ expected spannedRest
  rcases expect_eq_ok expected with ⟨shape, isClose⟩
  dsimp only at shape
  subst shape
  have valid := (spanned.each close List.mem_cons_self).1
  have placed := placed_entries spannedInner found isClose
  refine (keeps_resolve valid placed).bind ?_
  intro parameters _ _
  exact spannedRest
  termination_by 8 * tokens.length
  decreasing_by all_goals omega

theorem keeps_parameterEntries
    {tokens : List Token} (spanned : Token.Spanned text tokens) :
    Keeps text (·.2.1) (parameterEntries source tokens) := by
  rw [parameterEntries]
  split
  case isTrue => exact spanned
  case isFalse =>
    refine (keeps_parameterEntry spanned).andThen ?_
    intro first rest shorter _ spanned
    dsimp only
    split
    case h_1 => exact spanned
    case h_2 afterComma byComma eaten =>
      have spanned : Token.Spanned text afterComma :=
        spanned_eat? spanned eaten
      refine (keeps_parameterEntries spanned).andThen ?_
      intro others final _ _ spanned
      exact spanned
  termination_by 8 * tokens.length + 3
  decreasing_by all_goals omega

theorem keeps_parameterEntry
    {tokens : List Token} (spanned : Token.Spanned text tokens) :
    Keeps text (·.2.1) (parameterEntry source tokens) := by
  rw [parameterEntry]
  split
  case h_1 inner byDots eaten =>
    have spanned : Token.Spanned text inner :=
      spanned_eat? spanned eaten
    refine (keeps_typeExpr spanned).andThen ?_
    intro type rest _ _ spanned
    exact spanned
  case h_2 =>
    split
    case isTrue =>
      refine (keeps_typeExpr spanned).andThen ?_
      intro type rest _ _ spanned
      exact spanned
    case isFalse =>
      split
      case h_1 =>
        refine (keeps_identifier spanned).andThen ?_
        intro name rest _ _ spanned
        exact spanned
      case h_2 =>
        refine (keeps_typeExpr spanned).andThen ?_
        intro type rest _ _ spanned
        exact spanned
      case h_3 =>
        refine (keeps_identifier spanned).andThen ?_
        intro name afterName shorter _ spanned
        refine (keeps_typeExpr spanned).andThen ?_
        intro type rest _ _ spanned
        exact spanned
      case h_4 =>
        refine (keeps_identifier spanned).andThen ?_
        intro name afterName shorter _ spanned
        refine (keeps_expect _ spanned).andThen ?_
        intro dots inner shorter' _ spanned
        refine (keeps_typeExpr spanned).andThen ?_
        intro type rest _ _ spanned
        exact spanned
  termination_by 8 * tokens.length + 2
  decreasing_by all_goals omega

theorem keeps_fieldExprs
    {tokens : List Token} (spanned : Token.Spanned text tokens) :
    Keeps text (·.2.1) (fieldExprs source tokens) := by
  rw [fieldExprs]
  split
  case h_1 => exact valid_current spanned
  case h_2 =>
    rcases eaten : eat (.symbol .star) tokens with
      ⟨isPointer, ⟨named, below⟩⟩
    have spanned : Token.Spanned text named :=
      spanned_eat spanned eaten
    refine (keeps_typeName spanned).andThen ?_
    rintro ⟨base, name⟩ afterType shorter _ spanned
    refine (keeps_tag spanned).andThen ?_
    intro text rest _ _ spanned
    exact spanned
  case h_3 =>
    refine (keeps_identifiers spanned).andThen ?_
    intro names afterNames shorter _ spanned
    refine (keeps_typeExpr spanned).andThen ?_
    intro type afterType shorter' _ spanned
    refine (keeps_tag spanned).andThen ?_
    intro text rest _ _ spanned
    exact spanned
  termination_by 8 * tokens.length + 2
  decreasing_by all_goals omega

theorem keeps_memberExpr
    {tokens : List Token} (spanned : Token.Spanned text tokens) :
    Keeps text (·.2.1) (memberExpr source tokens) := by
  rw [memberExpr]
  split
  case isTrue =>
    refine (keeps_identifier spanned).andThen ?_
    intro name afterName shorter _ spanned
    refine (keeps_functionExpr spanned).andThen ?_
    intro type rest _ _ spanned
    exact spanned
  case isFalse =>
    refine (keeps_constraintExpr spanned).andThen ?_
    intro type rest _ _ spanned
    exact spanned
  termination_by 8 * tokens.length + 4
  decreasing_by all_goals omega

theorem keeps_constraintExpr
    {tokens : List Token} (spanned : Token.Spanned text tokens) :
    Keeps text (·.2.1) (constraintExpr source tokens) := by
  rw [constraintExpr]
  refine (keeps_termExprs spanned).andThen ?_
  intro terms rest _ _ spanned
  dsimp only
  split
  · exact spanned
  · exact spanned
  termination_by 8 * tokens.length + 3
  decreasing_by all_goals omega

theorem keeps_termExprs
    {tokens : List Token} (spanned : Token.Spanned text tokens) :
    Keeps text (·.2.1) (termExprs source tokens) := by
  rw [termExprs]
  rcases eaten : eat (.symbol .tilde) tokens with
    ⟨approximate, ⟨inner, below⟩⟩
  have spanned : Token.Spanned text inner :=
    spanned_eat spanned eaten
  refine (keeps_typeExpr spanned).andThen ?_
  intro type rest shorter _ spanned
  dsimp only
  split
  case h_1 => exact spanned
  case h_2 afterPipe byPipe eaten' =>
    have spanned : Token.Spanned text afterPipe :=
      spanned_eat? spanned eaten'
    refine (keeps_termExprs spanned).andThen ?_
    intro others final _ _ spanned
    exact spanned
  termination_by 8 * tokens.length + 2
  decreasing_by all_goals omega

end

end Reader

end GoUnion
