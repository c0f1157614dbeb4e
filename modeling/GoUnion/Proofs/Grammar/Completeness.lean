import GoUnion.Proofs.Grammar.Lookahead

/-!
# Readers accept the grammar

The converse of soundness: on the tokens of a phrase, with anything behind them
that cannot continue the phrase, a reader returns what the phrase stands for
and leaves what is behind.  The proof is one induction on the phrase, with one
lemma for each form of it.
-/

namespace GoUnion.Reader

variable {source : List Char} {tokens rest : List Token}

/-- What the reader of a phrase does at its tokens. -/
def Accepts (source : List Char) (tokens : List Token) : Phrase → Prop
  | .type type => ∀ rest, EndsType rest →
      ∃ below, typeExpr source (tokens ++ rest) =
        .ok (type, ⟨rest, below⟩)
  | .name type last => ∀ rest, EndsType rest →
      ∃ below, typeName source (tokens ++ rest) =
        .ok ((type, last), ⟨rest, below⟩)
  | .function function => ∀ rest, EndsType rest →
      ∃ below, functionExpr source (tokens ++ rest) =
        .ok (function, ⟨rest, below⟩)
  | .parameters allowed list variadic => ∀ rest,
      ∃ below, parameterList allowed source (tokens ++ rest) =
        .ok ((list, variadic), ⟨rest, below⟩)
  | .entry entry => ∀ rest, EndsEntry rest →
      ∃ below, parameterEntry source (tokens ++ rest) =
        .ok (entry, ⟨rest, below⟩)
  | .fields list => ∀ rest, EndsMember rest →
      ∃ below, fieldExprs source (tokens ++ rest) =
        .ok (list, ⟨rest, below⟩)
  | .member member => ∀ rest, EndsMember rest →
      ∃ below, memberExpr source (tokens ++ rest) =
        .ok (member, ⟨rest, below⟩)
  | .constraint type => ∀ rest, EndsType rest →
      kind rest ≠ .symbol .pipe →
        ∃ below, constraintExpr source (tokens ++ rest) =
          .ok (type, ⟨rest, below⟩)
  | .term term => ∀ rest, EndsType rest →
      ∃ inner within below,
        eat (.symbol .tilde) (tokens ++ rest) =
          (term.approximate, ⟨inner, within⟩) ∧
        typeExpr source inner = .ok (term.type, ⟨rest, below⟩)

/-! ## Types -/

theorem accepts_named
    {type : TypeExpr} {last : Identifier}
    (reads : Reads source tokens (.name type last))
    (accepts : Accepts source tokens (.name type last)) :
    Accepts source tokens (.type type) := by
  intro rest ends
  obtain ⟨below, accepts⟩ := accepts rest ends
  refine ⟨below, ?_⟩
  have isName : kind (tokens ++ rest) = .identifier := by
    rw [kind_append _ _ reads.ne_nil, reads.kind_of_name]
  rw [typeExpr, isName]
  simp only [accepts, ok_bind]
  rfl

theorem accepts_parens
    {opening closing : Token} {type : TypeExpr}
    (opens : opening.kind = .symbol .leftParen)
    (closes : closing.kind = .symbol .rightParen)
    (accepts : Accepts source tokens (.type type)) :
    Accepts source (opening :: (tokens ++ [closing])) (.type type) := by
  intro rest ends
  obtain ⟨below, accepts⟩ :=
    accepts (closing :: rest) (by simp [EndsType, closes, startsType])
  have shape :
      (opening :: (tokens ++ [closing])) ++ rest =
        opening :: (tokens ++ closing :: rest) := by simp
  rw [shape]
  refine ⟨by simp only [List.length_cons, List.length_append]; omega, ?_⟩
  rw [typeExpr, kind_cons, opens]
  simp only [expect_cons _ opens, ok_bind, accepts, expect_cons _ closes]
  rfl

theorem accepts_pointer
    {star : Token} {element : TypeExpr}
    (isStar : star.kind = .symbol .star)
    (accepts : Accepts source tokens (.type element)) :
    Accepts source (star :: tokens)
      (.type (.pointer (spanTo (star :: tokens) []) element)) := by
  intro rest ends
  obtain ⟨below, accepts⟩ := accepts rest ends
  refine ⟨by simp only [List.cons_append, List.length_cons]; omega, ?_⟩
  rw [← spanTo_of_append (rfl : _ = (star :: tokens) ++ rest) (by simp)]
  simp only [List.cons_append]
  rw [typeExpr, kind_cons, isStar]
  simp only [expect_cons _ isStar, ok_bind, accepts]
  rfl

theorem accepts_slice
    {opening closing : Token} {element : TypeExpr}
    (opens : opening.kind = .symbol .leftBracket)
    (closes : closing.kind = .symbol .rightBracket)
    (accepts : Accepts source tokens (.type element)) :
    Accepts source (opening :: closing :: tokens)
      (.type
        (.slice (spanTo (opening :: closing :: tokens) []) element)) := by
  intro rest ends
  obtain ⟨below, accepts⟩ := accepts rest ends
  refine ⟨by simp only [List.cons_append, List.length_cons]; omega, ?_⟩
  rw [← spanTo_of_append
    (rfl : _ = (opening :: closing :: tokens) ++ rest) (by simp)]
  simp only [List.cons_append]
  rw [typeExpr, kind_cons, opens]
  simp only [expect_cons _ opens, ok_bind, eat?_cons _ closes, accepts]
  rfl

theorem accepts_array
    {opening : Token} {lengthTokens : List Token} {length : ArrayLength}
    {element : TypeExpr}
    (opens : opening.kind = .symbol .leftBracket)
    (isLength : LengthTokens source lengthTokens length)
    (accepts : Accepts source tokens (.type element)) :
    Accepts source (opening :: (lengthTokens ++ tokens))
      (.type
        (.array (spanTo (opening :: (lengthTokens ++ tokens)) [])
          length element)) := by
  intro rest ends
  obtain ⟨below, accepts⟩ := accepts rest ends
  obtain ⟨below', readsLength⟩ :=
    arrayLength_append isLength (tokens ++ rest)
  have shape :
      (opening :: (lengthTokens ++ tokens)) ++ rest =
        opening :: (lengthTokens ++ (tokens ++ rest)) := by simp
  rw [← spanTo_of_append shape.symm (by simp), shape]
  refine ⟨by simp only [List.length_cons, List.length_append]; omega, ?_⟩
  rw [typeExpr, kind_cons, opens]
  simp only [expect_cons _ opens, ok_bind,
    eat?_of_kind (isLength.kind_ne _), readsLength, accepts]
  rfl

theorem accepts_map
    {word opening closing : Token} {keyTokens valueTokens : List Token}
    {key value : TypeExpr}
    (isMap : word.kind = .keyword .map)
    (opens : opening.kind = .symbol .leftBracket)
    (closes : closing.kind = .symbol .rightBracket)
    (acceptsKey : Accepts source keyTokens (.type key))
    (acceptsValue : Accepts source valueTokens (.type value)) :
    Accepts source
      (word :: opening :: (keyTokens ++ closing :: valueTokens))
      (.type
        (.map
          (spanTo
            (word :: opening :: (keyTokens ++ closing :: valueTokens)) [])
          key value)) := by
  intro rest ends
  obtain ⟨below, acceptsValue⟩ := acceptsValue rest ends
  obtain ⟨below', acceptsKey⟩ :=
    acceptsKey (closing :: (valueTokens ++ rest))
      (by simp [EndsType, closes, startsType])
  have shape :
      (word :: opening :: (keyTokens ++ closing :: valueTokens)) ++ rest =
        word :: opening ::
          (keyTokens ++ closing :: (valueTokens ++ rest)) := by simp
  rw [← spanTo_of_append shape.symm (by simp), shape]
  refine ⟨by simp only [List.length_cons, List.length_append]; omega, ?_⟩
  rw [typeExpr, kind_cons, isMap]
  simp only [expect_cons _ isMap, ok_bind, expect_cons _ opens,
    acceptsKey, expect_cons _ closes, acceptsValue]
  rfl

theorem accepts_channel
    {word : Token} {element : TypeExpr}
    (isChan : word.kind = .keyword .chan)
    (noArrow : kind tokens ≠ .symbol .arrow)
    (reads : Reads source tokens (.type element))
    (accepts : Accepts source tokens (.type element)) :
    Accepts source (word :: tokens)
      (.type (.channel (spanTo (word :: tokens) []) .both element)) := by
  intro rest ends
  obtain ⟨below, accepts⟩ := accepts rest ends
  have noArrow' : kind (tokens ++ rest) ≠ .symbol .arrow := by
    rw [kind_append _ _ reads.ne_nil]
    exact noArrow
  refine ⟨by simp only [List.cons_append, List.length_cons]; omega, ?_⟩
  rw [← spanTo_of_append (rfl : _ = (word :: tokens) ++ rest) (by simp)]
  simp only [List.cons_append]
  rw [typeExpr, kind_cons, isChan]
  rw [expect_cons _ isChan, ok_bind]
  dsimp only
  rw [eat_of_kind noArrow']
  simp only [accepts, ok_bind]
  rfl

theorem accepts_sending
    {word arrow : Token} {element : TypeExpr}
    (isChan : word.kind = .keyword .chan)
    (isArrow : arrow.kind = .symbol .arrow)
    (accepts : Accepts source tokens (.type element)) :
    Accepts source (word :: arrow :: tokens)
      (.type
        (.channel (spanTo (word :: arrow :: tokens) []) .send
          element)) := by
  intro rest ends
  obtain ⟨below, accepts⟩ := accepts rest ends
  refine ⟨by simp only [List.cons_append, List.length_cons]; omega, ?_⟩
  rw [← spanTo_of_append
    (rfl : _ = (word :: arrow :: tokens) ++ rest) (by simp)]
  simp only [List.cons_append]
  rw [typeExpr, kind_cons, isChan]
  rw [expect_cons _ isChan, ok_bind]
  dsimp only
  rw [eat_cons _ isArrow]
  simp only [accepts, ok_bind]
  rfl

theorem accepts_receiving
    {arrow word : Token} {element : TypeExpr}
    (isArrow : arrow.kind = .symbol .arrow)
    (isChan : word.kind = .keyword .chan)
    (accepts : Accepts source tokens (.type element)) :
    Accepts source (arrow :: word :: tokens)
      (.type
        (.channel (spanTo (arrow :: word :: tokens) []) .receive
          element)) := by
  intro rest ends
  obtain ⟨below, accepts⟩ := accepts rest ends
  refine ⟨by simp only [List.cons_append, List.length_cons]; omega, ?_⟩
  rw [← spanTo_of_append
    (rfl : _ = (arrow :: word :: tokens) ++ rest) (by simp)]
  simp only [List.cons_append]
  rw [typeExpr, kind_cons, isArrow]
  simp only [expect_cons _ isArrow, ok_bind, expect_cons _ isChan, accepts]
  rfl

theorem accepts_functionType
    {word : Token} {function : FunctionExpr}
    (isFunc : word.kind = .keyword .func)
    (accepts : Accepts source tokens (.function function)) :
    Accepts source (word :: tokens)
      (.type (.function (spanTo (word :: tokens) []) function)) := by
  intro rest ends
  obtain ⟨below, accepts⟩ := accepts rest ends
  refine ⟨by simp only [List.cons_append, List.length_cons]; omega, ?_⟩
  rw [← spanTo_of_append (rfl : _ = (word :: tokens) ++ rest) (by simp)]
  simp only [List.cons_append]
  rw [typeExpr, kind_cons, isFunc]
  simp only [expect_cons _ isFunc, ok_bind, accepts]
  rfl

/-! ## Names -/

theorem typeArguments_of_kind
    (other : kind rest ≠ .symbol .leftBracket) :
    typeArguments source rest = .ok ([], ⟨rest, Nat.le_refl _⟩) := by
  rw [typeArguments, eat?_of_kind other]

theorem EndsType.kind_ne_leftBracket (ends : EndsType rest) :
    kind rest ≠ .symbol .leftBracket := by
  intro opens
  simp [EndsType, opens, startsType] at ends

theorem accepts_plainName
    {name : Token} (isName : name.kind = .identifier) :
    Accepts source [name]
      (.name
        (.name (spanTo [name] []) none (identifierOf name) [])
        (identifierOf name)) := by
  intro rest ends
  refine ⟨by simp, ?_⟩
  rw [← spanTo_of_append (rfl : _ = [name] ++ rest) (by simp)]
  simp only [List.cons_append, List.nil_append]
  rw [typeName]
  simp only [identifier_cons _ isName, ok_bind, eat?_of_kind ends.2,
    typeArguments_of_kind ends.kind_ne_leftBracket]
  rfl

theorem typeList_append
    {parts : List (List Token × TypeExpr)}
    (separated :
      Separated (.symbol .comma) true (parts.map (·.1)) tokens)
    (reads : ∀ part ∈ parts, Reads source part.1 (.type part.2))
    (accepts : ∀ part ∈ parts, Accepts source part.1 (.type part.2))
    (closes : kind rest = .symbol .rightBracket) :
    ∃ below, typeList source (tokens ++ rest) =
      .ok (parts.map (·.2), ⟨rest, below⟩) := by
  have ends : EndsType rest := by simp [EndsType, closes, startsType]
  have noComma : kind rest ≠ .symbol .comma := by simp [closes]
  generalize arePieces : parts.map (·.1) = pieces at separated
  induction separated generalizing parts with
  | last =>
      obtain ⟨⟨piece, type⟩, rfl, rfl⟩ :=
        List.map_eq_singleton_iff.mp arePieces
      obtain ⟨below, readsType⟩ :=
        accepts _ (List.mem_singleton.mpr rfl) rest ends
      refine ⟨below, ?_⟩
      dsimp only at readsType ⊢
      rw [typeList]
      simp only [readsType, ok_bind, eat?_of_kind noComma]
      rfl
  | @trailing piece mark _ isMark =>
      obtain ⟨⟨piece, type⟩, rfl, rfl⟩ :=
        List.map_eq_singleton_iff.mp arePieces
      obtain ⟨below, readsType⟩ :=
        accepts _ (List.mem_singleton.mpr rfl) (mark :: rest)
          (by simp [EndsType, isMark, startsType])
      have shape :
          (piece ++ [mark]) ++ rest = piece ++ mark :: rest := by simp
      dsimp only at readsType ⊢
      rw [shape]
      refine ⟨by simp only [List.length_append, List.length_cons]; omega,
        ?_⟩
      rw [typeList]
      simp only [readsType, ok_bind, eat?_cons _ isMark, closes]
      rfl
  | @cons piece mark pieces tokens isMark later ih =>
      obtain ⟨⟨piece, type⟩, parts, rfl, rfl, rfl⟩ :=
        List.map_eq_cons_iff.mp arePieces
      obtain ⟨acceptsFirst, acceptsOthers⟩ :=
        List.forall_mem_cons.mp accepts
      obtain ⟨readsFirst, readsOthers⟩ := List.forall_mem_cons.mp reads
      obtain ⟨below, readsType⟩ :=
        acceptsFirst (mark :: (tokens ++ rest))
          (by simp [EndsType, isMark, startsType])
      obtain ⟨below', readsLater⟩ := ih readsOthers acceptsOthers rfl
      have shape :
          (piece ++ mark :: tokens) ++ rest =
            piece ++ mark :: (tokens ++ rest) := by simp
      have notClosed :
          kind (tokens ++ rest) ≠ .symbol .rightBracket := by
        have starts := later.starts_type readsOthers
        rw [kind_append]
        · intro isBracket
          rw [isBracket] at starts
          cases starts
        · exact later.ne_nil (forall_mem_map_fst fun part inParts =>
            (readsOthers part inParts).ne_nil)
      dsimp only at readsType ⊢
      rw [shape]
      refine ⟨by simp only [List.length_append, List.length_cons]; omega,
        ?_⟩
      rw [typeList]
      simp only [readsType, ok_bind, eat?_cons _ isMark, notClosed,
        if_false, readsLater]
      rfl

theorem typeArguments_append
    {opening closing : Token} {parts : List (List Token × TypeExpr)}
    (opens : opening.kind = .symbol .leftBracket)
    (separated :
      Separated (.symbol .comma) true (parts.map (·.1)) tokens)
    (reads : ∀ part ∈ parts, Reads source part.1 (.type part.2))
    (accepts : ∀ part ∈ parts, Accepts source part.1 (.type part.2))
    (closes : closing.kind = .symbol .rightBracket)
    (rest : List Token) :
    ∃ below,
      typeArguments source (opening :: (tokens ++ closing :: rest)) =
        .ok (parts.map (·.2), ⟨rest, below⟩) := by
  have final : kind (closing :: rest) = .symbol .rightBracket := closes
  obtain ⟨below, readsList⟩ :=
    typeList_append separated reads accepts final
  have starts := separated.starts_type reads
  have nonempty : tokens ≠ [] :=
    separated.ne_nil (forall_mem_map_fst fun part inParts =>
      (reads part inParts).ne_nil)
  have notClosed :
      kind (tokens ++ closing :: rest) ≠ .symbol .rightBracket := by
    rw [kind_append _ _ nonempty]
    intro isBracket
    rw [isBracket] at starts
    cases starts
  refine ⟨by simp only [List.length_append, List.length_cons]; omega, ?_⟩
  rw [typeArguments]
  simp only [eat?_cons _ opens, notClosed, if_false, readsList, ok_bind,
    expect_cons _ closes]
  rfl

theorem accepts_genericName
    {name opening closing : Token} {parts : List (List Token × TypeExpr)}
    (isName : name.kind = .identifier)
    (opens : opening.kind = .symbol .leftBracket)
    (separated :
      Separated (.symbol .comma) true (parts.map (·.1)) tokens)
    (reads : ∀ part ∈ parts, Reads source part.1 (.type part.2))
    (accepts : ∀ part ∈ parts, Accepts source part.1 (.type part.2))
    (closes : closing.kind = .symbol .rightBracket) :
    Accepts source (name :: opening :: (tokens ++ [closing]))
      (.name
        (.name
          (spanTo (name :: opening :: (tokens ++ [closing])) [])
          none (identifierOf name) (parts.map (·.2)))
        (identifierOf name)) := by
  intro rest ends
  obtain ⟨below, readsArguments⟩ :=
    typeArguments_append opens separated reads accepts closes rest
  have shape :
      (name :: opening :: (tokens ++ [closing])) ++ rest =
        name :: opening :: (tokens ++ closing :: rest) := by simp
  have noDot :
      kind (opening :: (tokens ++ closing :: rest)) ≠ .symbol .dot := by
    simp [opens]
  rw [← spanTo_of_append shape.symm (by simp), shape]
  refine ⟨by simp only [List.length_append, List.length_cons]; omega, ?_⟩
  rw [typeName]
  simp only [identifier_cons _ isName, ok_bind, eat?_of_kind noDot,
    readsArguments]
  rfl

theorem accepts_qualifiedName
    {qualifier dot : Token} {span : Text.Span} {last : Identifier}
    {arguments : List TypeExpr}
    (isQualifier : qualifier.kind = .identifier)
    (isDot : dot.kind = .symbol .dot)
    (accepts :
      Accepts source tokens
        (.name (.name span none last arguments) last)) :
    Accepts source (qualifier :: dot :: tokens)
      (.name
        (.name (spanTo (qualifier :: dot :: tokens) [])
          (some (identifierOf qualifier)) last arguments)
        last) := by
  intro rest ends
  obtain ⟨below, accepts⟩ := accepts rest ends
  rw [typeName] at accepts
  obtain ⟨⟨first, ⟨afterFirst, byFirst⟩⟩, readsFirst, accepts⟩ :=
    bind_eq_ok accepts
  dsimp only at accepts
  split at accepts
  case h_1 =>
    obtain ⟨⟨second, ⟨afterName, byName⟩⟩, readsSecond, accepts⟩ :=
      bind_eq_ok accepts
    obtain ⟨⟨types, ⟨final, byTypes⟩⟩, readsTypes, accepts⟩ :=
      bind_eq_ok accepts
    cases accepts
  case h_2 =>
    obtain ⟨⟨types, ⟨final, byTypes⟩⟩, readsTypes, accepts⟩ :=
      bind_eq_ok accepts
    cases accepts
    have shape :
        (qualifier :: dot :: tokens) ++ final =
          qualifier :: dot :: (tokens ++ final) := by simp
    rw [← spanTo_of_append shape.symm (by simp), shape]
    refine ⟨by simp only [List.length_append, List.length_cons]; omega, ?_⟩
    rw [typeName]
    simp only [identifier_cons _ isQualifier, ok_bind, eat?_cons _ isDot,
      readsFirst, readsTypes]
    rfl

/-! ## Functions -/

theorem accepts_procedure
    {parameters : List ParameterExpr} {variadic : Bool}
    (accepts : Accepts source tokens (.parameters true parameters variadic)) :
    Accepts source tokens (.function ⟨parameters, [], variadic⟩) := by
  intro rest ends
  obtain ⟨below, accepts⟩ := accepts rest
  have noParens : kind rest ≠ .symbol .leftParen := by
    intro opens
    simp [EndsType, opens, startsType] at ends
  refine ⟨below, ?_⟩
  rw [functionExpr]
  simp only [accepts, ok_bind, noParens, if_false, ends.1,
    Bool.false_eq_true]
  rfl

theorem accepts_oneResult
    {resultTokens : List Token} {parameters : List ParameterExpr}
    {variadic : Bool} {result : TypeExpr}
    (accepts : Accepts source tokens (.parameters true parameters variadic))
    (noParens : kind resultTokens ≠ .symbol .leftParen)
    (readsResult : Reads source resultTokens (.type result))
    (acceptsResult : Accepts source resultTokens (.type result)) :
    Accepts source (tokens ++ resultTokens)
      (.function ⟨parameters, [⟨none, result⟩], variadic⟩) := by
  intro rest ends
  obtain ⟨below, accepts⟩ := accepts (resultTokens ++ rest)
  obtain ⟨below', acceptsResult⟩ := acceptsResult rest ends
  have same := kind_append _ rest readsResult.ne_nil
  have noParens' : kind (resultTokens ++ rest) ≠ .symbol .leftParen :=
    same ▸ noParens
  have starts : startsType (kind (resultTokens ++ rest)) = true :=
    same ▸ readsResult.starts_type
  rw [List.append_assoc]
  refine ⟨Nat.lt_trans below' below, ?_⟩
  rw [functionExpr]
  simp only [accepts, ok_bind, noParens', if_false, starts, if_true,
    acceptsResult]
  rfl

theorem accepts_results
    {resultTokens : List Token} {parameters results : List ParameterExpr}
    {variadic spread : Bool}
    (accepts : Accepts source tokens (.parameters true parameters variadic))
    (readsResults :
      Reads source resultTokens (.parameters false results spread))
    (acceptsResults :
      Accepts source resultTokens (.parameters false results spread)) :
    Accepts source (tokens ++ resultTokens)
      (.function ⟨parameters, results, variadic⟩) := by
  intro rest ends
  obtain ⟨below, accepts⟩ := accepts (resultTokens ++ rest)
  obtain ⟨below', acceptsResults⟩ := acceptsResults rest
  have opens : kind (resultTokens ++ rest) = .symbol .leftParen := by
    rw [kind_append _ _ readsResults.ne_nil]
    exact readsResults.kind_of_parameters
  rw [List.append_assoc]
  refine ⟨Nat.lt_trans below' below, ?_⟩
  rw [functionExpr]
  simp only [accepts, ok_bind, opens, if_true, acceptsResults]
  rfl

/-! ## Parameters -/

theorem accepts_noParameters
    {opening closing : Token} {allowed : Bool}
    (opens : opening.kind = .symbol .leftParen)
    (closes : closing.kind = .symbol .rightParen) :
    Accepts source [opening, closing] (.parameters allowed [] false) := by
  intro rest
  simp only [List.cons_append, List.nil_append]
  refine ⟨by simp only [List.length_cons]; omega, ?_⟩
  rw [parameterList]
  simp only [expect_cons _ opens, ok_bind]
  rw [parameterEntries]
  simp only [kind_cons, closes, if_true, ok_bind, expect_cons _ closes]
  rfl

theorem parameterEntries_append
    {parts : List (List Token × ParameterEntry)}
    (separated :
      Separated (.symbol .comma) true (parts.map (·.1)) tokens)
    (reads : ∀ part ∈ parts, Reads source part.1 (.entry part.2))
    (accepts : ∀ part ∈ parts, Accepts source part.1 (.entry part.2))
    (closes : kind rest = .symbol .rightParen) :
    ∃ below, parameterEntries source (tokens ++ rest) =
      .ok (parts.map (·.2), ⟨rest, below⟩) := by
  have noComma : kind rest ≠ .symbol .comma := by simp [closes]
  generalize arePieces : parts.map (·.1) = pieces at separated
  induction separated generalizing parts with
  | last =>
      obtain ⟨⟨piece, entry⟩, rfl, rfl⟩ :=
        List.map_eq_singleton_iff.mp arePieces
      have inParts := List.mem_singleton.mpr (rfl : (piece, entry) = _)
      obtain ⟨below, readsEntry⟩ := accepts _ inParts rest (.inr closes)
      have notClosed := (reads _ inParts).kind_ne_rightParen rest
      refine ⟨Nat.le_of_lt below, ?_⟩
      dsimp only at readsEntry notClosed ⊢
      rw [parameterEntries]
      simp only [notClosed, if_false, readsEntry, ok_bind,
        eat?_of_kind noComma]
      rfl
  | @trailing piece mark _ isMark =>
      obtain ⟨⟨piece, entry⟩, rfl, rfl⟩ :=
        List.map_eq_singleton_iff.mp arePieces
      have inParts := List.mem_singleton.mpr (rfl : (piece, entry) = _)
      obtain ⟨below, readsEntry⟩ :=
        accepts _ inParts (mark :: rest) (.inl isMark)
      have notClosed :=
        (reads _ inParts).kind_ne_rightParen (mark :: rest)
      have shape :
          (piece ++ [mark]) ++ rest = piece ++ mark :: rest := by simp
      dsimp only at readsEntry notClosed ⊢
      rw [shape]
      refine ⟨by simp only [List.length_append, List.length_cons]; omega,
        ?_⟩
      rw [parameterEntries]
      simp only [notClosed, if_false, readsEntry, ok_bind,
        eat?_cons _ isMark]
      rw [parameterEntries]
      simp only [closes, if_true, ok_bind]
      rfl
  | @cons piece mark pieces tokens isMark later ih =>
      obtain ⟨⟨piece, entry⟩, parts, rfl, rfl, rfl⟩ :=
        List.map_eq_cons_iff.mp arePieces
      obtain ⟨acceptsFirst, acceptsOthers⟩ :=
        List.forall_mem_cons.mp accepts
      obtain ⟨readsFirst, readsOthers⟩ := List.forall_mem_cons.mp reads
      obtain ⟨below, readsEntry⟩ :=
        acceptsFirst (mark :: (tokens ++ rest)) (.inl isMark)
      have notClosed :=
        readsFirst.kind_ne_rightParen (mark :: (tokens ++ rest))
      obtain ⟨below', readsLater⟩ := ih readsOthers acceptsOthers rfl
      have shape :
          (piece ++ mark :: tokens) ++ rest =
            piece ++ mark :: (tokens ++ rest) := by simp
      dsimp only at readsEntry notClosed ⊢
      rw [shape]
      refine ⟨by simp only [List.length_append, List.length_cons]; omega,
        ?_⟩
      rw [parameterEntries]
      simp only [notClosed, if_false, readsEntry, ok_bind,
        eat?_cons _ isMark, readsLater]
      rfl

theorem accepts_parameters
    {opening closing : Token} {allowed variadic : Bool}
    {list : List ParameterExpr}
    {parts : List (List Token × ParameterEntry)}
    (opens : opening.kind = .symbol .leftParen)
    (separated :
      Separated (.symbol .comma) true (parts.map (·.1)) tokens)
    (reads : ∀ part ∈ parts, Reads source part.1 (.entry part.2))
    (accepts : ∀ part ∈ parts, Accepts source part.1 (.entry part.2))
    (closes : closing.kind = .symbol .rightParen)
    (resolved :
      ParameterEntry.resolve allowed closing.span (parts.map (·.2)) =
        .ok (list, variadic)) :
    Accepts source (opening :: (tokens ++ [closing]))
      (.parameters allowed list variadic) := by
  intro rest
  have final : kind (closing :: rest) = .symbol .rightParen := closes
  obtain ⟨below, readsEntries⟩ :=
    parameterEntries_append separated reads accepts final
  have shape :
      (opening :: (tokens ++ [closing])) ++ rest =
        opening :: (tokens ++ closing :: rest) := by simp
  rw [shape]
  refine ⟨by simp only [List.length_append, List.length_cons]; omega, ?_⟩
  rw [parameterList]
  simp only [expect_cons _ opens, ok_bind, readsEntries,
    expect_cons _ closes, resolved]
  rfl

/-! ## Entries of a parameter list -/

theorem accepts_bareEntry
    {name : Token} (isName : name.kind = .identifier) :
    Accepts source [name] (.entry (.bare (identifierOf name))) := by
  intro rest ends
  have noDots : kind (name :: rest) ≠ .symbol .ellipsis := by
    simp [isName]
  have form : entryForm (name :: rest) = .bare := by
    have next : kindAt 1 (name :: rest) = kind rest := rfl
    rw [entryForm, next]
    rcases ends with isComma | isParen
    · rw [isComma]
    · rw [isParen]
  refine ⟨by simp, ?_⟩
  simp only [List.cons_append, List.nil_append]
  rw [parameterEntry]
  simp only [eat?_of_kind noDots, kind_cons, isName, ne_eq,
    not_true_eq_false, if_false, form, identifier_cons _ isName, ok_bind]
  rfl

theorem accepts_unnamedEntry
    {type : TypeExpr} (notBare : tokens.length ≠ 1)
    (reads : Reads source tokens (.type type))
    (accepts : Accepts source tokens (.type type)) :
    Accepts source tokens (.entry (.unnamed type false)) := by
  intro rest ends
  obtain ⟨below, accepts⟩ := accepts rest ends.endsType
  have same := kind_append _ rest reads.ne_nil
  have noDots : kind (tokens ++ rest) ≠ .symbol .ellipsis := by
    rw [same]
    intro areDots
    have starts := reads.starts_type
    rw [areDots] at starts
    cases starts
  refine ⟨below, ?_⟩
  rw [parameterEntry]
  by_cases isName : kind (tokens ++ rest) = .identifier
  · have form : entryForm (tokens ++ rest) = .type :=
      reads.entryForm_of_identifier (same ▸ isName) notBare
        ends.endsType
    simp only [eat?_of_kind noDots, isName, ne_eq, not_true_eq_false,
      if_false, form, accepts, ok_bind]
    rfl
  · simp only [eat?_of_kind noDots, isName, ne_eq, not_false_eq_true,
      if_true, accepts, ok_bind]
    rfl

theorem accepts_spreadEntry
    {dots : Token} {type : TypeExpr}
    (areDots : dots.kind = .symbol .ellipsis)
    (accepts : Accepts source tokens (.type type)) :
    Accepts source (dots :: tokens) (.entry (.unnamed type true)) := by
  intro rest ends
  obtain ⟨below, accepts⟩ := accepts rest ends.endsType
  refine ⟨by simp only [List.cons_append, List.length_cons]; omega, ?_⟩
  simp only [List.cons_append]
  rw [parameterEntry]
  simp only [eat?_cons _ areDots, accepts, ok_bind]
  rfl

theorem accepts_namedEntry
    {name : Token} {type : TypeExpr}
    (isName : name.kind = .identifier)
    (reads : Reads source tokens (.type type))
    (accepts : Accepts source tokens (.type type)) :
    Accepts source (name :: tokens)
      (.entry (.named (identifierOf name) type false)) := by
  intro rest ends
  obtain ⟨below, accepts⟩ := accepts rest ends.endsType
  have noDots : kind (name :: (tokens ++ rest)) ≠ .symbol .ellipsis := by
    simp [isName]
  have form := reads.entryForm_after name rest
  refine ⟨by simp only [List.cons_append, List.length_cons]; omega, ?_⟩
  simp only [List.cons_append]
  rw [parameterEntry]
  simp only [eat?_of_kind noDots, kind_cons, isName, ne_eq,
    not_true_eq_false, if_false, form, identifier_cons _ isName, ok_bind,
    accepts]
  rfl

theorem accepts_namedSpreadEntry
    {name dots : Token} {type : TypeExpr}
    (isName : name.kind = .identifier)
    (areDots : dots.kind = .symbol .ellipsis)
    (accepts : Accepts source tokens (.type type)) :
    Accepts source (name :: dots :: tokens)
      (.entry (.named (identifierOf name) type true)) := by
  intro rest ends
  obtain ⟨below, accepts⟩ := accepts rest ends.endsType
  have noDots :
      kind (name :: dots :: (tokens ++ rest)) ≠ .symbol .ellipsis := by
    simp [isName]
  have form :
      entryForm (name :: dots :: (tokens ++ rest)) = .variadicName := by
    simp [entryForm, kindAt, areDots]
  refine ⟨by simp only [List.cons_append, List.length_cons]; omega, ?_⟩
  simp only [List.cons_append]
  rw [parameterEntry]
  simp only [eat?_of_kind noDots, kind_cons, isName, ne_eq,
    not_true_eq_false, if_false, form, identifier_cons _ isName, ok_bind,
    expect_cons _ areDots, accepts]
  rfl

/-! ## Fields -/

theorem accepts_embeddedField
    {tagTokens : List Token} {type : TypeExpr} {last : Identifier}
    {text : Option String}
    (reads : Reads source tokens (.name type last))
    (tagged : Tagged tagTokens text)
    (accepts : Accepts source tokens (.name type last)) :
    Accepts source (tokens ++ tagTokens)
      (.fields [⟨last, type, text, true⟩]) := by
  intro rest ends
  obtain ⟨below, accepts⟩ :=
    accepts (tagTokens ++ rest) (tagged.endsType ends)
  obtain ⟨below', readsTag⟩ := tag_append tagged ends
  have embeds := reads.embeds?_of_name tagged ends
  have noStar : kind (tokens ++ (tagTokens ++ rest)) ≠ .symbol .star := by
    rw [kind_append _ _ reads.ne_nil, reads.kind_of_name]
    simp
  rw [List.append_assoc]
  refine ⟨Nat.lt_of_le_of_lt below' below, ?_⟩
  rw [fieldExprs, embeds]
  dsimp only
  rw [eat_of_kind noStar]
  simp only [accepts, ok_bind, readsTag]
  rfl

theorem accepts_embeddedPointer
    {star : Token} {tagTokens : List Token} {type : TypeExpr}
    {last : Identifier} {text : Option String}
    (isStar : star.kind = .symbol .star)
    (tagged : Tagged tagTokens text)
    (accepts : Accepts source tokens (.name type last)) :
    Accepts source (star :: (tokens ++ tagTokens))
      (.fields
        [⟨last, .pointer (spanTo (star :: tokens) []) type, text,
          true⟩]) := by
  intro rest ends
  obtain ⟨below, accepts⟩ :=
    accepts (tagTokens ++ rest) (tagged.endsType ends)
  obtain ⟨below', readsTag⟩ := tag_append tagged ends
  have shape :
      (star :: (tokens ++ tagTokens)) ++ rest =
        star :: (tokens ++ (tagTokens ++ rest)) := by simp
  have embeds :
      embeds? (star :: (tokens ++ (tagTokens ++ rest))) = some true := by
    simp [embeds?, isStar]
  rw [← spanTo_of_append
    (rfl : star :: (tokens ++ (tagTokens ++ rest)) =
      (star :: tokens) ++ (tagTokens ++ rest)) (by simp), shape]
  refine ⟨by simp only [List.length_cons]; omega, ?_⟩
  rw [fieldExprs, embeds]
  dsimp only
  rw [eat_cons _ isStar]
  simp only [accepts, ok_bind, readsTag]
  rfl

theorem accepts_namedFields
    {nameTokens tagTokens : List Token} {names : List Identifier}
    {type : TypeExpr} {text : Option String}
    (areNames : Names nameTokens names)
    (reads : Reads source tokens (.type type))
    (tagged : Tagged tagTokens text)
    (accepts : Accepts source tokens (.type type)) :
    Accepts source (nameTokens ++ (tokens ++ tagTokens))
      (.fields (fieldsOf names type text)) := by
  intro rest ends
  obtain ⟨below, accepts⟩ :=
    accepts (tagTokens ++ rest) (tagged.endsType ends)
  obtain ⟨below', readsTag⟩ := tag_append tagged ends
  have noComma :
      kind (tokens ++ (tagTokens ++ rest)) ≠ .symbol .comma := by
    rw [kind_append _ _ reads.ne_nil]
    intro isComma
    have starts := reads.starts_type
    rw [isComma] at starts
    cases starts
  obtain ⟨below'', readsNames⟩ := identifiers_append areNames noComma
  have embeds := reads.embeds?_after areNames (tagTokens ++ rest)
  have shape :
      (nameTokens ++ (tokens ++ tagTokens)) ++ rest =
        nameTokens ++ (tokens ++ (tagTokens ++ rest)) := by simp
  rw [shape]
  refine ⟨by omega, ?_⟩
  rw [fieldExprs, embeds]
  simp only [readsNames, ok_bind, accepts, readsTag]
  rfl

/-! ## Type sets -/

theorem termExprs_append
    (parts : List (List Token × TermExpr))
    (separated :
      Separated (.symbol .pipe) false (parts.map (·.1)) tokens)
    (accepts : ∀ part ∈ parts, Accepts source part.1 (.term part.2))
    (ends : EndsType rest) (noPipe : kind rest ≠ .symbol .pipe) :
    ∃ below, termExprs source (tokens ++ rest) =
      .ok (parts.map (·.2), ⟨rest, below⟩) := by
  generalize arePieces : parts.map (·.1) = pieces at separated
  induction separated generalizing parts with
  | last =>
      obtain ⟨⟨piece, ⟨approximate, type⟩⟩, rfl, rfl⟩ :=
        List.map_eq_singleton_iff.mp arePieces
      obtain ⟨inner, within, below, eaten, readsType⟩ :=
        accepts _ (List.mem_singleton.mpr rfl) rest ends
      dsimp only at eaten within ⊢
      refine ⟨Nat.lt_of_lt_of_le below within, ?_⟩
      rw [termExprs, eaten]
      simp only [readsType, ok_bind, eat?_of_kind noPipe]
      rfl
  | trailing allowed => cases allowed
  | @cons piece mark pieces tokens isMark later ih =>
      obtain ⟨⟨piece, ⟨approximate, type⟩⟩, parts, rfl, rfl, rfl⟩ :=
        List.map_eq_cons_iff.mp arePieces
      obtain ⟨acceptsFirst, acceptsOthers⟩ :=
        List.forall_mem_cons.mp accepts
      obtain ⟨inner, within, below, eaten, readsType⟩ :=
        acceptsFirst (mark :: (tokens ++ rest))
          (by simp [EndsType, isMark, startsType])
      obtain ⟨below', readsLater⟩ := ih _ acceptsOthers rfl
      have shape :
          (piece ++ mark :: tokens) ++ rest =
            piece ++ mark :: (tokens ++ rest) := by simp
      dsimp only at eaten within ⊢
      rw [shape]
      refine ⟨by simp only [List.length_append, List.length_cons]; omega,
        ?_⟩
      rw [termExprs, eaten]
      simp only [readsType, ok_bind, eat?_cons _ isMark, readsLater]
      rfl

theorem accepts_term
    {type : TypeExpr} (reads : Reads source tokens (.type type))
    (accepts : Accepts source tokens (.type type)) :
    Accepts source tokens (.term ⟨false, type⟩) := by
  intro rest ends
  obtain ⟨below, accepts⟩ := accepts rest ends
  have noTilde : kind (tokens ++ rest) ≠ .symbol .tilde := by
    rw [kind_append _ _ reads.ne_nil]
    intro isTilde
    have starts := reads.starts_type
    rw [isTilde] at starts
    cases starts
  exact ⟨_, Nat.le_refl _, below, eat_of_kind noTilde, accepts⟩

theorem accepts_tildeTerm
    {tilde : Token} {type : TypeExpr}
    (isTilde : tilde.kind = .symbol .tilde)
    (accepts : Accepts source tokens (.type type)) :
    Accepts source (tilde :: tokens) (.term ⟨true, type⟩) := by
  intro rest ends
  obtain ⟨below, accepts⟩ := accepts rest ends
  exact ⟨_, _, below, eat_cons _ isTilde, accepts⟩

theorem accepts_single
    {type : TypeExpr} (reads : Reads source tokens (.type type))
    (accepts : Accepts source tokens (.type type)) :
    Accepts source tokens (.constraint type) := by
  intro rest ends noPipe
  obtain ⟨below, readsTerms⟩ :=
    termExprs_append [(tokens, ⟨false, type⟩)] .last
      (by simpa using accepts_term reads accepts) ends noPipe
  refine ⟨below, ?_⟩
  rw [constraintExpr]
  simp only [readsTerms, ok_bind]
  rfl

theorem accepts_union
    {parts : List (List Token × TermExpr)}
    (separated :
      Separated (.symbol .pipe) false (parts.map (·.1)) tokens)
    (reads : ∀ part ∈ parts, Reads source part.1 (.term part.2))
    (accepts : ∀ part ∈ parts, Accepts source part.1 (.term part.2))
    (proper : ∀ type, parts.map (·.2) ≠ [⟨false, type⟩]) :
    Accepts source tokens
      (.constraint (.union (spanTo tokens []) (parts.map (·.2)))) := by
  intro rest ends noPipe
  obtain ⟨below, readsTerms⟩ :=
    termExprs_append parts separated accepts ends noPipe
  have nonempty : tokens ≠ [] :=
    separated.ne_nil (forall_mem_map_fst fun part inParts =>
      (reads part inParts).ne_nil)
  rw [← spanTo_of_append (rfl : tokens ++ rest = _) nonempty]
  refine ⟨below, ?_⟩
  rw [constraintExpr]
  rw [readsTerms, ok_bind]
  dsimp only
  split
  case h_1 type single => exact absurd single (proper type)
  case h_2 => rfl

/-! ## Members of an interface -/

theorem accepts_method
    {name : Token} {function : FunctionExpr}
    (isName : name.kind = .identifier)
    (reads : Reads source tokens (.function function))
    (accepts : Accepts source tokens (.function function)) :
    Accepts source (name :: tokens)
      (.member (.method (identifierOf name) function)) := by
  intro rest ends
  obtain ⟨below, accepts⟩ := accepts rest ends.endsType
  have isCall :
      kind (name :: (tokens ++ rest)) = .identifier ∧
        kindAt 1 (name :: (tokens ++ rest)) = .symbol .leftParen := by
    refine ⟨isName, ?_⟩
    rw [kindAt_succ_cons]
    exact (kind_append _ _ reads.ne_nil).trans reads.kind_of_function
  refine ⟨by simp only [List.cons_append, List.length_cons]; omega, ?_⟩
  simp only [List.cons_append]
  rw [memberExpr, if_pos isCall]
  simp only [identifier_cons _ isName, ok_bind, accepts]
  rfl

theorem accepts_embed
    {type : TypeExpr} (reads : Reads source tokens (.constraint type))
    (accepts : Accepts source tokens (.constraint type)) :
    Accepts source tokens (.member (.embed type)) := by
  intro rest ends
  have noPipe : kind rest ≠ .symbol .pipe := by
    rcases ends with ends | ends <;> simp [ends]
  obtain ⟨below, accepts⟩ := accepts rest ends.endsType noPipe
  refine ⟨below, ?_⟩
  rw [memberExpr, if_neg (reads.not_call ends.endsType)]
  simp only [accepts, ok_bind]
  rfl

/-! ## Structs and interfaces -/

theorem accepts_record
    {word opening : Token} {parts : List (List Token × List FieldExpr)}
    (isStruct : word.kind = .keyword .struct)
    (opens : opening.kind = .symbol .leftBrace)
    (enclosed :
      Enclosed (.symbol .rightBrace) (parts.map (·.1)) tokens)
    (reads : ∀ part ∈ parts, Reads source part.1 (.fields part.2))
    (accepts : ∀ part ∈ parts, Accepts source part.1 (.fields part.2)) :
    Accepts source (word :: opening :: tokens)
      (.type
        (.record (spanTo (word :: opening :: tokens) [])
          (parts.map (·.2)).flatten)) := by
  intro rest ends
  obtain ⟨below, readsFields⟩ :=
    items_append (tokens ++ rest).length
      (fun inside _ => fieldExprs source inside)
      (by simp) enclosed
      (fun part inParts rest => (reads part inParts).starts_fields rest)
      (fun part inParts rest within ends => accepts part inParts rest ends)
      rest (Nat.le_refl _)
  rw [← spanTo_of_append
    (rfl : _ = (word :: opening :: tokens) ++ rest) (by simp)]
  refine ⟨by simp only [List.cons_append, List.length_cons]; omega, ?_⟩
  simp only [List.cons_append]
  rw [typeExpr, kind_cons, isStruct]
  simp only [expect_cons _ isStruct, ok_bind, expect_cons _ opens,
    readsFields]
  rfl

theorem accepts_interface
    {word opening : Token} {parts : List (List Token × MemberExpr)}
    (isInterface : word.kind = .keyword .interface)
    (opens : opening.kind = .symbol .leftBrace)
    (enclosed :
      Enclosed (.symbol .rightBrace) (parts.map (·.1)) tokens)
    (reads : ∀ part ∈ parts, Reads source part.1 (.member part.2))
    (accepts : ∀ part ∈ parts, Accepts source part.1 (.member part.2)) :
    Accepts source (word :: opening :: tokens)
      (.type
        (.interface (spanTo (word :: opening :: tokens) [])
          (parts.map (·.2)))) := by
  intro rest ends
  obtain ⟨below, readsMembers⟩ :=
    items_append (tokens ++ rest).length
      (fun inside _ => memberExpr source inside)
      (by simp) enclosed
      (fun part inParts rest => (reads part inParts).starts_member rest)
      (fun part inParts rest within ends => accepts part inParts rest ends)
      rest (Nat.le_refl _)
  rw [← spanTo_of_append
    (rfl : _ = (word :: opening :: tokens) ++ rest) (by simp)]
  refine ⟨by simp only [List.cons_append, List.length_cons]; omega, ?_⟩
  simp only [List.cons_append]
  rw [typeExpr, kind_cons, isInterface]
  simp only [expect_cons _ isInterface, ok_bind, expect_cons _ opens,
    readsMembers]
  rfl

/-! ## All phrases -/

/-- The reader of a phrase accepts its tokens in front of anything that cannot continue it. -/
theorem Reads.accepts
    {phrase : Phrase} (reads : Reads source tokens phrase) :
    Accepts source tokens phrase := by
  induction reads with
  | named reads ih => exact accepts_named reads ih
  | parens opens _ closes ih => exact accepts_parens opens closes ih
  | pointer isStar _ ih => exact accepts_pointer isStar ih
  | slice opens closes _ ih => exact accepts_slice opens closes ih
  | array opens isLength _ ih => exact accepts_array opens isLength ih
  | map isMap opens _ closes _ ihKey ihValue =>
      exact accepts_map isMap opens closes ihKey ihValue
  | channel isChan noArrow reads ih =>
      exact accepts_channel isChan noArrow reads ih
  | sending isChan isArrow _ ih => exact accepts_sending isChan isArrow ih
  | receiving isArrow isChan _ ih =>
      exact accepts_receiving isArrow isChan ih
  | functionType isFunc _ ih => exact accepts_functionType isFunc ih
  | record isStruct opens enclosed reads ih =>
      exact accepts_record isStruct opens enclosed reads ih
  | interface isInterface opens enclosed reads ih =>
      exact accepts_interface isInterface opens enclosed reads ih
  | plainName isName => exact accepts_plainName isName
  | genericName isName opens separated reads closes ih =>
      exact accepts_genericName isName opens separated reads ih closes
  | qualifiedName isQualifier isDot _ ih =>
      exact accepts_qualifiedName isQualifier isDot ih
  | procedure _ ih => exact accepts_procedure ih
  | oneResult _ noParens readsResult ih ihResult =>
      exact accepts_oneResult ih noParens readsResult ihResult
  | results _ readsResults ih ihResults =>
      exact accepts_results ih readsResults ihResults
  | noParameters opens closes => exact accepts_noParameters opens closes
  | parameters opens separated reads closes resolved ih =>
      exact accepts_parameters opens separated reads ih closes resolved
  | bareEntry isName => exact accepts_bareEntry isName
  | unnamedEntry notBare reads ih =>
      exact accepts_unnamedEntry notBare reads ih
  | spreadEntry areDots _ ih => exact accepts_spreadEntry areDots ih
  | namedEntry isName reads ih => exact accepts_namedEntry isName reads ih
  | namedSpreadEntry isName areDots _ ih =>
      exact accepts_namedSpreadEntry isName areDots ih
  | embeddedField reads tagged ih =>
      exact accepts_embeddedField reads tagged ih
  | embeddedPointer isStar _ tagged ih =>
      exact accepts_embeddedPointer isStar tagged ih
  | namedFields areNames reads tagged ih =>
      exact accepts_namedFields areNames reads tagged ih
  | method isName reads ih => exact accepts_method isName reads ih
  | embed reads ih => exact accepts_embed reads ih
  | single reads ih => exact accepts_single reads ih
  | union separated reads proper ih =>
      exact accepts_union separated reads ih proper
  | plainTerm reads ih => exact accepts_term reads ih
  | tildeTerm isTilde _ ih => exact accepts_tildeTerm isTilde ih

end GoUnion.Reader
