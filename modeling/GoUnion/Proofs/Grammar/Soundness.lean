import GoUnion.Proofs.Grammar.Shape

/-!
# Readers follow the grammar

What a reader of type expressions accepts is a phrase of the grammar: the
tokens it uses form the expression it returns.  The productions have a few
shapes, and there is a lemma for each of them: a phrase behind tokens, phrases
in braces behind tokens, and phrases with separators between them.  The
statements about the readers then form one induction on the number of tokens,
with one statement for each reader; each takes a successful run apart step by
step and names the production.

An entry of a parameter list is the one phrase that depends on what follows.
A lone identifier is an entry of its own kind there, and what decides is
whether a comma or the closing parenthesis comes next.
-/

namespace GoUnion.Reader

/-- The tokens before a remainder form a phrase. -/
def Consumes
    (source : List Char) (tokens rest : List Token)
    (phrase : Phrase) : Prop :=
  ∃ used, tokens = used ++ rest ∧ Reads source used phrase

/-- The span of the tokens that a reader has used. -/
theorem spanTo_of_append
    {tokens used rest : List Token}
    (shape : tokens = used ++ rest)
    (nonempty : used ≠ []) :
    spanTo tokens rest = spanTo used [] := by
  subst shape
  cases used with
  | nil => exact absurd rfl nonempty
  | cons token tail =>
      have beyond :
          (token :: (tail ++ rest)).length - rest.length =
            (token :: tail).length := by
        simp only [List.length_cons, List.length_append]
        omega
      simp only [spanTo, current, List.cons_append, beyond,
        List.headD_cons, List.length_nil, Nat.sub_zero,
        List.take_length]
      rw [← List.cons_append, List.take_left]

/-- The tokens that a reader has used start like the tokens that it was given. -/
theorem kind_of_append
    {tokens used rest : List Token}
    (shape : tokens = used ++ rest)
    (shorter : rest.length < tokens.length) :
    kind used = kind tokens := by
  subst shape
  cases used with
  | nil => exact absurd shorter (Nat.lt_irrefl _)
  | cons token tail => rfl

/-- A reader that gives its result the span of what it has used consumes a phrase with that span. -/
theorem consumes_spanned
    {source : List Char} {tokens used rest : List Token}
    (build : Text.Span → Phrase)
    (shape : tokens = used ++ rest)
    (reads : Reads source used (build (spanTo used []))) :
    Consumes source tokens rest (build (spanTo tokens rest)) :=
  ⟨used, shape, spanTo_of_append shape reads.ne_nil ▸ reads⟩

/-! ## Shapes of productions -/

section Shapes

variable {source : List Char} {tokens inner rest : List Token}

/-- Most productions end with a phrase and have tokens of their own in front of it.  Whether those
tokens fit may depend on how the phrase starts. -/
theorem Consumes.behind
    {phrase : Phrase}
    (inside : Consumes source inner rest phrase)
    (front : List Token) (shape : tokens = front ++ inner)
    (build : Text.Span → Phrase)
    (forms :
      ∀ used, kind used = kind inner → Reads source used phrase →
        Reads source (front ++ used)
          (build (spanTo (front ++ used) []))) :
    Consumes source tokens rest (build (spanTo tokens rest)) := by
  obtain ⟨used, rfl, reads⟩ := inside
  exact consumes_spanned build (by simp [shape])
    (forms used (kind_append used rest reads.ne_nil).symm reads)

/-- Some productions end with phrases in braces and have tokens of their own in front of them. -/
theorem consumes_braced
    {α : Type} {bound : Nat} {within : inner.length ≤ bound}
    {item :
      (tokens : List Token) → tokens.length ≤ bound → Read α tokens}
    {values : List α} {final : Shorter inner} {phrase : α → Phrase}
    (succeeds :
      items (.symbol .rightBrace) bound item inner within =
        .ok (values, final))
    (consumes :
      ∀ (tokens : List Token) (within : tokens.length ≤ bound)
        (value : α) (rest : Shorter tokens),
        item tokens within = .ok (value, rest) →
          Consumes source tokens rest.1 (phrase value))
    (front : List Token) (shape : tokens = front ++ inner)
    (build : Text.Span → Phrase)
    (forms :
      ∀ (used : List Token) (parts : List (List Token × α)),
        parts.map (·.2) = values →
        Enclosed (.symbol .rightBrace) (parts.map (·.1)) used →
        (∀ part ∈ parts, Reads source part.1 (phrase part.2)) →
          Reads source (front ++ used)
            (build (spanTo (front ++ used) []))) :
    Consumes source tokens final.1
      (build (spanTo tokens final.1)) := by
  obtain ⟨used, parts, shape', same, enclosed, reads⟩ :=
    items_enclosed (Reads source · <| phrase ·) (by simp) (by simp)
      (fun tokens within value rest succeeds _ =>
        consumes tokens within value rest succeeds) succeeds
  exact consumes_spanned build (by simp [shape, shape'])
    (forms used parts same enclosed reads)

/-- The tokens before a remainder form a list of phrases with separators between them. -/
def ConsumesList {α : Type}
    (separator : TokenKind) (trailing : Bool) (phrase : α → Phrase)
    (source : List Char) (tokens rest : List Token) (values : List α) :
    Prop :=
  ∃ (used : List Token) (parts : List (List Token × α)),
    tokens = used ++ rest ∧ parts.map (·.2) = values ∧
      Separated separator trailing (parts.map (·.1)) used ∧
      ∀ part ∈ parts, Reads source part.1 (phrase part.2)

variable {α : Type} {separator : TokenKind} {trailing : Bool}
  {phrase : α → Phrase} {value : α} {mark : Token}

theorem Consumes.list_one
    (consumes : Consumes source tokens rest (phrase value)) :
    ConsumesList separator trailing phrase source tokens rest [value] := by
  obtain ⟨used, shape, reads⟩ := consumes
  exact ⟨used, [(used, value)], shape, rfl, .last, by simpa using reads⟩

theorem Consumes.list_trailing
    (consumes : Consumes source tokens (mark :: rest) (phrase value))
    (isMark : mark.kind = separator) :
    ConsumesList separator true phrase source tokens rest [value] := by
  obtain ⟨used, shape, reads⟩ := consumes
  exact ⟨used ++ [mark], [(used, value)], by simp [shape], rfl,
    .trailing rfl isMark, by simpa using reads⟩

theorem Consumes.list_cons
    {values : List α}
    (consumes : Consumes source tokens (mark :: inner) (phrase value))
    (isMark : mark.kind = separator)
    (others :
      ConsumesList separator trailing phrase source inner rest values) :
    ConsumesList separator trailing phrase source tokens rest
      (value :: values) := by
  obtain ⟨piece, shape, reads⟩ := consumes
  obtain ⟨used, parts, rfl, rfl, separated, pieces⟩ := others
  exact ⟨piece ++ mark :: used, (piece, value) :: parts, by simp [shape],
    rfl, .cons isMark separated,
    List.forall_mem_cons.mpr ⟨reads, pieces⟩⟩

end Shapes

/-! ## Entries of parameter lists -/

/-- What may follow an entry of a parameter list. -/
def EndsEntry (tokens : List Token) : Prop :=
  kind tokens = .symbol .comma ∨ kind tokens = .symbol .rightParen

/-- A lone identifier at the end of an entry is not taken for a type. -/
theorem length_ne_one_of_entryForm
    {tokens used rest : List Token}
    (shape : tokens = used ++ rest)
    (form : entryForm tokens = .type)
    (ends : EndsEntry rest) :
    used.length ≠ 1 := by
  intro single
  obtain ⟨token, rfl⟩ := List.length_eq_one_iff.mp single
  have second : kindAt 1 tokens = kind rest := by
    subst shape
    cases rest <;> rfl
  rw [entryForm, second] at form
  rcases ends with isComma | isParen
  · simp [isComma] at form
  · simp [isParen] at form

/-! ## The readers -/

mutual

theorem typeExpr_consumes
    {source : List Char} {tokens : List Token} {type : TypeExpr}
    {rest : Shorter tokens}
    (succeeds : typeExpr source tokens = .ok (type, rest)) :
    Consumes source tokens rest.1 (.type type) := by
  rw [typeExpr] at succeeds
  -- The first token decides on the production; the cases stand in the order of the reader.
  split at succeeds
  case h_1 =>
    obtain ⟨⟨⟨name, last⟩, later⟩, readsName, succeeds⟩ :=
      bind_eq_ok succeeds
    cases succeeds
    obtain ⟨used, shape, reads⟩ := typeName_consumes readsName
    exact ⟨used, shape, .named reads⟩
  case h_2 =>
    obtain ⟨opening, inner, _, shape, opens, succeeds⟩ :=
      expect_bind_eq_ok succeeds
    obtain ⟨⟨innerType, ⟨later, _⟩⟩, readsType, succeeds⟩ :=
      bind_eq_ok succeeds
    obtain ⟨closing, final, _, shape', closes, succeeds⟩ :=
      expect_bind_eq_ok succeeds
    cases succeeds
    obtain ⟨used, shape'', reads⟩ := typeExpr_consumes readsType
    exact ⟨opening :: (used ++ [closing]),
      by simp [shape, shape', shape''], .parens opens reads closes⟩
  case h_3 =>
    obtain ⟨star, inner, _, shape, isStar, succeeds⟩ :=
      expect_bind_eq_ok succeeds
    obtain ⟨⟨element, ⟨final, _⟩⟩, readsElement, succeeds⟩ :=
      bind_eq_ok succeeds
    cases succeeds
    exact (typeExpr_consumes readsElement).behind [star] shape
      (.type <| .pointer · element) fun _ _ => .pointer isStar
  case h_4 =>
    obtain ⟨opening, inner, _, shape, opens, succeeds⟩ :=
      expect_bind_eq_ok succeeds
    dsimp only at succeeds
    split at succeeds
    case h_1 afterBracket _ eaten =>
      obtain ⟨⟨element, ⟨final, _⟩⟩, readsElement, succeeds⟩ :=
        bind_eq_ok succeeds
      cases succeeds
      obtain ⟨closing, shape', closes⟩ := eat?_eq_some eaten
      exact (typeExpr_consumes readsElement).behind [opening, closing]
        (by simp [shape, shape']) (.type <| .slice · element)
        fun _ _ => .slice opens closes
    case h_2 =>
      obtain ⟨⟨length, ⟨afterBracket, _⟩⟩, readsLength, succeeds⟩ :=
        bind_eq_ok succeeds
      obtain ⟨⟨element, ⟨final, _⟩⟩, readsElement, succeeds⟩ :=
        bind_eq_ok succeeds
      cases succeeds
      obtain ⟨lengthTokens, shape', isLength⟩ :=
        arrayLength_lengthTokens readsLength
      exact (typeExpr_consumes readsElement).behind
        (opening :: lengthTokens) (by simp [shape, shape'])
        (.type <| .array · length element)
        fun _ _ => .array opens isLength
  case h_5 =>
    obtain ⟨word, _, _, shape, isMap, succeeds⟩ :=
      expect_bind_eq_ok succeeds
    obtain ⟨opening, inner, _, shape', opens, succeeds⟩ :=
      expect_bind_eq_ok succeeds
    obtain ⟨⟨key, ⟨closed, _⟩⟩, readsKey, succeeds⟩ :=
      bind_eq_ok succeeds
    obtain ⟨closing, afterBracket, _, shapeClosing, closes, succeeds⟩ :=
      expect_bind_eq_ok succeeds
    obtain ⟨⟨value, ⟨final, _⟩⟩, readsValue, succeeds⟩ :=
      bind_eq_ok succeeds
    cases succeeds
    obtain ⟨keyTokens, shapeKey, reads⟩ := typeExpr_consumes readsKey
    exact (typeExpr_consumes readsValue).behind
      (word :: opening :: (keyTokens ++ [closing]))
      (by simp [shape, shape', shapeKey, shapeClosing])
      (.type <| .map · key value) fun _ _ reads' => by
        simpa using Reads.map isMap opens reads closes reads'
  case h_6 =>
    obtain ⟨word, afterWord, _, shape, isChan, succeeds⟩ :=
      expect_bind_eq_ok succeeds
    obtain ⟨sends, arrows, inner, _, shape', eaten, skipped⟩ :=
      eat_skipped (.symbol .arrow) (by simp) afterWord
    dsimp only at succeeds
    rw [eaten] at succeeds
    obtain ⟨⟨element, ⟨final, _⟩⟩, readsElement, succeeds⟩ :=
      bind_eq_ok succeeds
    cases succeeds
    -- A channel of both directions is one whose element does not start with an arrow.
    refine (typeExpr_consumes readsElement).behind (word :: arrows)
      (by simp [shape, shape'])
      (.type <| .channel · (if sends then .send else .both) element)
      fun used sameKind reads => ?_
    rcases skipped with ⟨rfl, arrow, rfl, isArrow⟩ | ⟨rfl, rfl, noArrow⟩
    · exact .sending isChan isArrow reads
    · exact .channel isChan (sameKind ▸ noArrow) reads
  case h_7 =>
    obtain ⟨arrow, _, _, shape, isArrow, succeeds⟩ :=
      expect_bind_eq_ok succeeds
    obtain ⟨word, inner, _, shape', isChan, succeeds⟩ :=
      expect_bind_eq_ok succeeds
    obtain ⟨⟨element, ⟨final, _⟩⟩, readsElement, succeeds⟩ :=
      bind_eq_ok succeeds
    cases succeeds
    exact (typeExpr_consumes readsElement).behind [arrow, word]
      (by simp [shape, shape']) (.type <| .channel · .receive element)
      fun _ _ => .receiving isArrow isChan
  case h_8 =>
    obtain ⟨word, inner, _, shape, isFunc, succeeds⟩ :=
      expect_bind_eq_ok succeeds
    obtain ⟨⟨function, ⟨final, _⟩⟩, readsFunction, succeeds⟩ :=
      bind_eq_ok succeeds
    cases succeeds
    exact (functionExpr_consumes readsFunction).behind [word] shape
      (.type <| .function · function) fun _ _ => .functionType isFunc
  case h_9 =>
    obtain ⟨word, _, _, shape, isStruct, succeeds⟩ :=
      expect_bind_eq_ok succeeds
    obtain ⟨opening, inner, _, shape', opens, succeeds⟩ :=
      expect_bind_eq_ok succeeds
    obtain ⟨⟨lists, ⟨final, _⟩⟩, readsFields, succeeds⟩ :=
      bind_eq_ok succeeds
    cases succeeds
    exact consumes_braced readsFields
      (fun _ _ _ _ => fieldExprs_consumes)
      [word, opening] (by simp [shape, shape'])
      (.type <| .record · lists.flatten)
      fun _ _ same enclosed reads =>
        same ▸ .record isStruct opens enclosed reads
  case h_10 =>
    obtain ⟨word, _, _, shape, isInterface, succeeds⟩ :=
      expect_bind_eq_ok succeeds
    obtain ⟨opening, inner, _, shape', opens, succeeds⟩ :=
      expect_bind_eq_ok succeeds
    obtain ⟨⟨members, ⟨final, _⟩⟩, readsMembers, succeeds⟩ :=
      bind_eq_ok succeeds
    cases succeeds
    exact consumes_braced readsMembers
      (fun _ _ _ _ => memberExpr_consumes)
      [word, opening] (by simp [shape, shape'])
      (.type <| .interface · members)
      fun _ _ same enclosed reads =>
        same ▸ .interface isInterface opens enclosed reads
  case h_11 => cases succeeds
  termination_by 8 * tokens.length + 1
  decreasing_by all_goals omega

theorem typeName_consumes
    {source : List Char} {tokens : List Token} {type : TypeExpr}
    {last : Identifier} {rest : Shorter tokens}
    (succeeds : typeName source tokens = .ok ((type, last), rest)) :
    Consumes source tokens rest.1 (.name type last) := by
  rw [typeName] at succeeds
  obtain ⟨name, afterFirst, _, shape, isName, succeeds⟩ :=
    identifier_bind_eq_ok succeeds
  dsimp only at succeeds
  split at succeeds
  case h_1 afterDot _ eaten =>
    obtain ⟨token, afterName, _, shape', isToken, succeeds⟩ :=
      identifier_bind_eq_ok succeeds
    obtain ⟨⟨arguments, ⟨final, _⟩⟩, readsArguments, succeeds⟩ :=
      bind_eq_ok succeeds
    cases succeeds
    obtain ⟨dot, shapeDot, isDot⟩ := eat?_eq_some eaten
    obtain ⟨used, shapeUsed, reads⟩ :=
      typeArguments_consumes readsArguments isToken
    dsimp only at shapeDot shapeUsed
    exact consumes_spanned
      (fun span => .name
        (.name span (some (identifierOf name)) (identifierOf token)
          arguments) (identifierOf token))
      (by simp [shape, shapeDot, shape', shapeUsed] :
        tokens = (name :: dot :: token :: used) ++ final)
      (.qualifiedName isName isDot reads)
  case h_2 =>
    obtain ⟨⟨arguments, ⟨final, _⟩⟩, readsArguments, succeeds⟩ :=
      bind_eq_ok succeeds
    cases succeeds
    obtain ⟨used, shape', reads⟩ :=
      typeArguments_consumes readsArguments isName
    exact consumes_spanned
      (fun span => .name
        (.name span none (identifierOf name) arguments)
        (identifierOf name))
      (by simp [shape, shape'] : tokens = (name :: used) ++ final) reads
  termination_by 8 * tokens.length
  decreasing_by all_goals omega

/-- A name and the type arguments after it form the name of a type. -/
theorem typeArguments_consumes
    {source : List Char} {tokens : List Token}
    {arguments : List TypeExpr} {rest : Remainder tokens}
    (succeeds : typeArguments source tokens = .ok (arguments, rest))
    {name : Token} (isName : name.kind = .identifier) :
    ∃ used, tokens = used ++ rest.1 ∧
      Reads source (name :: used)
        (.name
          (.name (spanTo (name :: used) []) none (identifierOf name)
            arguments)
          (identifierOf name)) := by
  rw [typeArguments] at succeeds
  split at succeeds
  case h_1 inner _ eaten =>
    split at succeeds
    case isTrue isClosed =>
      cases succeeds
      exact ⟨[], rfl, .plainName isName⟩
    case isFalse =>
      obtain ⟨⟨types, ⟨closed, _⟩⟩, readsTypes, succeeds⟩ :=
        bind_eq_ok succeeds
      obtain ⟨closing, final, _, shape'', closes, succeeds⟩ :=
        expect_bind_eq_ok succeeds
      cases succeeds
      obtain ⟨opening, shape, opens⟩ := eat?_eq_some eaten
      obtain ⟨used, parts, shape', rfl, separated, reads⟩ :=
        typeList_consumes readsTypes
      exact ⟨opening :: (used ++ [closing]),
        by simp [shape, shape', shape''],
        .genericName isName opens separated reads closes⟩
  case h_2 =>
    cases succeeds
    exact ⟨[], rfl, .plainName isName⟩
  termination_by 8 * tokens.length + 3
  decreasing_by all_goals omega

theorem typeList_consumes
    {source : List Char} {tokens : List Token} {types : List TypeExpr}
    {rest : Shorter tokens}
    (succeeds : typeList source tokens = .ok (types, rest)) :
    ConsumesList (.symbol .comma) true .type source tokens rest.1
      types := by
  rw [typeList] at succeeds
  obtain ⟨⟨first, ⟨afterFirst, _⟩⟩, readsFirst, succeeds⟩ :=
    bind_eq_ok succeeds
  have consumes := typeExpr_consumes readsFirst
  dsimp only at succeeds consumes
  split at succeeds
  case h_1 =>
    cases succeeds
    exact consumes.list_one
  case h_2 afterComma _ eaten =>
    obtain ⟨comma, shape, isComma⟩ := eat?_eq_some eaten
    rw [shape] at consumes
    split at succeeds
    case isTrue =>
      cases succeeds
      exact consumes.list_trailing isComma
    case isFalse =>
      obtain ⟨⟨others, ⟨final, _⟩⟩, readsOthers, succeeds⟩ :=
        bind_eq_ok succeeds
      cases succeeds
      exact consumes.list_cons isComma (typeList_consumes readsOthers)
  termination_by 8 * tokens.length + 2
  decreasing_by all_goals omega

theorem functionExpr_consumes
    {source : List Char} {tokens : List Token}
    {function : FunctionExpr} {rest : Shorter tokens}
    (succeeds : functionExpr source tokens = .ok (function, rest)) :
    Consumes source tokens rest.1 (.function function) := by
  rw [functionExpr] at succeeds
  obtain ⟨⟨⟨parameters, variadic⟩, ⟨afterParameters, _⟩⟩,
    readsParameters, succeeds⟩ := bind_eq_ok succeeds
  obtain ⟨used, shape, reads⟩ := parameterList_consumes readsParameters
  dsimp only at succeeds shape
  split at succeeds
  case isTrue =>
    obtain ⟨⟨⟨results, spread⟩, ⟨final, _⟩⟩, readsResults, succeeds⟩ :=
      bind_eq_ok succeeds
    cases succeeds
    exact (parameterList_consumes readsResults).behind used shape
      (fun _ => .function _) fun _ _ => .results reads
  case isFalse noParens =>
    split at succeeds
    case isTrue =>
      obtain ⟨⟨result, ⟨final, _⟩⟩, readsResult, succeeds⟩ :=
        bind_eq_ok succeeds
      cases succeeds
      exact (typeExpr_consumes readsResult).behind used shape
        (fun _ => .function _)
        fun _ sameKind => .oneResult reads (sameKind ▸ noParens)
    case isFalse =>
      cases succeeds
      exact ⟨used, shape, .procedure reads⟩
  termination_by 8 * tokens.length + 4
  decreasing_by all_goals omega

theorem parameterList_consumes
    {source : List Char} {tokens : List Token} {allowed variadic : Bool}
    {list : List ParameterExpr} {rest : Shorter tokens}
    (succeeds :
      parameterList allowed source tokens = .ok ((list, variadic), rest)) :
    Consumes source tokens rest.1 (.parameters allowed list variadic) := by
  rw [parameterList] at succeeds
  obtain ⟨opening, inner, _, shape, opens, succeeds⟩ :=
    expect_bind_eq_ok succeeds
  obtain ⟨⟨entries, ⟨closed, _⟩⟩, readsEntries, succeeds⟩ :=
    bind_eq_ok succeeds
  obtain ⟨closing, final, _, shape', closes, succeeds⟩ :=
    expect_bind_eq_ok succeeds
  obtain ⟨⟨parameters, isVariadic⟩, resolved, succeeds⟩ :=
    bind_eq_ok succeeds
  cases succeeds
  have ends : kind closed = .symbol .rightParen := by
    rw [shape', kind_cons, closes]
  rcases parameterEntries_consumes readsEntries ends with
    ⟨rfl, shape''⟩ | ⟨used, parts, shape'', rfl, separated, reads⟩
  · cases resolved
    exact ⟨[opening, closing], by simp [shape, shape', shape''],
      .noParameters opens closes⟩
  · exact ⟨opening :: (used ++ [closing]),
      by simp [shape, shape', shape''],
      .parameters opens separated reads closes resolved⟩
  termination_by 8 * tokens.length
  decreasing_by all_goals omega

theorem parameterEntries_consumes
    {source : List Char} {tokens : List Token}
    {entries : List ParameterEntry} {rest : Remainder tokens}
    (succeeds : parameterEntries source tokens = .ok (entries, rest))
    (ends : kind rest.1 = .symbol .rightParen) :
    (entries = [] ∧ tokens = rest.1) ∨
      ConsumesList (.symbol .comma) true .entry source tokens rest.1
        entries := by
  rw [parameterEntries] at succeeds
  split at succeeds
  case isTrue =>
    cases succeeds
    exact .inl ⟨rfl, rfl⟩
  case isFalse =>
    right
    obtain ⟨⟨first, ⟨afterFirst, _⟩⟩, readsFirst, succeeds⟩ :=
      bind_eq_ok succeeds
    dsimp only at succeeds
    split at succeeds
    case h_1 =>
      cases succeeds
      exact (parameterEntry_consumes readsFirst (.inr ends)).list_one
    case h_2 afterComma _ eaten =>
      obtain ⟨⟨others, ⟨final, _⟩⟩, readsOthers, succeeds⟩ :=
        bind_eq_ok succeeds
      cases succeeds
      obtain ⟨comma, shape, isComma⟩ := eat?_eq_some eaten
      dsimp only at shape
      have consumes :=
        parameterEntry_consumes readsFirst (.inl (by simp [shape, isComma]))
      dsimp only at consumes
      rw [shape] at consumes
      rcases parameterEntries_consumes readsOthers ends with
        ⟨rfl, rfl⟩ | others
      · exact consumes.list_trailing isComma
      · exact consumes.list_cons isComma others
  termination_by 8 * tokens.length + 3
  decreasing_by all_goals omega

theorem parameterEntry_consumes
    {source : List Char} {tokens : List Token} {entry : ParameterEntry}
    {rest : Shorter tokens}
    (succeeds : parameterEntry source tokens = .ok (entry, rest))
    (ends : EndsEntry rest.1) :
    Consumes source tokens rest.1 (.entry entry) := by
  rw [parameterEntry] at succeeds
  split at succeeds
  case h_1 inner _ eaten =>
    obtain ⟨⟨type, ⟨final, _⟩⟩, readsType, succeeds⟩ :=
      bind_eq_ok succeeds
    cases succeeds
    obtain ⟨dots, shape, areDots⟩ := eat?_eq_some eaten
    exact (typeExpr_consumes readsType).behind [dots] shape
      (fun _ => .entry _) fun _ _ => .spreadEntry areDots
  case h_2 =>
    split at succeeds
    case isTrue notName =>
      obtain ⟨⟨type, later⟩, readsType, succeeds⟩ := bind_eq_ok succeeds
      cases succeeds
      obtain ⟨used, shape, reads⟩ := typeExpr_consumes readsType
      refine ⟨used, shape, .unnamedEntry ?_ reads⟩
      intro single
      obtain ⟨token, rfl⟩ := List.length_eq_one_iff.mp single
      exact notName (shape ▸ reads.kind_of_singleton)
    case isFalse =>
      split at succeeds
      case h_1 =>
        obtain ⟨name, final, _, shape, isName, succeeds⟩ :=
          identifier_bind_eq_ok succeeds
        cases succeeds
        exact ⟨[name], shape, .bareEntry isName⟩
      case h_2 form =>
        obtain ⟨⟨type, later⟩, readsType, succeeds⟩ := bind_eq_ok succeeds
        cases succeeds
        obtain ⟨used, shape, reads⟩ := typeExpr_consumes readsType
        exact ⟨used, shape,
          .unnamedEntry (length_ne_one_of_entryForm shape form ends)
            reads⟩
      case h_3 =>
        obtain ⟨name, afterName, _, shape, isName, succeeds⟩ :=
          identifier_bind_eq_ok succeeds
        obtain ⟨⟨type, ⟨final, _⟩⟩, readsType, succeeds⟩ :=
          bind_eq_ok succeeds
        cases succeeds
        exact (typeExpr_consumes readsType).behind [name] shape
          (fun _ => .entry _) fun _ _ => .namedEntry isName
      case h_4 =>
        obtain ⟨name, _, _, shape, isName, succeeds⟩ :=
          identifier_bind_eq_ok succeeds
        obtain ⟨dots, inner, _, shape', areDots, succeeds⟩ :=
          expect_bind_eq_ok succeeds
        obtain ⟨⟨type, ⟨final, _⟩⟩, readsType, succeeds⟩ :=
          bind_eq_ok succeeds
        cases succeeds
        exact (typeExpr_consumes readsType).behind [name, dots]
          (by simp [shape, shape']) (fun _ => .entry _)
          fun _ _ => .namedSpreadEntry isName areDots
  termination_by 8 * tokens.length + 2
  decreasing_by all_goals omega

theorem fieldExprs_consumes
    {source : List Char} {tokens : List Token} {fields : List FieldExpr}
    {rest : Shorter tokens}
    (succeeds : fieldExprs source tokens = .ok (fields, rest)) :
    Consumes source tokens rest.1 (.fields fields) := by
  rw [fieldExprs] at succeeds
  split at succeeds
  case h_1 => cases succeeds
  case h_2 =>
    obtain ⟨isPointer, stars, named, _, shape, eaten, skipped⟩ :=
      eat_skipped (.symbol .star) (by simp) tokens
    rw [eaten] at succeeds
    obtain ⟨⟨⟨base, name⟩, ⟨afterType, _⟩⟩, readsName, succeeds⟩ :=
      bind_eq_ok succeeds
    obtain ⟨⟨text, ⟨final, _⟩⟩, readsTag, succeeds⟩ :=
      bind_eq_ok succeeds
    cases succeeds
    obtain ⟨used, shape', reads⟩ := typeName_consumes readsName
    obtain ⟨tagTokens, shapeTag, tagged⟩ := tag_tagged readsTag
    dsimp only at shape' shapeTag
    rcases skipped with ⟨rfl, star, rfl, isStar⟩ | ⟨rfl, rfl, -⟩
    · have span :
          spanTo tokens afterType = spanTo (star :: used) [] :=
        spanTo_of_append
          (by simp [shape, shape'] :
            tokens = (star :: used) ++ afterType)
          (by simp)
      refine ⟨star :: (used ++ tagTokens),
        by simp [shape, shape', shapeTag], ?_⟩
      simpa [span] using Reads.embeddedPointer isStar reads tagged
    · exact ⟨used ++ tagTokens, by simp [shape, shape', shapeTag],
        .embeddedField reads tagged⟩
  case h_3 =>
    obtain ⟨⟨names, ⟨afterNames, _⟩⟩, readsNames, succeeds⟩ :=
      bind_eq_ok succeeds
    obtain ⟨⟨type, ⟨afterType, _⟩⟩, readsType, succeeds⟩ :=
      bind_eq_ok succeeds
    obtain ⟨⟨text, ⟨final, _⟩⟩, readsTag, succeeds⟩ :=
      bind_eq_ok succeeds
    cases succeeds
    obtain ⟨nameTokens, shape, areNames⟩ := identifiers_names readsNames
    obtain ⟨used, shape', reads⟩ := typeExpr_consumes readsType
    obtain ⟨tagTokens, shape'', tagged⟩ := tag_tagged readsTag
    dsimp only at shape shape' shape''
    exact ⟨nameTokens ++ (used ++ tagTokens),
      by simp [shape, shape', shape''],
      .namedFields areNames reads tagged⟩
  termination_by 8 * tokens.length + 2
  decreasing_by all_goals omega

theorem memberExpr_consumes
    {source : List Char} {tokens : List Token} {member : MemberExpr}
    {rest : Shorter tokens}
    (succeeds : memberExpr source tokens = .ok (member, rest)) :
    Consumes source tokens rest.1 (.member member) := by
  rw [memberExpr] at succeeds
  split at succeeds
  case isTrue =>
    obtain ⟨name, afterName, _, shape, isName, succeeds⟩ :=
      identifier_bind_eq_ok succeeds
    obtain ⟨⟨type, ⟨final, _⟩⟩, readsType, succeeds⟩ :=
      bind_eq_ok succeeds
    cases succeeds
    exact (functionExpr_consumes readsType).behind [name] shape
      (fun _ => .member _) fun _ _ => .method isName
  case isFalse =>
    obtain ⟨⟨type, later⟩, readsType, succeeds⟩ := bind_eq_ok succeeds
    cases succeeds
    obtain ⟨used, shape, reads⟩ := constraintExpr_consumes readsType
    exact ⟨used, shape, .embed reads⟩
  termination_by 8 * tokens.length + 4
  decreasing_by all_goals omega

theorem constraintExpr_consumes
    {source : List Char} {tokens : List Token} {type : TypeExpr}
    {rest : Shorter tokens}
    (succeeds : constraintExpr source tokens = .ok (type, rest)) :
    Consumes source tokens rest.1 (.constraint type) := by
  rw [constraintExpr] at succeeds
  obtain ⟨⟨terms, ⟨final, _⟩⟩, readsTerms, succeeds⟩ :=
    bind_eq_ok succeeds
  obtain ⟨used, parts, shape, rfl, separated, reads⟩ :=
    termExprs_consumes readsTerms
  dsimp only at succeeds
  split at succeeds
  case h_1 single isSingle =>
    cases succeeds
    obtain ⟨⟨piece, term⟩, rfl, rfl⟩ := List.map_eq_singleton_iff.mp isSingle
    cases separated with
    | last =>
        have readsTerm := reads _ (List.mem_singleton.mpr rfl)
        cases readsTerm with
        | plainTerm reads => exact ⟨_, shape, .single reads⟩
    | trailing allowed => cases allowed
    | cons _ later => cases later
  case h_2 terms proper =>
    cases succeeds
    exact consumes_spanned
      (fun span => .constraint (.union span (parts.map (·.2))))
      shape (.union separated reads proper)
  termination_by 8 * tokens.length + 3
  decreasing_by all_goals omega

theorem termExprs_consumes
    {source : List Char} {tokens : List Token} {terms : List TermExpr}
    {rest : Shorter tokens}
    (succeeds : termExprs source tokens = .ok (terms, rest)) :
    ConsumesList (.symbol .pipe) false .term source tokens rest.1
      terms := by
  rw [termExprs] at succeeds
  obtain ⟨approximate, tildes, inner, _, shape, eaten, skipped⟩ :=
    eat_skipped (.symbol .tilde) (by simp) tokens
  rw [eaten] at succeeds
  obtain ⟨⟨type, ⟨afterType, _⟩⟩, readsType, succeeds⟩ :=
    bind_eq_ok succeeds
  have consumes :
      Consumes source tokens afterType (.term ⟨approximate, type⟩) := by
    refine (typeExpr_consumes readsType).behind tildes shape
      (fun _ => .term _) fun used _ reads => ?_
    rcases skipped with ⟨rfl, tilde, rfl, isTilde⟩ | ⟨rfl, rfl, -⟩
    · exact .tildeTerm isTilde reads
    · exact .plainTerm reads
  dsimp only at succeeds
  split at succeeds
  case h_1 =>
    cases succeeds
    exact consumes.list_one
  case h_2 afterPipe _ eaten' =>
    obtain ⟨⟨others, ⟨final, _⟩⟩, readsOthers, succeeds⟩ :=
      bind_eq_ok succeeds
    cases succeeds
    obtain ⟨pipe, shape', isPipe⟩ := eat?_eq_some eaten'
    rw [shape'] at consumes
    exact consumes.list_cons isPipe (termExprs_consumes readsOthers)
  termination_by 8 * tokens.length + 2
  decreasing_by all_goals omega

end

end GoUnion.Reader
