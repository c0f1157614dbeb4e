import GoUnion.Proofs.Grammar
import GoUnion.SourceFile.Reader

/-!
# What the basic readers consume

A reader that succeeds leaves the end of its tokens, so the tokens before it
are the ones it has used.  The statements here name these tokens for the
readers that the grammar is made of: single tokens, lists of identifiers, tags,
enclosed items and the brackets of arrays.
-/

namespace GoUnion.Reader

/-- A chain of readers succeeds only if its first one does. -/
theorem bind_eq_ok {ε α β : Type}
    {first : Except ε α} {next : α → Except ε β} {result : β}
    (succeeds : first >>= next = .ok result) :
    ∃ value, first = .ok value ∧ next value = .ok result := by
  cases first with
  | error fault => cases succeeds
  | ok value => exact ⟨value, rfl, succeeds⟩

theorem ok_bind {ε α β : Type} (value : α) (next : α → Except ε β) :
    (Except.ok value >>= next) = next value := rfl

/-! ## Remainders -/

section Remainders

variable {inner tokens tail : List Token}

@[simp]
theorem Remainder.all_val : (Remainder.all tokens).1 = tokens := rfl

@[simp]
theorem Remainder.behind_val (token : Token) (rest : Remainder tail) :
    (Remainder.behind token rest).1 = rest.1 := rfl

@[simp]
theorem Remainder.past_val (token : Token) (rest : Remainder tail) :
    (Remainder.past token rest).1 = rest.1 := rfl

@[simp]
theorem Remainder.within_val
    (rest : Remainder inner) (bound : inner.length ≤ tokens.length) :
    (rest.within bound).1 = rest.1 := rfl

@[simp]
theorem Remainder.after_val
    (rest : Remainder inner) (shorter : inner.length < tokens.length) :
    (rest.after shorter).1 = rest.1 := rfl

@[simp]
theorem Shorter.toRemainder_val (rest : Shorter tokens) :
    rest.toRemainder.1 = rest.1 := rfl

@[simp]
theorem Shorter.after_val
    (rest : Shorter inner) (shorter : inner.length < tokens.length) :
    (rest.after shorter).1 = rest.1 := rfl

end Remainders

/-! ## Single tokens -/

theorem take?_eq_some
    {wanted : TokenKind} {tokens : List Token} {token : Token}
    {rest : Shorter tokens}
    (taken : take? wanted tokens = some (token, rest)) :
    tokens = token :: rest.1 ∧ token.kind = wanted := by
  cases tokens with
  | nil => simp [take?] at taken
  | cons first tail =>
      simp only [take?] at taken
      split at taken
      case isTrue isWanted =>
        cases taken
        exact ⟨rfl, isWanted⟩
      case isFalse => cases taken

theorem expect_eq_ok
    {wanted : TokenKind} {tokens : List Token} {token : Token}
    {rest : Shorter tokens}
    (expected : expect wanted tokens = .ok (token, rest)) :
    tokens = token :: rest.1 ∧ token.kind = wanted := by
  simp only [expect] at expected
  split at expected
  case h_1 taken =>
    cases expected
    exact take?_eq_some taken
  case h_2 => cases expected

/-- A reader that starts with an expected token finds it in front, and goes on behind it. -/
theorem expect_bind_eq_ok
    {β : Type} {wanted : TokenKind} {tokens : List Token}
    {next : Token × Shorter tokens → Except SyntaxError β} {result : β}
    (succeeds : expect wanted tokens >>= next = .ok result) :
    ∃ token rest, ∃ below : rest.length < tokens.length,
      tokens = token :: rest ∧ token.kind = wanted ∧
        next (token, ⟨rest, below⟩) = .ok result := by
  obtain ⟨⟨token, ⟨rest, below⟩⟩, expected, continues⟩ :=
    bind_eq_ok succeeds
  obtain ⟨shape, isWanted⟩ := expect_eq_ok expected
  exact ⟨token, rest, below, shape, isWanted, continues⟩

theorem eat?_eq_some
    {wanted : TokenKind} {tokens : List Token} {rest : Shorter tokens}
    (eaten : eat? wanted tokens = some rest) :
    ∃ token, tokens = token :: rest.1 ∧ token.kind = wanted := by
  obtain ⟨⟨token, later⟩, taken, rfl⟩ := Option.map_eq_some_iff.mp eaten
  exact ⟨token, take?_eq_some taken⟩

@[simp]
theorem kind_cons (token : Token) (tokens : List Token) :
    kind (token :: tokens) = token.kind := rfl

theorem eat?_eq_none
    {wanted : TokenKind} {tokens : List Token}
    (notEnd : wanted ≠ .endOfFile)
    (refused : eat? wanted tokens = none) :
    kind tokens ≠ wanted := by
  cases tokens with
  | nil => exact notEnd.symm
  | cons token rest =>
      intro isWanted
      rw [kind_cons] at isWanted
      simp [eat?, take?, isWanted] at refused

/-- What a reader that skips a token of the wanted kind has in front of it: that token, or
nothing where another kind comes. -/
def Skipped
    (wanted : TokenKind) (found : Bool) (front rest : List Token) : Prop :=
  (found = true ∧ ∃ token, front = [token] ∧ token.kind = wanted) ∨
    (found = false ∧ front = [] ∧ kind rest ≠ wanted)

theorem eat_skipped
    (wanted : TokenKind) (notEnd : wanted ≠ .endOfFile)
    (tokens : List Token) :
    ∃ found front rest, ∃ below : rest.length ≤ tokens.length,
      tokens = front ++ rest ∧
        eat wanted tokens = (found, ⟨rest, below⟩) ∧
        Skipped wanted found front rest := by
  cases eaten : eat? wanted tokens with
  | some rest =>
      obtain ⟨token, shape, isWanted⟩ := eat?_eq_some eaten
      exact ⟨true, [token], rest.1, rest.toRemainder.2, shape,
        by simp [eat, eaten, Shorter.toRemainder],
        .inl ⟨rfl, token, rfl, isWanted⟩⟩
  | none =>
      exact ⟨false, [], tokens, Nat.le_refl _, rfl,
        by simp [eat, eaten, Remainder.all],
        .inr ⟨rfl, rfl, eat?_eq_none notEnd eaten⟩⟩

theorem identifier_eq_ok
    {tokens : List Token} {name : Identifier} {rest : Shorter tokens}
    (succeeds : identifier tokens = .ok (name, rest)) :
    ∃ token, tokens = token :: rest.1 ∧ token.kind = .identifier ∧
      name = identifierOf token := by
  obtain ⟨⟨token, later⟩, expected, result⟩ := bind_eq_ok succeeds
  cases result
  obtain ⟨shape, isName⟩ := expect_eq_ok expected
  exact ⟨token, shape, isName, rfl⟩

/-- A reader that starts with an identifier finds it in front, and goes on behind it. -/
theorem identifier_bind_eq_ok
    {β : Type} {tokens : List Token}
    {next : Identifier × Shorter tokens → Except SyntaxError β} {result : β}
    (succeeds : identifier tokens >>= next = .ok result) :
    ∃ token rest, ∃ below : rest.length < tokens.length,
      tokens = token :: rest ∧ token.kind = .identifier ∧
        next (identifierOf token, ⟨rest, below⟩) = .ok result := by
  obtain ⟨⟨name, ⟨rest, below⟩⟩, readsName, continues⟩ :=
    bind_eq_ok succeeds
  obtain ⟨token, shape, isName, rfl⟩ := identifier_eq_ok readsName
  exact ⟨token, rest, below, shape, isName, continues⟩

/-! ## Lists of identifiers -/

theorem moreIdentifiers_names
    {tokens : List Token} {names : List Identifier}
    {rest : Remainder tokens} {name : Token}
    (isName : name.kind = .identifier)
    (succeeds : moreIdentifiers tokens = .ok (names, rest)) :
    ∃ used, name :: tokens = used ++ rest.1 ∧
      Names used (identifierOf name :: names) := by
  rw [moreIdentifiers] at succeeds
  split at succeeds
  · cases succeeds
    exact ⟨[name], rfl, .one isName⟩
  case h_2 afterComma shorter eaten =>
    obtain ⟨⟨first, ⟨next, shorter'⟩⟩, readsFirst, succeeds⟩ :=
      bind_eq_ok succeeds
    obtain ⟨⟨others, later⟩, readsOthers, succeeds⟩ := bind_eq_ok succeeds
    cases succeeds
    obtain ⟨comma, shape, isComma⟩ := eat?_eq_some eaten
    obtain ⟨second, shape', isSecond, rfl⟩ := identifier_eq_ok readsFirst
    dsimp only at shape shape'
    obtain ⟨used, shape'', later⟩ :=
      moreIdentifiers_names isSecond readsOthers
    refine ⟨name :: comma :: used, ?_, .more isName isComma later⟩
    exact congrArg (name :: ·)
      (shape.trans (congrArg (comma :: ·) (shape'.trans shape'')))
  termination_by tokens.length

theorem identifiers_names
    {tokens : List Token} {names : List Identifier}
    {rest : Shorter tokens}
    (succeeds : identifiers tokens = .ok (names, rest)) :
    ∃ used, tokens = used ++ rest.1 ∧ Names used names := by
  obtain ⟨⟨first, ⟨next, shorter⟩⟩, readsFirst, succeeds⟩ :=
    bind_eq_ok succeeds
  obtain ⟨⟨others, later⟩, readsOthers, succeeds⟩ := bind_eq_ok succeeds
  cases succeeds
  obtain ⟨token, shape, isName, rfl⟩ := identifier_eq_ok readsFirst
  obtain ⟨used, shape', names⟩ := moreIdentifiers_names isName readsOthers
  exact ⟨used, shape.trans shape', names⟩

/-! ## Tags -/

theorem tag_tagged
    {tokens : List Token} {value : Option String}
    {rest : Remainder tokens}
    (succeeds : tag tokens = .ok (value, rest)) :
    ∃ used, tokens = used ++ rest.1 ∧ Tagged used value := by
  simp only [tag] at succeeds
  split at succeeds
  · cases succeeds
    exact ⟨[], rfl, .absent⟩
  case h_2 token later taken =>
    split at succeeds
    case h_2 => cases succeeds
    case h_1 text isText =>
      cases succeeds
      have literal :
          tokens = token :: later.1 ∧
            (token.kind = .string ∨ token.kind = .rawString) := by
        cases interpreted : take? .string tokens with
        | some found =>
            rw [interpreted, Option.some_or] at taken
            cases taken
            obtain ⟨shape, isString⟩ := take?_eq_some interpreted
            exact ⟨shape, .inl isString⟩
        | none =>
            rw [interpreted, Option.none_or] at taken
            obtain ⟨shape, isRaw⟩ := take?_eq_some taken
            exact ⟨shape, .inr isRaw⟩
      exact ⟨[token], literal.1, .present literal.2 isText⟩

/-! ## Enclosed items -/

theorem skipSemicolons_semicolons (tokens : List Token) :
    ∃ semicolons, tokens = semicolons ++ (skipSemicolons tokens).1 ∧
      Semicolons semicolons := by
  induction tokens with
  | nil => exact ⟨[], rfl, by simp [Semicolons]⟩
  | cons token rest ih =>
      simp only [skipSemicolons]
      split
      case isTrue isSemicolon =>
        obtain ⟨semicolons, shape, areSemicolons⟩ := ih
        refine ⟨token :: semicolons, congrArg (token :: ·) shape, ?_⟩
        exact List.forall_mem_cons.mpr ⟨isSemicolon, areSemicolons⟩
      case isFalse => exact ⟨[], rfl, by simp [Semicolons]⟩

theorem terminator_eq_ok
    {closing : TokenKind} {tokens : List Token} {rest : Remainder tokens}
    (succeeds : terminator closing tokens = .ok rest) :
    (∃ mark, tokens = mark :: rest.1 ∧ mark.kind = .symbol .semicolon) ∨
      (tokens = rest.1 ∧ kind tokens = closing) := by
  simp only [terminator] at succeeds
  split at succeeds
  case h_1 eaten =>
    cases succeeds
    exact .inl (eat?_eq_some eaten)
  case h_2 =>
    split at succeeds
    case isTrue isClosing =>
      cases succeeds
      exact .inr ⟨rfl, isClosing⟩
    case isFalse => cases succeeds

/-- Tokens whose next one has a kind other than that of the end have a next one. -/
theorem exists_cons_of_kind
    {tokens : List Token} {wanted : TokenKind}
    (notEnd : wanted ≠ .endOfFile)
    (isWanted : kind tokens = wanted) :
    ∃ token rest, tokens = token :: rest ∧ token.kind = wanted := by
  cases tokens with
  | nil => exact absurd isWanted notEnd.symm
  | cons token rest => exact ⟨token, rest, rfl, isWanted⟩

theorem skipSemicolons_of_kind
    {token : Token} (rest : List Token)
    (notSemicolon : token.kind ≠ .symbol .semicolon) :
    (skipSemicolons (token :: rest)).1 = token :: rest := by
  simp [skipSemicolons, notSemicolon, Remainder.all]

theorem eat?_cons
    {wanted : TokenKind} {token : Token} (rest : List Token)
    (isWanted : token.kind = wanted) :
    eat? wanted (token :: rest) = some ⟨rest, Nat.lt_succ_self _⟩ := by
  simp [eat?, take?, isWanted]

section Items

variable {α : Type} {closing : TokenKind} {bound : Nat}
variable {item :
  (tokens : List Token) → tokens.length ≤ bound → Read α tokens}

/-- At a closing token there are no more items. -/
theorem items_of_closing
    {mark : Token} {rest : List Token}
    (notSemicolon : closing ≠ .symbol .semicolon)
    (isClosing : mark.kind = closing)
    (within : (mark :: rest).length ≤ bound) :
    items closing bound item (mark :: rest) within =
      .ok ([], ⟨rest, Nat.lt_succ_self _⟩) := by
  rw [items]
  split
  case _ start below skipped =>
    have unmoved : start = mark :: rest := by
      rw [← skipSemicolons_of_kind rest (isClosing ▸ notSemicolon),
        skipped]
    subst unmoved
    rw [eat?_cons rest isClosing]

/-- What the reader of an item consumes determines what the reader of enclosed items consumes. -/
theorem items_enclosed
    (Piece : List Token → α → Prop)
    (notSemicolon : closing ≠ .symbol .semicolon)
    (notEnd : closing ≠ .endOfFile)
    (consumes :
      ∀ (tokens : List Token) (within : tokens.length ≤ bound)
        (value : α) (rest : Shorter tokens),
        item tokens within = .ok (value, rest) →
        kind rest.1 = .symbol .semicolon ∨ kind rest.1 = closing →
          ∃ used, tokens = used ++ rest.1 ∧ Piece used value)
    {tokens : List Token} {within : tokens.length ≤ bound}
    {values : List α} {rest : Shorter tokens}
    (succeeds :
      items closing bound item tokens within = .ok (values, rest)) :
    ∃ (used : List Token) (parts : List (List Token × α)),
      tokens = used ++ rest.1 ∧ parts.map (·.2) = values ∧
        Enclosed closing (parts.map (·.1)) used ∧
        ∀ part ∈ parts, Piece part.1 part.2 := by
  obtain ⟨semicolons, shape, leading⟩ := skipSemicolons_semicolons tokens
  rw [items] at succeeds
  split at succeeds
  case _ start below skipped =>
    rw [skipped] at shape
    dsimp only at shape
    split at succeeds
    case h_1 final shorter eaten =>
      cases succeeds
      obtain ⟨mark, shape', isClosing⟩ := eat?_eq_some eaten
      refine ⟨semicolons ++ [mark], [], ?_, rfl,
        .close leading isClosing, by simp⟩
      simpa [shape'] using shape
    case h_2 refused =>
      obtain ⟨⟨first, ⟨afterItem, byItem⟩⟩, readsItem, succeeds⟩ :=
        bind_eq_ok succeeds
      obtain ⟨⟨next, byTerminator⟩, ends, succeeds⟩ :=
        bind_eq_ok succeeds
      obtain ⟨⟨others, ⟨final, byOthers⟩⟩, readsOthers, succeeds⟩ :=
        bind_eq_ok succeeds
      cases succeeds
      have follows :
          kind afterItem = .symbol .semicolon ∨ kind afterItem = closing := by
        rcases terminator_eq_ok ends with ⟨mark, shape, isMark⟩ | ⟨-, same⟩
        · left
          simpa using congrArg kind shape |>.trans isMark
        · exact .inr same
      obtain ⟨piece, shapeItem, readsPiece⟩ :=
        consumes _ _ _ _ readsItem follows
      rcases terminator_eq_ok ends with
        ⟨mark, shapeMark, isMark⟩ | ⟨shapeNext, isClosing⟩
      · obtain ⟨used, parts, shapeRest, rfl, enclosed, pieces⟩ :=
          items_enclosed Piece notSemicolon notEnd consumes readsOthers
        refine ⟨semicolons ++ (piece ++ mark :: used),
          (piece, first) :: parts, ?_, rfl,
          .cons leading isMark enclosed,
          List.forall_mem_cons.mpr ⟨readsPiece, pieces⟩⟩
        dsimp only at shapeItem shapeMark shapeRest ⊢
        rw [shape, shapeItem, shapeMark, shapeRest]
        simp
      · dsimp only at shapeItem shapeNext
        subst shapeNext
        obtain ⟨mark, tail, rfl, isMark⟩ :=
          exists_cons_of_kind notEnd isClosing
        rw [items_of_closing notSemicolon isMark] at readsOthers
        cases readsOthers
        refine ⟨semicolons ++ (piece ++ [mark]), [(piece, first)], ?_,
          rfl, .last leading isMark, by simpa using readsPiece⟩
        dsimp only
        rw [shape, shapeItem]
        simp
  termination_by tokens.length

end Items

/-! ## Arrays -/

theorem closeGroup?_cons (depth : Nat) (token : Token) (rest : List Token) :
    closeGroup? depth (token :: rest) =
      if depth = 0 ∧ closes token = true then some ([], token :: rest)
      else (depthAfter depth token).bind fun depth =>
        (closeGroup? depth rest).map fun (inside, after) =>
          (token :: inside, after) := by
  obtain ⟨tokenKind, text, span⟩ := token
  cases tokenKind with
  | symbol mark =>
      cases mark <;> cases depth <;>
        simp [closeGroup?, depthAfter, closes, Symbol.opens, Symbol.closes]
  | _ => simp [closeGroup?, depthAfter, closes]

theorem nesting_cons (depth : Nat) (token : Token) (rest : List Token) :
    nesting depth (token :: rest) =
      (depthAfter depth token).bind (nesting · rest) := rfl

/-- A closed group holds balanced tokens and ends at a closing token. -/
theorem closeGroup?_eq_some
    {depth : Nat} {tokens inside after : List Token}
    (closed : closeGroup? depth tokens = some (inside, after)) :
    tokens = inside ++ after ∧ nesting depth inside = some 0 ∧
      ∃ closing rest, after = closing :: rest ∧ closes closing = true := by
  induction tokens generalizing depth inside with
  | nil => simp [closeGroup?] at closed
  | cons token rest ih =>
      rw [closeGroup?_cons] at closed
      split at closed
      case isTrue ends =>
        cases closed
        exact ⟨rfl, congrArg some ends.1, token, rest, rfl, ends.2⟩
      case isFalse =>
        obtain ⟨next, step, closed⟩ := Option.bind_eq_some_iff.mp closed
        obtain ⟨⟨inner, later⟩, closedLater, result⟩ :=
          Option.map_eq_some_iff.mp closed
        cases result
        obtain ⟨shape, balanced, ending⟩ := ih closedLater
        refine ⟨congrArg (token :: ·) shape, ?_, ending⟩
        rw [nesting_cons, step]
        exact balanced

/-- Balanced tokens before a closing token are a closed group. -/
theorem closeGroup?_append
    {depth : Nat} {inside : List Token} {closing : Token}
    (balanced : nesting depth inside = some 0)
    (isClosing : closes closing = true) (rest : List Token) :
    closeGroup? depth (inside ++ closing :: rest) =
      some (inside, closing :: rest) := by
  induction inside generalizing depth with
  | nil =>
      obtain rfl : depth = 0 := Option.some.inj balanced
      rw [List.nil_append, closeGroup?_cons, if_pos ⟨rfl, isClosing⟩]
  | cons token inside ih =>
      rw [nesting_cons] at balanced
      obtain ⟨next, step, balanced⟩ :=
        Option.bind_eq_some_iff.mp balanced
      rw [List.cons_append, closeGroup?_cons, step, if_neg]
      · simp [ih balanced]
      · rintro ⟨rfl, closesGroup⟩
        simp only [closes] at closesGroup
        split at closesGroup
        case h_1 mark isSymbol =>
          cases mark <;>
            simp [depthAfter, isSymbol, Symbol.opens, Symbol.closes]
              at step closesGroup
        case h_2 => cases closesGroup

theorem ellipsis?_eq_some
    {tokens : List Token} {rest : Shorter tokens}
    (found : ellipsis? tokens = some rest) :
    ∃ dots closing, tokens = dots :: closing :: rest.1 ∧
      dots.kind = .symbol .ellipsis ∧
      closing.kind = .symbol .rightBracket := by
  simp only [ellipsis?] at found
  split at found
  case h_1 => cases found
  case h_2 afterDots shorter eaten =>
    obtain ⟨dots, shape, areDots⟩ := eat?_eq_some eaten
    obtain ⟨final, eaten', rfl⟩ := Option.map_eq_some_iff.mp found
    obtain ⟨closing, shape', isClosing⟩ := eat?_eq_some eaten'
    exact ⟨dots, closing, shape.trans (congrArg (dots :: ·) shape'),
      areDots, isClosing⟩

theorem group?_eq_some
    {tokens inside : List Token} {rest : Shorter tokens}
    (found : group? tokens = some (inside, rest)) :
    ∃ closing, tokens = inside ++ closing :: rest.1 ∧
      nesting 0 inside = some 0 ∧ closes closing = true := by
  simp only [group?] at found
  split at found
  case h_1 inner token later closed =>
    cases found
    obtain ⟨shape, balanced, closing, final, same, isClosing⟩ :=
      closeGroup?_eq_some closed
    cases same
    exact ⟨token, shape, balanced, isClosing⟩
  case h_2 => cases found

/-- Whether an ellipsis and a bracket come next depends on two tokens only. -/
theorem ellipsis?_append
    {front : List Token} (rest : List Token)
    (two : 2 ≤ front.length) :
    (ellipsis? (front ++ rest) = none) ↔ (ellipsis? front = none) := by
  obtain ⟨first, second, tail, rfl⟩ :
      ∃ first second tail, front = first :: second :: tail := by
    match front, two with
    | first :: second :: tail, _ => exact ⟨first, second, tail, rfl⟩
  by_cases areDots : first.kind = .symbol .ellipsis
  · by_cases isBracket : second.kind = .symbol .rightBracket <;>
      simp [ellipsis?, eat?, take?, areDots, isBracket]
  · simp [ellipsis?, eat?, take?, areDots]

theorem arrayLength_lengthTokens
    {source : List Char} {tokens : List Token} {length : ArrayLength}
    {rest : Shorter tokens}
    (succeeds : arrayLength source tokens = .ok (length, rest)) :
    ∃ used, tokens = used ++ rest.1 ∧ LengthTokens source used length := by
  simp only [arrayLength] at succeeds
  split at succeeds
  case h_1 final found =>
    cases succeeds
    obtain ⟨dots, closing, shape, areDots, isClosing⟩ :=
      ellipsis?_eq_some found
    exact ⟨[dots, closing], shape, .ellipsis areDots isClosing⟩
  case h_2 noEllipsis =>
    split at succeeds
    case h_1 => cases succeeds
    case h_2 inside final found =>
      split at succeeds
      case h_1 => cases succeeds
      case h_2 value isLength =>
        cases succeeds
        obtain ⟨closing, shape, balanced, isClosing⟩ :=
          group?_eq_some found
        have shape' : tokens = (inside ++ [closing]) ++ rest.1 := by
          simpa using shape
        refine ⟨inside ++ [closing], shape', .inside ?_ balanced
          isClosing isLength⟩
        refine (ellipsis?_append rest.1 ?_).mp (shape' ▸ noEllipsis)
        cases inside with
        | nil => cases isLength
        | cons first others => simp

end GoUnion.Reader
