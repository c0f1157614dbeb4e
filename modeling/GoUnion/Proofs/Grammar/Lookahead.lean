import GoUnion.Proofs.Grammar.Soundness

/-!
# What readers find at the tokens of a phrase

The leaves of completeness.  On tokens that form a name, a tag, the length of
an array or a run of enclosed items, the basic readers succeed and leave what
comes behind.  What can continue a phrase is a condition on the next token
only.

Readers choose by looking ahead.  The one deep look-ahead is over the bracket
after a name, which goes to the end of its group; that groups are balanced
makes it come out right.
-/

namespace GoUnion.Reader

variable {source : List Char} {tokens rest : List Token}

/-- What cannot continue a type. -/
def EndsType (tokens : List Token) : Prop :=
  startsType (kind tokens) = false ∧ kind tokens ≠ .symbol .dot

/-- What may follow a declaration in a struct or interface. -/
def EndsMember (tokens : List Token) : Prop :=
  kind tokens = .symbol .semicolon ∨ kind tokens = .symbol .rightBrace

theorem EndsEntry.endsType (ends : EndsEntry tokens) :
    EndsType tokens := by
  rcases ends with isComma | isParen
  · simp [EndsType, isComma, startsType]
  · simp [EndsType, isParen, startsType]

theorem EndsMember.endsType (ends : EndsMember tokens) :
    EndsType tokens := by
  rcases ends with isSemicolon | isBrace
  · simp [EndsType, isSemicolon, startsType]
  · simp [EndsType, isBrace, startsType]

/-! ## Single tokens -/

theorem take?_cons
    {wanted : TokenKind} {token : Token} (rest : List Token)
    (isWanted : token.kind = wanted) :
    take? wanted (token :: rest) = some (token, ⟨rest, Nat.lt_succ_self _⟩) := by
  simp [take?, isWanted]

theorem expect_cons
    {wanted : TokenKind} {token : Token} (rest : List Token)
    (isWanted : token.kind = wanted) :
    expect wanted (token :: rest) = .ok (token, ⟨rest, Nat.lt_succ_self _⟩) := by
  simp [expect, take?_cons rest isWanted]

theorem identifier_cons
    {token : Token} (rest : List Token)
    (isName : token.kind = .identifier) :
    identifier (token :: rest) =
      .ok (identifierOf token, ⟨rest, Nat.lt_succ_self _⟩) := by
  simp only [identifier, expect_cons rest isName, ok_bind]
  rfl

theorem take?_of_kind
    {wanted : TokenKind} (other : kind tokens ≠ wanted) :
    take? wanted tokens = none := by
  cases tokens with
  | nil => rfl
  | cons token rest => simpa [take?] using other

theorem eat?_of_kind
    {wanted : TokenKind} (other : kind tokens ≠ wanted) :
    eat? wanted tokens = none := by
  rw [eat?, take?_of_kind other, Option.map_none]

theorem eat_cons
    {wanted : TokenKind} {token : Token} (rest : List Token)
    (isWanted : token.kind = wanted) :
    eat wanted (token :: rest) = (true, ⟨rest, Nat.le_succ _⟩) := by
  simp [eat, eat?_cons rest isWanted, Shorter.toRemainder]

theorem eat_of_kind
    {wanted : TokenKind} (other : kind tokens ≠ wanted) :
    eat wanted tokens = (false, ⟨tokens, Nat.le_refl _⟩) := by
  simp [eat, eat?_of_kind other, Remainder.all]

/-! ## Names and tags -/

theorem moreIdentifiers_of_kind
    (other : kind tokens ≠ .symbol .comma) :
    moreIdentifiers tokens = .ok ([], .all tokens) := by
  rw [moreIdentifiers]
  split
  case h_1 => rfl
  case h_2 eaten =>
    rw [eat?_of_kind other] at eaten
    cases eaten

theorem identifiers_append
    {names : List Identifier} (areNames : Names tokens names)
    (ends : kind rest ≠ .symbol .comma) :
    ∃ below,
      identifiers (tokens ++ rest) = .ok (names, ⟨rest, below⟩) := by
  induction areNames with
  | @one name isName =>
      refine ⟨by simp, ?_⟩
      simp only [List.cons_append, List.nil_append, identifiers,
        identifier_cons _ isName, ok_bind, moreIdentifiers_of_kind ends]
      rfl
  | @more name comma tokens identifiers isName isComma later ih =>
      obtain ⟨below, reads⟩ := ih
      obtain ⟨⟨first, ⟨next, shorter⟩⟩, readsFirst, reads⟩ :=
        bind_eq_ok reads
      obtain ⟨⟨others, after⟩, readsOthers, reads⟩ := bind_eq_ok reads
      cases reads
      refine ⟨by simp only [List.cons_append, List.length_cons]; omega, ?_⟩
      simp only [List.cons_append, Reader.identifiers,
        identifier_cons _ isName, ok_bind]
      rw [moreIdentifiers]
      simp only [eat?_cons _ isComma, readsFirst, ok_bind, readsOthers]
      rfl

theorem tag_append
    {text : Option String} (tagged : Tagged tokens text)
    (ends : EndsMember rest) :
    ∃ below, tag (tokens ++ rest) = .ok (text, ⟨rest, below⟩) := by
  cases tagged with
  | absent =>
      refine ⟨Nat.le_refl _, ?_⟩
      have noString : kind rest ≠ .string := by
        rcases ends with ends | ends <;> simp [ends]
      have noRaw : kind rest ≠ .rawString := by
        rcases ends with ends | ends <;> simp [ends]
      simp only [List.nil_append, tag, take?_of_kind noString,
        take?_of_kind noRaw, Option.or_none]
      rfl
  | @present literal text isLiteral value =>
      refine ⟨by simp, ?_⟩
      simp only [List.cons_append, List.nil_append, tag]
      rcases isLiteral with isString | isRaw
      · simp only [take?_cons rest isString, Option.some_or, value]
        rfl
      · have noString : kind (literal :: rest) ≠ .string := by
          simp [isRaw]
        simp only [take?_of_kind noString, take?_cons rest isRaw,
          Option.none_or, value]
        rfl

/-! ## Arrays -/

theorem LengthTokens.kind_ne
    {length : ArrayLength} (isLength : LengthTokens source tokens length)
    (rest : List Token) :
    kind (tokens ++ rest) ≠ .symbol .rightBracket := by
  cases isLength with
  | ellipsis areDots => simp [areDots]
  | @inside inside closing _ noEllipsis balanced isClosing isLength =>
      cases inside with
      | nil => cases isLength
      | cons first others =>
          rw [List.cons_append, List.cons_append, kind_cons]
          intro isBracket
          rw [nesting_cons] at balanced
          simp [depthAfter, isBracket, Symbol.opens, Symbol.closes]
            at balanced

theorem arrayLength_append
    {length : ArrayLength} (isLength : LengthTokens source tokens length)
    (rest : List Token) :
    ∃ below, arrayLength source (tokens ++ rest) =
      .ok (length, ⟨rest, below⟩) := by
  cases isLength with
  | @ellipsis dots closing areDots isClosing =>
      refine ⟨by simp only [List.cons_append, List.nil_append,
        List.length_cons]; omega, ?_⟩
      simp only [List.cons_append, List.nil_append, arrayLength, ellipsis?,
        eat?_cons _ areDots, eat?_cons _ isClosing, Option.map_some]
      rfl
  | @inside inside closing _ noEllipsis balanced isClosing isLength =>
      have shape :
          (inside ++ [closing]) ++ rest = inside ++ closing :: rest := by
        simp
      have closed := closeGroup?_append balanced isClosing rest
      have noEllipsis' : ellipsis? (inside ++ closing :: rest) = none := by
        rw [← shape]
        refine (ellipsis?_append rest ?_).mpr noEllipsis
        cases inside with
        | nil => cases isLength
        | cons first others => simp
      have found :
          group? (inside ++ closing :: rest) =
            some (inside, ⟨rest, length_le_of_closeGroup? closed⟩) := by
        rw [group?]
        split
        case h_1 inner token later closed' =>
          rw [closed] at closed'
          cases closed'
          rfl
        case h_2 other =>
          exact absurd closed (other _ _ _)
      rw [shape]
      refine ⟨length_le_of_closeGroup? closed, ?_⟩
      simp only [arrayLength, noEllipsis', found, isLength]

/-- An array type after a name is recognised by its bracket. -/
theorem namesArray_of_type
    {name : Token} {type : TypeExpr}
    (reads : Reads source tokens (.type type))
    (opens : kind tokens = .symbol .leftBracket) (rest : List Token) :
    namesArray (name :: (tokens ++ rest)) = true := by
  cases reads with
  | named reads => simp [reads.kind_of_name] at opens
  | slice _ closes _ => simp [namesArray, kindAt, closes]
  | @array opening lengthTokens tokens length element _ isLength reads =>
      obtain ⟨inside, mark, rfl, isClosing, balanced⟩ := isLength.balanced
      have closed :=
        closeGroup?_append balanced isClosing (tokens ++ rest)
      have starts : startsType (kind (tokens ++ rest)) = true := by
        rw [kind_append _ _ reads.ne_nil]
        exact reads.starts_type
      have shape :
          (opening :: ((inside ++ [mark]) ++ tokens)) ++ rest =
            opening :: (inside ++ mark :: (tokens ++ rest)) := by simp
      simp only [namesArray, shape, List.drop_succ_cons, List.drop_zero,
        closed, kindAt_succ_cons, Bool.or_eq_true]
      exact .inr starts
  | parens isFirst | pointer isFirst | map isFirst | channel isFirst
  | sending isFirst | receiving isFirst | functionType isFirst
  | record isFirst | interface isFirst =>
      rw [kind_cons, isFirst] at opens
      cases opens

/-- The bracket of a generic type is not taken for one of an array type. -/
theorem namesArray_of_arguments
    {name opening closing : Token} {arguments : List Token}
    (starts : startsType (kind arguments) = true)
    (balanced : Balanced arguments)
    (isClosing : closing.kind = .symbol .rightBracket)
    (ends : startsType (kind rest) = false) :
    namesArray (name :: opening :: (arguments ++ closing :: rest)) =
      false := by
  have closed :=
    closeGroup?_append balanced
      (by simp [closes, isClosing, Symbol.closes] :
        closes closing = true) rest
  have nonempty : arguments ≠ [] := by
    rintro rfl
    cases starts
  have notBracket :
      kind (arguments ++ closing :: rest) ≠ .symbol .rightBracket := by
    rw [kind_append _ _ nonempty]
    intro isBracket
    rw [isBracket] at starts
    cases starts
  simp only [namesArray, List.drop_succ_cons, List.drop_zero, closed,
    kindAt_succ_cons, Bool.or_eq_false_iff]
  exact ⟨decide_eq_false notBracket, ends⟩

/-! ## What a name goes on to -/

/-- A type of more than a name, in a parameter list, is not taken for a name with a type. -/
theorem Reads.entryForm_of_identifier
    {type : TypeExpr} (reads : Reads source tokens (.type type))
    (isName : kind tokens = .identifier)
    (notBare : tokens.length ≠ 1)
    (ends : EndsType rest) :
    entryForm (tokens ++ rest) = .type := by
  cases reads with
  | named reads =>
      cases reads with
      | plainName => exact absurd rfl notBare
      | @genericName name opening closing arguments parts _ opens separated
          reads closes =>
          have balanced := separated.balanced
            (fun mark isMark => by
              simp [depthAfter, isMark, Symbol.opens, Symbol.closes])
            (forall_mem_map_fst fun part inParts =>
              (reads part inParts).balanced)
          have notArray : namesArray
              (name :: opening :: (arguments ++ closing :: rest)) =
                false :=
            namesArray_of_arguments (separated.starts_type reads) balanced
                closes ends.1
          simp [entryForm, kindAt, opens, notArray]
      | qualifiedName _ isDot => simp [entryForm, kindAt, isDot]
  | parens isFirst | pointer isFirst | slice isFirst | array isFirst
  | map isFirst | channel isFirst | sending isFirst | receiving isFirst
  | functionType isFirst | record isFirst | interface isFirst =>
      rw [kind_cons, isFirst] at isName
      cases isName

/-- A name before a type, in a parameter list, is taken for the name of a parameter. -/
theorem Reads.entryForm_after
    {type : TypeExpr} (reads : Reads source tokens (.type type))
    (name : Token) (rest : List Token) :
    entryForm (name :: (tokens ++ rest)) = .name := by
  have starts := reads.starts_type
  have next : kindAt 1 (name :: (tokens ++ rest)) = kind tokens := by
    rw [kindAt_succ_cons]
    exact kind_append _ _ reads.ne_nil
  rw [entryForm, next]
  split
  case h_5 opens =>
    rw [namesArray_of_type reads opens rest]
    rfl
  case h_6 => rw [if_pos starts]
  all_goals
    rename_i isMark
    rw [isMark] at starts
    cases starts

theorem Tagged.endsType
    {text : Option String} (tagged : Tagged tokens text)
    (ends : EndsMember rest) :
    EndsType (tokens ++ rest) := by
  cases tagged with
  | absent => exact ends.endsType
  | present isLiteral =>
      rcases isLiteral with isString | isRaw
      · simp [EndsType, isString, startsType]
      · simp [EndsType, isRaw, startsType]

/-- A name that ends a declaration in a struct is taken for an embedded type. -/
theorem Reads.embeds?_of_name
    {type : TypeExpr} {last : Identifier} {tagTokens : List Token}
    {text : Option String}
    (reads : Reads source tokens (.name type last))
    (tagged : Tagged tagTokens text) (ends : EndsMember rest) :
    embeds? (tokens ++ (tagTokens ++ rest)) = some true := by
  have ends' := tagged.endsType ends
  have isName := reads.kind_of_name
  rw [embeds?, kind_append _ _ reads.ne_nil, isName]
  cases reads with
  | @plainName name =>
      have next :
          kindAt 1 ([name] ++ (tagTokens ++ rest)) =
            kind (tagTokens ++ rest) := rfl
      rw [next]
      cases tagged with
      | absent =>
          rcases ends with ends | ends
          · simp [ends]
          · simp [ends]
      | present isLiteral =>
          rcases isLiteral with isString | isRaw
          · simp [isString]
          · simp [isRaw]
  | @genericName name opening closing arguments parts _ opens separated
      reads closes =>
      have balanced := separated.balanced
        (fun mark isMark => by
          simp [depthAfter, isMark, Symbol.opens, Symbol.closes])
        (forall_mem_map_fst fun part inParts =>
          (reads part inParts).balanced)
      have notArray : namesArray
          (name :: opening ::
            (arguments ++ closing :: (tagTokens ++ rest))) = false :=
        namesArray_of_arguments (separated.starts_type reads) balanced
          closes ends'.1
      simp [kindAt, opens, notArray]
  | qualifiedName _ isDot => simp [kindAt, isDot]

/-- Names before a type, in a struct, are taken for the names of fields. -/
theorem Reads.embeds?_after
    {type : TypeExpr} {nameTokens : List Token} {names : List Identifier}
    (reads : Reads source tokens (.type type))
    (areNames : Names nameTokens names) (rest : List Token) :
    embeds? (nameTokens ++ (tokens ++ rest)) = some false := by
  cases areNames with
  | @one name isName =>
      have starts := reads.starts_type
      have next : kindAt 1 ([name] ++ (tokens ++ rest)) = kind tokens :=
        kind_append _ _ reads.ne_nil
      rw [embeds?, List.cons_append, kind_cons, isName]
      rw [List.cons_append] at next
      simp only [next]
      split
      case h_6 opens =>
        rw [List.nil_append, namesArray_of_type reads opens rest]
        rfl
      case h_7 => rfl
      all_goals
        rename_i isMark
        rw [isMark] at starts
        cases starts
  | more isName isComma => simp [embeds?, isName, kindAt, isComma]

/-- A type is not taken for a method, whose name a parenthesis follows. -/
theorem Reads.not_call_of_type
    {type : TypeExpr} (reads : Reads source tokens (.type type))
    (noParens : kind rest ≠ .symbol .leftParen) :
    ¬(kind (tokens ++ rest) = .identifier ∧
      kindAt 1 (tokens ++ rest) = .symbol .leftParen) := by
  rintro ⟨isName, isCall⟩
  rw [kind_append _ _ reads.ne_nil] at isName
  cases reads with
  | named reads =>
      rcases reads.kindAt_one_of_name rest with
        isBracket | isDot | ⟨-, same⟩
      · rw [isBracket] at isCall
        cases isCall
      · rw [isDot] at isCall
        cases isCall
      · rw [same] at isCall
        exact noParens isCall
  | parens isFirst | pointer isFirst | slice isFirst | array isFirst
  | map isFirst | channel isFirst | sending isFirst | receiving isFirst
  | functionType isFirst | record isFirst | interface isFirst =>
      rw [kind_cons, isFirst] at isName
      cases isName

theorem Reads.not_call_of_term
    {term : TermExpr} (reads : Reads source tokens (.term term))
    (noParens : kind rest ≠ .symbol .leftParen) :
    ¬(kind (tokens ++ rest) = .identifier ∧
      kindAt 1 (tokens ++ rest) = .symbol .leftParen) := by
  cases reads with
  | plainTerm reads => exact reads.not_call_of_type noParens
  | tildeTerm isTilde =>
      rintro ⟨isName, -⟩
      rw [List.cons_append, kind_cons, isTilde] at isName
      cases isName

theorem Reads.not_call
    {type : TypeExpr} (reads : Reads source tokens (.constraint type))
    (ends : EndsType rest) :
    ¬(kind (tokens ++ rest) = .identifier ∧
      kindAt 1 (tokens ++ rest) = .symbol .leftParen) := by
  have noParens : kind rest ≠ .symbol .leftParen := by
    intro opens
    simp [EndsType, opens, startsType] at ends
  cases reads with
  | single reads => exact reads.not_call_of_type noParens
  | @union tokens parts separated reads proper =>
      generalize arePieces : parts.map (·.1) = pieces at separated
      cases separated with
      | last =>
          obtain ⟨part, rfl, rfl⟩ :=
            List.map_eq_singleton_iff.mp arePieces
          exact (reads _ (List.mem_singleton.mpr rfl)).not_call_of_term
            noParens
      | trailing allowed => cases allowed
      | @cons piece mark pieces tokens isMark later =>
          obtain ⟨part, parts, rfl, rfl, rfl⟩ :=
            List.map_eq_cons_iff.mp arePieces
          have shape :
              (part.1 ++ mark :: tokens) ++ rest =
                part.1 ++ mark :: (tokens ++ rest) := by simp
          rw [shape]
          exact (reads _ List.mem_cons_self).not_call_of_term
            (by simp [isMark])

theorem Reads.starts_fields
    {list : List FieldExpr} (reads : Reads source tokens (.fields list))
    (rest : List Token) :
    kind (tokens ++ rest) ≠ .symbol .semicolon ∧
      kind (tokens ++ rest) ≠ .symbol .rightBrace := by
  rw [kind_append _ _ reads.ne_nil]
  cases reads with
  | embeddedField reads =>
      simp [kind_append _ _ reads.ne_nil, reads.kind_of_name]
  | embeddedPointer isStar => simp [isStar]
  | namedFields areNames =>
      rw [kind_append _ _ areNames.ne_nil]
      cases areNames with
      | one isName | more isName => simp [isName]

theorem Reads.starts_member
    {member : MemberExpr} (reads : Reads source tokens (.member member))
    (rest : List Token) :
    kind (tokens ++ rest) ≠ .symbol .semicolon ∧
      kind (tokens ++ rest) ≠ .symbol .rightBrace := by
  rw [kind_append _ _ reads.ne_nil]
  cases reads with
  | method isName => simp [isName]
  | embed reads =>
      rcases reads.starts_constraint with starts | isTilde
      · constructor
        · intro isMark
          rw [isMark] at starts
          cases starts
        · intro isMark
          rw [isMark] at starts
          cases starts
      · simp [isTilde]

/-! ## Enclosed items -/

theorem skipSemicolons_append
    {semicolons : List Token} (leading : Semicolons semicolons)
    (tokens : List Token) :
    (skipSemicolons (semicolons ++ tokens)).1 =
      (skipSemicolons tokens).1 := by
  induction semicolons with
  | nil => rfl
  | cons token semicolons ih =>
      obtain ⟨isSemicolon, later⟩ := List.forall_mem_cons.mp leading
      simp only [List.cons_append, skipSemicolons, isSemicolon, if_true]
      exact ih later

theorem terminator_append
    {closing : TokenKind} {mark : Token}
    (ends : mark.kind = .symbol .semicolon) (rest : List Token) :
    terminator closing (mark :: rest) = .ok ⟨rest, Nat.le_succ _⟩ := by
  simp [terminator, eat?_cons rest ends, Shorter.toRemainder]

theorem terminator_of_closing
    {closing : TokenKind}
    (notSemicolon : closing ≠ .symbol .semicolon)
    (ends : kind rest = closing) :
    terminator closing rest = .ok ⟨rest, Nat.le_refl _⟩ := by
  have other : kind rest ≠ .symbol .semicolon := ends ▸ notSemicolon
  simp [terminator, eat?_of_kind other, ends, Remainder.all]

section Items

variable {α : Type} {closing : TokenKind} {bound : Nat}
variable {item :
  (tokens : List Token) → tokens.length ≤ bound → Read α tokens}

theorem items_of_semicolons
    {semicolons : List Token} {values : List α}
    (leading : Semicolons semicolons)
    (within : (semicolons ++ tokens).length ≤ bound)
    (reads : ∀ within, ∃ below,
      items closing bound item tokens within =
        .ok (values, ⟨rest, below⟩)) :
    ∃ below,
      items closing bound item (semicolons ++ tokens) within =
        .ok (values, ⟨rest, below⟩) := by
  have shorter : tokens.length ≤ (semicolons ++ tokens).length := by simp
  obtain ⟨below, reads⟩ := reads (Nat.le_trans shorter within)
  refine ⟨Nat.lt_of_lt_of_le below shorter, ?_⟩
  have same := skipSemicolons_append leading tokens
  rw [items] at reads ⊢
  generalize skipSemicolons tokens = skipped at reads same
  generalize skipSemicolons (semicolons ++ tokens) = skipped' at same
  obtain ⟨start, fits⟩ := skipped
  obtain ⟨start', fits'⟩ := skipped'
  obtain rfl : start' = start := same
  dsimp only at reads ⊢
  cases eaten : eat? closing start' with
  | some final =>
      rw [eaten] at reads
      cases reads
      rfl
  | none =>
      rw [eaten] at reads
      obtain ⟨⟨first, ⟨afterItem, byItem⟩⟩, readsItem, reads⟩ :=
        bind_eq_ok reads
      obtain ⟨⟨next, byTerminator⟩, ends, reads⟩ := bind_eq_ok reads
      obtain ⟨⟨others, ⟨final, byOthers⟩⟩, readsOthers, reads⟩ :=
        bind_eq_ok reads
      cases reads
      simp only [readsItem, ok_bind, ends, readsOthers]
      rfl

theorem items_of_item
    {value : α} {values : List α} {piece after next : List Token}
    (notSemicolon : kind (piece ++ after) ≠ .symbol .semicolon)
    (notClosing : kind (piece ++ after) ≠ closing)
    (within : (piece ++ after).length ≤ bound)
    (accepts : ∀ within, ∃ below,
      item (piece ++ after) within = .ok (value, ⟨after, below⟩))
    (ends : ∃ below, terminator closing after = .ok ⟨next, below⟩)
    (reads : ∀ within, ∃ below,
      items closing bound item next within =
        .ok (values, ⟨rest, below⟩)) :
    ∃ below,
      items closing bound item (piece ++ after) within =
        .ok (value :: values, ⟨rest, below⟩) := by
  obtain ⟨byItem, accepts⟩ := accepts within
  obtain ⟨byTerminator, ends⟩ := ends
  have shorter : next.length < (piece ++ after).length :=
    Nat.lt_of_le_of_lt byTerminator byItem
  obtain ⟨below, reads⟩ := reads (Nat.le_trans (Nat.le_of_lt shorter) within)
  refine ⟨Nat.lt_trans below shorter, ?_⟩
  have unmoved : (skipSemicolons (piece ++ after)).1 = piece ++ after := by
    generalize piece ++ after = start at notSemicolon
    cases start with
    | nil => rfl
    | cons token tail => exact skipSemicolons_of_kind tail notSemicolon
  rw [items]
  generalize skipSemicolons (piece ++ after) = skipped at unmoved
  obtain ⟨start, fits⟩ := skipped
  obtain rfl : start = piece ++ after := unmoved
  simp only [eat?_of_kind notClosing, accepts, ok_bind, ends, reads]
  rfl

variable (bound item) in
/-- The reader of enclosed items accepts them if the reader of an item accepts each. -/
theorem items_append
    {parts : List (List Token × α)}
    (notSemicolon : closing ≠ .symbol .semicolon)
    (enclosed : Enclosed closing (parts.map (·.1)) tokens)
    (starts : ∀ part ∈ parts, ∀ rest,
      kind (part.1 ++ rest) ≠ .symbol .semicolon ∧
        kind (part.1 ++ rest) ≠ closing)
    (accepts : ∀ part ∈ parts, ∀ rest within,
      kind rest = .symbol .semicolon ∨ kind rest = closing →
        ∃ below, item (part.1 ++ rest) within =
          .ok (part.2, ⟨rest, below⟩))
    (rest : List Token) :
    ∀ within, ∃ below,
      items closing bound item (tokens ++ rest) within =
        .ok (parts.map (·.2), ⟨rest, below⟩) := by
  generalize arePieces : parts.map (·.1) = pieces at enclosed
  induction enclosed generalizing parts with
  | @close semicolons mark leading isClosing =>
      obtain rfl := List.map_eq_nil_iff.mp arePieces
      rw [List.append_assoc]
      intro within
      refine items_of_semicolons leading within fun within => ?_
      exact ⟨by simp, items_of_closing notSemicolon isClosing within⟩
  | @last semicolons piece mark leading isClosing =>
      obtain ⟨⟨piece, value⟩, rfl, rfl⟩ :=
        List.map_eq_singleton_iff.mp arePieces
      have inParts := List.mem_singleton.mpr (rfl : (piece, value) = _)
      rw [List.append_assoc, List.append_assoc]
      intro within
      refine items_of_semicolons leading within fun within => ?_
      obtain ⟨first, second⟩ := starts _ inParts ([mark] ++ rest)
      refine items_of_item first second within (fun within =>
        accepts _ inParts _ within (.inr isClosing))
        ⟨_, terminator_of_closing notSemicolon isClosing⟩
        fun within =>
          ⟨by simp, items_of_closing notSemicolon isClosing within⟩
  | @cons semicolons piece mark pieces tokens leading isMark later ih =>
      obtain ⟨⟨piece, value⟩, parts, rfl, rfl, rfl⟩ :=
        List.map_eq_cons_iff.mp arePieces
      obtain ⟨startsFirst, startsOthers⟩ := List.forall_mem_cons.mp starts
      obtain ⟨acceptsFirst, acceptsOthers⟩ :=
        List.forall_mem_cons.mp accepts
      have shape :
          (semicolons ++ (piece ++ mark :: tokens)) ++ rest =
            semicolons ++ (piece ++ mark :: (tokens ++ rest)) := by simp
      rw [shape]
      intro within
      refine items_of_semicolons leading within fun within => ?_
      obtain ⟨first, second⟩ := startsFirst (mark :: (tokens ++ rest))
      exact items_of_item first second within
        (fun within => acceptsFirst _ within (.inl isMark))
        ⟨_, terminator_append isMark _⟩
        (ih startsOthers acceptsOthers rfl)

end Items

end GoUnion.Reader
