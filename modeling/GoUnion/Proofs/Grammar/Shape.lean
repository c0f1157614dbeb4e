import GoUnion.Proofs.Grammar.Consumption

/-!
# The shape of phrases

Facts about the tokens of a phrase that hold whatever it stands for: there are
some, a type starts with a token that can start a type, and every group that a
phrase opens is closed in it.
-/

namespace GoUnion.Reader

variable {source : List Char} {tokens : List Token} {phrase : Phrase}

/-! ## Phrases are not empty -/

theorem Separated.ne_nil
    {separator : TokenKind} {trailing : Bool}
    {pieces : List (List Token)}
    (separated : Separated separator trailing pieces tokens)
    (nonempty : ∀ piece ∈ pieces, piece ≠ []) :
    tokens ≠ [] := by
  cases separated with
  | last => exact nonempty _ (List.mem_singleton.mpr rfl)
  | trailing _ _ => simp
  | cons _ _ => simp

theorem Names.ne_nil
    {names : List Identifier} (areNames : Names tokens names) :
    tokens ≠ [] := by
  cases areNames <;> simp

theorem LengthTokens.ne_nil
    {length : ArrayLength} (isLength : LengthTokens source tokens length) :
    tokens ≠ [] := by
  cases isLength <;> simp

/-- The token lists of parts have a property if all parts do. -/
theorem forall_mem_map_fst
    {α : Type} {parts : List (List Token × α)}
    {property : List Token → Prop}
    (each : ∀ part ∈ parts, property part.1) :
    ∀ piece ∈ parts.map (·.1), property piece := by
  intro piece inPieces
  obtain ⟨part, inParts, rfl⟩ := List.mem_map.mp inPieces
  exact each part inParts

theorem Reads.ne_nil (reads : Reads source tokens phrase) :
    tokens ≠ [] := by
  induction reads with
  | named _ ih | procedure _ ih | unnamedEntry _ _ ih | embed _ ih
  | single _ ih | plainTerm _ ih => exact ih
  | oneResult _ _ _ ih | results _ _ ih | embeddedField _ _ ih =>
      simp [ih]
  | namedFields areNames _ _ _ => simp [areNames.ne_nil]
  | union separated _ _ ih =>
      exact separated.ne_nil (forall_mem_map_fst ih)
  | _ => simp

/-! ## Tokens of pieces -/

theorem Separated.mem
    {separator : TokenKind} {trailing : Bool}
    {pieces : List (List Token)} {piece : List Token} {token : Token}
    (separated : Separated separator trailing pieces tokens)
    (inPieces : piece ∈ pieces) (inPiece : token ∈ piece) :
    token ∈ tokens := by
  induction separated with
  | last =>
      rw [List.mem_singleton.mp inPieces] at inPiece
      exact inPiece
  | trailing _ _ =>
      rw [List.mem_singleton.mp inPieces] at inPiece
      exact List.mem_append_left _ inPiece
  | cons _ _ ih =>
      rcases List.mem_cons.mp inPieces with rfl | inOthers
      · exact List.mem_append_left _ inPiece
      · exact List.mem_append_right _ (List.mem_cons_of_mem _ (ih inOthers))

theorem Enclosed.mem
    {closing : TokenKind} {pieces : List (List Token)}
    {piece : List Token} {token : Token}
    (enclosed : Enclosed closing pieces tokens)
    (inPieces : piece ∈ pieces) (inPiece : token ∈ piece) :
    token ∈ tokens := by
  induction enclosed with
  | close => cases inPieces
  | last =>
      rw [List.mem_singleton.mp inPieces] at inPiece
      exact List.mem_append_right _ (List.mem_append_left _ inPiece)
  | cons _ _ _ ih =>
      rcases List.mem_cons.mp inPieces with rfl | inOthers
      · exact List.mem_append_right _ (List.mem_append_left _ inPiece)
      · exact List.mem_append_right _ (List.mem_append_right _
          (List.mem_cons_of_mem _ (ih inOthers)))

/-! ## The first token -/

theorem kind_append (front rest : List Token) (nonempty : front ≠ []) :
    kind (front ++ rest) = kind front := by
  cases front with
  | nil => exact absurd rfl nonempty
  | cons token tail => rfl

theorem kindAt_succ_cons (index : Nat) (token : Token) (rest : List Token) :
    kindAt (index + 1) (token :: rest) = kindAt index rest := rfl

theorem Reads.kind_of_name
    {type : TypeExpr} {last : Identifier}
    (reads : Reads source tokens (.name type last)) :
    kind tokens = .identifier := by
  cases reads with
  | plainName isName => exact isName
  | genericName isName => exact isName
  | qualifiedName isName => exact isName

theorem Reads.starts_type
    {type : TypeExpr} (reads : Reads source tokens (.type type)) :
    startsType (kind tokens) = true := by
  cases reads with
  | named reads => rw [reads.kind_of_name]; rfl
  | parens isFirst | pointer isFirst | slice isFirst | array isFirst
  | map isFirst | channel isFirst | sending isFirst | receiving isFirst
  | functionType isFirst | record isFirst | interface isFirst =>
      rw [kind_cons, isFirst]; rfl

theorem Separated.starts_type
    {separator : TokenKind} {trailing : Bool}
    {parts : List (List Token × TypeExpr)}
    (separated : Separated separator trailing (parts.map (·.1)) tokens)
    (reads : ∀ part ∈ parts, Reads source part.1 (.type part.2)) :
    startsType (kind tokens) = true := by
  have each : ∀ piece ∈ parts.map (·.1),
      piece ≠ [] ∧ startsType (kind piece) = true :=
    forall_mem_map_fst fun part inParts =>
      ⟨(reads part inParts).ne_nil, (reads part inParts).starts_type⟩
  generalize parts.map (·.1) = pieces at separated each
  cases separated with
  | last => exact (each _ (List.mem_singleton.mpr rfl)).2
  | trailing _ _ =>
      obtain ⟨nonempty, starts⟩ := each _ (List.mem_singleton.mpr rfl)
      rwa [kind_append _ _ nonempty]
  | cons _ _ =>
      obtain ⟨nonempty, starts⟩ := each _ List.mem_cons_self
      rwa [kind_append _ _ nonempty]

theorem Reads.kind_of_parameters
    {allowed variadic : Bool} {list : List ParameterExpr}
    (reads : Reads source tokens (.parameters allowed list variadic)) :
    kind tokens = .symbol .leftParen := by
  cases reads with
  | noParameters opens => exact opens
  | parameters opens => exact opens

theorem Reads.kind_of_function
    {function : FunctionExpr}
    (reads : Reads source tokens (.function function)) :
    kind tokens = .symbol .leftParen := by
  cases reads with
  | procedure reads => exact reads.kind_of_parameters
  | oneResult reads | results reads =>
      rw [kind_append _ _ reads.ne_nil, reads.kind_of_parameters]

/-- What comes after the first identifier of a name. -/
theorem Reads.kindAt_one_of_name
    {type : TypeExpr} {last : Identifier}
    (reads : Reads source tokens (.name type last)) (rest : List Token) :
    kindAt 1 (tokens ++ rest) = .symbol .leftBracket ∨
      kindAt 1 (tokens ++ rest) = .symbol .dot ∨
      tokens.length = 1 ∧ kindAt 1 (tokens ++ rest) = kind rest := by
  cases reads with
  | plainName => exact .inr (.inr ⟨rfl, rfl⟩)
  | genericName _ opens => exact .inl opens
  | qualifiedName _ isDot => exact .inr (.inl isDot)

theorem Reads.starts_term
    {term : TermExpr} (reads : Reads source tokens (.term term)) :
    startsType (kind tokens) = true ∨
      kind tokens = .symbol .tilde := by
  cases reads with
  | plainTerm reads => exact .inl reads.starts_type
  | tildeTerm isTilde => exact .inr isTilde

theorem Reads.starts_constraint
    {type : TypeExpr} (reads : Reads source tokens (.constraint type)) :
    startsType (kind tokens) = true ∨
      kind tokens = .symbol .tilde := by
  cases reads with
  | single reads => exact .inl reads.starts_type
  | @union tokens parts separated reads proper =>
      have each : ∀ piece ∈ parts.map (·.1),
          piece ≠ [] ∧ (startsType (kind piece) = true ∨
            kind piece = .symbol .tilde) :=
        forall_mem_map_fst fun part inParts =>
          ⟨(reads part inParts).ne_nil, (reads part inParts).starts_term⟩
      generalize parts.map (·.1) = pieces at separated each
      cases separated with
      | last => exact (each _ (List.mem_singleton.mpr rfl)).2
      | trailing allowed => cases allowed
      | cons _ _ =>
          obtain ⟨nonempty, starts⟩ := each _ List.mem_cons_self
          rwa [kind_append _ _ nonempty]

/-- A type of a single token is a name. -/
theorem Reads.kind_of_singleton
    {token : Token} {type : TypeExpr}
    (reads : Reads source [token] (.type type)) :
    token.kind = .identifier := by
  generalize shape : [token] = tokens at reads
  cases reads with
  | named reads => subst shape; exact reads.kind_of_name
  | pointer _ reads | channel _ _ reads =>
      injection shape with _ empty
      exact absurd empty.symm reads.ne_nil
  | array _ _ reads =>
      injection shape with _ empty
      exact absurd (List.append_eq_nil_iff.mp empty.symm).2 reads.ne_nil
  | functionType _ reads =>
      injection shape with _ empty
      exact absurd empty.symm reads.ne_nil
  | _ => simp at shape

/-- An entry of a parameter list is not taken for the end of the list. -/
theorem Reads.kind_ne_rightParen
    {entry : ParameterEntry}
    (reads : Reads source tokens (.entry entry)) (rest : List Token) :
    kind (tokens ++ rest) ≠ .symbol .rightParen := by
  rw [kind_append _ _ reads.ne_nil]
  cases reads with
  | bareEntry isFirst | spreadEntry isFirst | namedEntry isFirst
  | namedSpreadEntry isFirst =>
      simp [isFirst]
  | unnamedEntry _ reads =>
      intro isParen
      have starts := reads.starts_type
      rw [isParen] at starts
      cases starts

/-! ## Groups are closed -/

theorem nesting_append (depth : Nat) (front rest : List Token) :
    nesting depth (front ++ rest) =
      (nesting depth front).bind (nesting · rest) :=
  List.foldlM_append

/-- A token that neither opens nor closes a group leaves the depth alone. -/
theorem depthAfter_eq_self
    {token : Token} (depth : Nat)
    (notEnd : token.kind ≠ .endOfFile)
    (neutral :
      ∀ mark, token.kind = .symbol mark →
        mark.opens = false ∧ mark.closes = false) :
    depthAfter depth token = some depth := by
  obtain ⟨tokenKind, text, span⟩ := token
  cases tokenKind with
  | symbol mark => simp [depthAfter, neutral mark rfl]
  | endOfFile => exact absurd rfl notEnd
  | _ => rfl

theorem depthAfter_succ
    {depth next : Nat} {token : Token}
    (step : depthAfter depth token = some next) :
    depthAfter (depth + 1) token = some (next + 1) := by
  simp only [depthAfter] at step ⊢
  split at step
  case h_1 => cases step
  case h_2 mark isSymbol =>
    split at step
    case isTrue opens => cases step; simp [opens]
    case isFalse =>
      split at step
      case isTrue notOpens closes =>
        cases depth with
        | zero => cases step
        | succ depth => cases step; simp [notOpens, closes]
      case isFalse notOpens notCloses =>
        cases step
        simp [notOpens, notCloses]
  case h_3 => cases step; rfl

/-- Inside one more group, the depth is one more throughout. -/
theorem nesting_succ
    {depth final : Nat} (runs : nesting depth tokens = some final) :
    nesting (depth + 1) tokens = some (final + 1) := by
  induction tokens generalizing depth with
  | nil => cases runs; rfl
  | cons token rest ih =>
      rw [nesting_cons] at runs
      obtain ⟨next, step, runs⟩ := Option.bind_eq_some_iff.mp runs
      rw [nesting_cons, depthAfter_succ step]
      exact ih runs

/-- Tokens in which every group that is opened is closed, and no other. -/
def Balanced (tokens : List Token) : Prop :=
  nesting 0 tokens = some 0

theorem Balanced.nesting_eq (balanced : Balanced tokens) (depth : Nat) :
    nesting depth tokens = some depth := by
  induction depth with
  | zero => exact balanced
  | succ depth ih => exact nesting_succ ih

theorem Balanced.nil : Balanced [] := rfl

theorem Balanced.append
    {front rest : List Token}
    (first : Balanced front) (second : Balanced rest) :
    Balanced (front ++ rest) := by
  rw [Balanced, nesting_append, first]
  exact second

theorem Balanced.cons
    {token : Token} {rest : List Token}
    (neutral : depthAfter 0 token = some 0)
    (balanced : Balanced rest) :
    Balanced (token :: rest) := by
  rw [Balanced, nesting_cons, neutral]
  exact balanced

/-- A group around balanced tokens. -/
theorem Balanced.group
    {opening closing : Token} {inside : List Token}
    (opens : depthAfter 0 opening = some 1)
    (balanced : Balanced inside)
    (isClosing : closes closing = true) :
    Balanced (opening :: (inside ++ [closing])) := by
  have step : depthAfter 1 closing = some 0 := by
    simp only [closes] at isClosing
    split at isClosing
    case h_1 mark isSymbol =>
      cases mark <;>
        simp [depthAfter, isSymbol, Symbol.opens, Symbol.closes]
          at isClosing ⊢
    case h_2 => cases isClosing
  rw [Balanced, nesting_cons, opens]
  change nesting 1 (inside ++ [closing]) = some 0
  rw [nesting_append, balanced.nesting_eq 1]
  change nesting 1 [closing] = some 0
  rw [nesting_cons, step]
  rfl

/-- The group that a bracket opens in front of balanced tokens. -/
theorem Balanced.enclose
    {opening closing : Token} {inside rest : List Token}
    (opens : depthAfter 0 opening = some 1)
    (balanced : Balanced inside)
    (isClosing : closes closing = true)
    (later : Balanced rest) :
    Balanced (opening :: (inside ++ closing :: rest)) := by
  have shape :
      opening :: (inside ++ closing :: rest) =
        (opening :: (inside ++ [closing])) ++ rest := by simp
  rw [shape]
  exact (balanced.group opens isClosing).append later

theorem Separated.balanced
    {separator : TokenKind} {trailing : Bool}
    {pieces : List (List Token)}
    (neutral : ∀ mark : Token,
      mark.kind = separator → depthAfter 0 mark = some 0)
    (separated : Separated separator trailing pieces tokens)
    (each : ∀ piece ∈ pieces, Balanced piece) :
    Balanced tokens := by
  induction separated with
  | last => exact each _ (List.mem_singleton.mpr rfl)
  | trailing _ isMark =>
      exact (each _ (List.mem_singleton.mpr rfl)).append
        (.cons (neutral _ isMark) .nil)
  | cons isMark _ ih =>
      obtain ⟨first, others⟩ := List.forall_mem_cons.mp each
      exact first.append (.cons (neutral _ isMark) (ih others))

theorem Semicolons.balanced
    (areSemicolons : Semicolons tokens) : Balanced tokens := by
  induction tokens with
  | nil => exact .nil
  | cons token rest ih =>
      obtain ⟨isSemicolon, later⟩ := List.forall_mem_cons.mp areSemicolons
      exact .cons
        (by simp [depthAfter, isSemicolon, Symbol.opens, Symbol.closes])
        (ih later)

/-- Enclosed pieces end with the closing token, and the rest is balanced. -/
theorem Enclosed.balanced
    {closing : TokenKind} {pieces : List (List Token)}
    (enclosed : Enclosed closing pieces tokens)
    (each : ∀ piece ∈ pieces, Balanced piece) :
    ∃ inside mark, tokens = inside ++ [mark] ∧ mark.kind = closing ∧
      Balanced inside := by
  induction enclosed with
  | close leading isClosing =>
      exact ⟨_, _, rfl, isClosing, leading.balanced⟩
  | @last semicolons piece mark leading isClosing =>
      refine ⟨semicolons ++ piece, mark, by simp, isClosing, ?_⟩
      exact leading.balanced.append (each _ (List.mem_singleton.mpr rfl))
  | @cons semicolons piece mark pieces tokens leading isMark _ ih =>
      obtain ⟨first, others⟩ := List.forall_mem_cons.mp each
      obtain ⟨inside, final, rfl, isClosing, balanced⟩ := ih others
      refine ⟨semicolons ++ (piece ++ mark :: inside), final, by simp,
        isClosing, ?_⟩
      exact leading.balanced.append (first.append (.cons
        (by simp [depthAfter, isMark, Symbol.opens, Symbol.closes])
        balanced))

theorem Names.balanced
    {names : List Identifier} (areNames : Names tokens names) :
    Balanced tokens := by
  induction areNames with
  | one isName => exact .cons (by simp [depthAfter, isName]) .nil
  | more isName isComma _ ih =>
      exact .cons (by simp [depthAfter, isName]) (.cons
        (by simp [depthAfter, isComma, Symbol.opens, Symbol.closes]) ih)

theorem Tagged.balanced
    {text : Option String} (tagged : Tagged tokens text) :
    Balanced tokens := by
  cases tagged with
  | absent => exact .nil
  | present isLiteral =>
      rcases isLiteral with isString | isRaw
      · exact .cons (by simp [depthAfter, isString]) .nil
      · exact .cons (by simp [depthAfter, isRaw]) .nil

/-- The length of an array is balanced up to its closing bracket. -/
theorem LengthTokens.balanced
    {length : ArrayLength} (isLength : LengthTokens source tokens length) :
    ∃ inside mark, tokens = inside ++ [mark] ∧ closes mark = true ∧
      Balanced inside := by
  cases isLength with
  | @ellipsis dots closing areDots isClosing =>
      refine ⟨[dots], closing, rfl, ?_, .cons ?_ .nil⟩
      · simp [closes, isClosing, Symbol.closes]
      · simp [depthAfter, areDots, Symbol.opens, Symbol.closes]
  | inside _ balanced isClosing =>
      exact ⟨_, _, rfl, isClosing, balanced⟩

theorem Reads.balanced (reads : Reads source tokens phrase) :
    Balanced tokens := by
  induction reads with
  | named _ ih | procedure _ ih | unnamedEntry _ _ ih | embed _ ih
  | single _ ih | plainTerm _ ih => exact ih
  | parens opens _ isClosing ih =>
      exact ih.group
        (by simp [depthAfter, opens, Symbol.opens])
        (by simp [closes, isClosing, Symbol.closes])
  | pointer isFirst _ ih | spreadEntry isFirst _ ih
  | tildeTerm isFirst _ ih =>
      exact .cons
        (by simp [depthAfter, isFirst, Symbol.opens, Symbol.closes]) ih
  | channel isFirst _ _ ih | functionType isFirst _ ih
  | namedEntry isFirst _ ih | method isFirst _ ih =>
      exact .cons (by simp [depthAfter, isFirst]) ih
  | sending isFirst isSecond _ ih | receiving isFirst isSecond _ ih
  | qualifiedName isFirst isSecond _ ih
  | namedSpreadEntry isFirst isSecond _ ih =>
      refine .cons ?_ (.cons ?_ ih)
      · simp [depthAfter, isFirst, Symbol.opens, Symbol.closes]
      · simp [depthAfter, isSecond, Symbol.opens, Symbol.closes]
  | slice opens isClosing _ ih =>
      exact Balanced.nil.enclose
        (by simp [depthAfter, opens, Symbol.opens])
        (by simp [closes, isClosing, Symbol.closes]) ih
  | array opens isLength _ ih =>
      obtain ⟨inside, mark, rfl, isClosing, balanced⟩ := isLength.balanced
      rw [List.append_assoc]
      exact balanced.enclose
        (by simp [depthAfter, opens, Symbol.opens]) isClosing ih
  | map isMap opens _ isClosing _ ihKey ihValue =>
      exact .cons (by simp [depthAfter, isMap])
        (ihKey.enclose
          (by simp [depthAfter, opens, Symbol.opens])
          (by simp [closes, isClosing, Symbol.closes]) ihValue)
  | record isFirst opens enclosed _ ih
  | interface isFirst opens enclosed _ ih =>
      obtain ⟨inside, mark, rfl, isClosing, balanced⟩ :=
        enclosed.balanced (forall_mem_map_fst ih)
      exact .cons (by simp [depthAfter, isFirst])
        (balanced.group
          (by simp [depthAfter, opens, Symbol.opens])
          (by simp [closes, isClosing, Symbol.closes]))
  | plainName isName | bareEntry isName =>
      exact .cons (by simp [depthAfter, isName]) .nil
  | genericName isName opens separated _ isClosing ih =>
      have inside := separated.balanced
        (fun mark isMark => by
          simp [depthAfter, isMark, Symbol.opens, Symbol.closes])
        (forall_mem_map_fst ih)
      exact .cons (by simp [depthAfter, isName])
        (inside.group
          (by simp [depthAfter, opens, Symbol.opens])
          (by simp [closes, isClosing, Symbol.closes]))
  | oneResult _ _ _ ih ihResult | results _ _ ih ihResult =>
      exact ih.append ihResult
  | noParameters opens isClosing =>
      exact Balanced.nil.group
        (by simp [depthAfter, opens, Symbol.opens])
        (by simp [closes, isClosing, Symbol.closes])
  | parameters opens separated _ isClosing _ ih =>
      have inside := separated.balanced
        (fun mark isMark => by
          simp [depthAfter, isMark, Symbol.opens, Symbol.closes])
        (forall_mem_map_fst ih)
      exact inside.group
        (by simp [depthAfter, opens, Symbol.opens])
        (by simp [closes, isClosing, Symbol.closes])
  | embeddedField _ tagged ih => exact ih.append tagged.balanced
  | embeddedPointer isStar _ tagged ih =>
      exact .cons
        (by simp [depthAfter, isStar, Symbol.opens, Symbol.closes])
        (ih.append tagged.balanced)
  | namedFields areNames _ tagged ih =>
      exact areNames.balanced.append (ih.append tagged.balanced)
  | union separated _ _ ih =>
      exact separated.balanced
        (fun mark isMark => by
          simp [depthAfter, isMark, Symbol.opens, Symbol.closes])
        (forall_mem_map_fst ih)

end GoUnion.Reader
