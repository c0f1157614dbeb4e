import GoUnion.Proofs.FileGrammar.Soundness
import GoUnion.Proofs.Grammar.Completeness

/-!
# The reader of files accepts their grammar

The converse of soundness for files.  A piece is accepted in front of whatever
its place in the file allows: the end of the file behind a last piece, and a
semicolon or a closing parenthesis behind any other.
-/

namespace GoUnion.Reader

variable {source : List Char} {tokens rest : List Token}

/-- What may follow a piece of a declaration, which may be the last of the file. -/
def EndsItem (last : Bool) (tokens : List Token) : Prop :=
  if last then kind tokens = .endOfFile
  else kind tokens = .symbol .semicolon ∨ kind tokens = .symbol .rightParen

theorem EndsItem.kinds
    {last : Bool} (ends : EndsItem last tokens) :
    kind tokens = .endOfFile ∨ kind tokens = .symbol .semicolon ∨
      kind tokens = .symbol .rightParen := by
  cases last with
  | true => exact .inl ends
  | false => exact .inr ends

theorem EndsItem.endsType
    {last : Bool} (ends : EndsItem last tokens) :
    EndsType tokens := by
  rcases ends.kinds with isNext | isNext | isNext
  · simp [EndsType, isNext, startsType]
  · simp [EndsType, isNext, startsType]
  · simp [EndsType, isNext, startsType]

theorem Ends.endsItem
    {ending : List Token} (ends : Ends ending rest) :
    EndsItem (atEnd ending) (ending ++ rest) := by
  rcases ends with ⟨mark, rfl, isMark⟩ | ⟨rfl, isEnd⟩
  · exact .inl isMark
  · exact isEnd

theorem Ends.terminator_eq
    {ending : List Token} (ends : Ends ending rest) :
    ∃ below, terminator .endOfFile (ending ++ rest) =
      .ok ⟨rest, below⟩ := by
  rcases ends with ⟨mark, rfl, isMark⟩ | ⟨rfl, isEnd⟩
  · exact ⟨_, terminator_append isMark rest⟩
  · exact ⟨_, terminator_of_closing (by simp) isEnd⟩

/-- The end of a piece in front of the end of the file. -/
theorem Ending.ends
    {ending next final : List Token}
    (ends : Ending ending next) (isEnd : kind final = .endOfFile) :
    Ends ending (next ++ final) := by
  cases ends with
  | semicolon isMark => exact .inl ⟨_, rfl, isMark⟩
  | endOfFile => exact .inr ⟨rfl, isEnd⟩

/-- The reader of a group accepts what the reader of an item does. -/
theorem group_append
    {α : Type} {Item : Bool → List Token → α → Prop}
    (item : (tokens : List Token) → Read α tokens)
    (starts : ∀ last tokens value, Item last tokens value →
      ∀ rest, kind (tokens ++ rest) ≠ .symbol .semicolon ∧
        kind (tokens ++ rest) ≠ .symbol .rightParen)
    (startsSingle : ∀ last tokens value, Item last tokens value →
      tokens ≠ [])
    (accepts : ∀ last tokens value, Item last tokens value →
      ∀ rest, EndsItem last rest →
        ∃ below, item (tokens ++ rest) = .ok (value, ⟨rest, below⟩))
    {ending : List Token} {values : List α}
    (grouped : Grouped Item (atEnd ending) tokens values)
    (ends : Ends ending rest) :
    ∃ below, group item (tokens ++ (ending ++ rest)) =
      .ok (values, ⟨rest, below⟩) := by
  rcases ends.terminator_eq with ⟨byEnding, terminates⟩
  cases grouped with
  | @single _ value noParens reads =>
      rcases accepts _ _ _ reads _ ends.endsItem with ⟨below, readsItem⟩
      refine ⟨Nat.lt_of_le_of_lt byEnding below, ?_⟩
      have noParens' :
          kind (tokens ++ (ending ++ rest)) ≠ .symbol .leftParen := by
        rwa [kind_append _ _ (startsSingle _ _ _ reads)]
      rw [group]
      split
      case h_1 eaten =>
        rw [eat?_of_kind noParens'] at eaten
        cases eaten
      case h_2 =>
        simp only [readsItem, ok_bind, terminates]
        rfl
  | @several opening inner parts opens enclosed reads =>
      have notSemicolon :
          TokenKind.symbol .rightParen ≠ .symbol .semicolon := by simp
      rcases items_append (inner ++ (ending ++ rest)).length
        (fun inside _ => item inside) notSemicolon enclosed
        (fun part inParts => starts _ _ _ (reads part inParts))
        (fun part inParts rest within ends =>
          accepts _ _ _ (reads part inParts) rest ends)
        (ending ++ rest) (Nat.le_refl _) with ⟨below, readsItems⟩
      rw [List.cons_append]
      refine ⟨by rw [List.length_cons]; omega, ?_⟩
      rw [group]
      split
      case h_2 eaten =>
        rw [eat?_cons _ opens] at eaten
        cases eaten
      case h_1 after shorter eaten =>
        rw [eat?_cons _ opens] at eaten
        cases eaten
        simp only [allItems, readsItems, ok_bind, terminates]
        rfl

/-! ## Imports -/

theorem importPath_cons
    {literal : Token} {path : String}
    (isPath : Tagged [literal] (some path)) (rest : List Token) :
    importPath (literal :: rest) = .ok (path, ⟨rest, Nat.lt_succ_self _⟩) := by
  cases isPath with
  | present isLiteral value =>
      rcases isLiteral with isString | isRaw
      · simp [importPath, take?_cons rest isString, value]
      · have noString : kind (literal :: rest) ≠ .string := by
          simp [isRaw]
        simp [importPath, take?_of_kind noString, take?_cons rest isRaw,
          value]

theorem importSpec_append
    {last : Bool} {spec : ImportSpec}
    (reads : ReadsImport last tokens spec) (rest : List Token) :
    ∃ below, importSpec (tokens ++ rest) = .ok (spec, ⟨rest, below⟩) := by
  cases reads with
  | @plain literal path isPath =>
      have noName : importName (literal :: rest) = none := by
        have isLiteral :
            kind (literal :: rest) ≠ .identifier ∧
              kind (literal :: rest) ≠ .symbol .dot := by
          cases isPath with
          | present isLiteral _ =>
              rcases isLiteral with isLiteral | isLiteral
              · simp [isLiteral]
              · simp [isLiteral]
        simp [importName, take?_of_kind isLiteral.1,
          take?_of_kind isLiteral.2]
      refine ⟨by simp, ?_⟩
      rw [← spanTo_of_append (rfl : _ = [literal] ++ rest) (by simp)]
      simp only [List.cons_append, List.nil_append, importSpec, noName,
        importPath_cons isPath, ok_bind]
      rfl
  | @named name literal path isName isPath =>
      have named :
          importName (name :: literal :: rest) =
            some (identifierOf name, ⟨literal :: rest, by simp⟩) := by
        rcases isName with isName | isDot
        · simp [importName, take?_cons _ isName, identifierOf]
        · have noName : kind (name :: literal :: rest) ≠ .identifier := by
            simp [isDot]
          simp [importName, take?_of_kind noName, take?_cons _ isDot,
            identifierOf]
      refine ⟨by simp only [List.length_append, List.length_cons]; omega, ?_⟩
      rw [← spanTo_of_append (rfl : _ = [name, literal] ++ rest) (by simp)]
      simp only [List.cons_append, List.nil_append, importSpec, named,
        importPath_cons isPath, ok_bind]
      rfl

theorem ReadsImport.starts
    {last : Bool} {spec : ImportSpec}
    (reads : ReadsImport last tokens spec) (rest : List Token) :
    kind (tokens ++ rest) ≠ .symbol .semicolon ∧
      kind (tokens ++ rest) ≠ .symbol .rightParen := by
  cases reads with
  | plain isPath =>
      cases isPath with
      | present isLiteral _ =>
          rcases isLiteral with isLiteral | isLiteral
          · simp [isLiteral]
          · simp [isLiteral]
  | named isName _ =>
      rcases isName with isName | isDot
      · simp [isName]
      · simp [isDot]

/-! ## Declared types -/

theorem Reads.not_comma
    {constraint : TypeExpr}
    (reads : Reads source tokens (.constraint constraint)) :
    kind tokens ≠ .symbol .comma := by
  intro isComma
  rcases reads.starts_constraint with starts | isTilde
  · rw [isComma] at starts
    cases starts
  · rw [isComma] at isTilde
    cases isTilde

theorem parametersFrom_append
    {pending : List Identifier} {parameters : List TypeParameterExpr}
    (reads : ReadsParameters source pending tokens parameters)
    (rest : List Token) :
    ∃ below, parametersFrom source pending (tokens ++ rest) =
      .ok (parameters, ⟨rest, below⟩) := by
  induction reads with
  | close isClosing =>
      refine ⟨by simp, ?_⟩
      simp only [List.cons_append, List.nil_append]
      rw [parametersFrom]
      simp [eat?_cons _ isClosing]
  | @name pending name comma tokens parameters isName isComma _ ih =>
      rcases ih with ⟨below, reads⟩
      refine ⟨by simp only [List.cons_append, List.length_cons]; omega, ?_⟩
      simp only [List.cons_append]
      have noClosing :
          kind (name :: comma :: (tokens ++ rest)) ≠
            .symbol .rightBracket := by simp [isName]
      rw [parametersFrom]
      simp only [eat?_of_kind noClosing, identifier_cons _ isName, ok_bind,
        eat?_cons _ isComma, reads]
      rfl
  | @constrained pending name comma constraintTokens tokens constraint
      parameters isName readsConstraint isComma _ ih =>
      rcases ih with ⟨below, reads⟩
      have shape :
          (name :: (constraintTokens ++ comma :: tokens)) ++ rest =
            name :: (constraintTokens ++ comma :: (tokens ++ rest)) := by
        simp
      rw [shape]
      rcases readsConstraint.accepts (comma :: (tokens ++ rest))
        (by simp [EndsType, isComma, startsType]) (by simp [isComma]) with
        ⟨within, accepts⟩
      have noClosing :
          kind (name :: (constraintTokens ++ comma :: (tokens ++ rest))) ≠
            .symbol .rightBracket := by simp [isName]
      have noComma :
          kind (constraintTokens ++ comma :: (tokens ++ rest)) ≠
            .symbol .comma := by
        rw [kind_append _ _ readsConstraint.ne_nil]
        exact readsConstraint.not_comma
      refine ⟨by simp only [List.length_cons] at within ⊢; omega, ?_⟩
      rw [parametersFrom]
      simp only [eat?_of_kind noClosing, identifier_cons _ isName, ok_bind,
        eat?_of_kind noComma, accepts, eat?_cons _ isComma, reads]
      rfl
  | @last pending name closing constraintTokens constraint isName
      readsConstraint isClosing =>
      have shape :
          (name :: (constraintTokens ++ [closing])) ++ rest =
            name :: (constraintTokens ++ closing :: rest) := by
        simp
      rw [shape]
      rcases readsConstraint.accepts (closing :: rest)
        (by simp [EndsType, isClosing, startsType]) (by simp [isClosing])
        with ⟨within, accepts⟩
      have noClosing :
          kind (name :: (constraintTokens ++ closing :: rest)) ≠
            .symbol .rightBracket := by simp [isName]
      have noComma :
          kind (constraintTokens ++ closing :: rest) ≠ .symbol .comma := by
        rw [kind_append _ _ readsConstraint.ne_nil]
        exact readsConstraint.not_comma
      have noComma' : kind (closing :: rest) ≠ .symbol .comma := by
        simp [isClosing]
      refine ⟨by simp only [List.length_cons] at within ⊢; omega, ?_⟩
      rw [parametersFrom]
      simp only [eat?_of_kind noClosing, identifier_cons _ isName, ok_bind,
        eat?_of_kind noComma, accepts, eat?_of_kind noComma',
        expect_cons _ isClosing]
      rfl

theorem typeParameters_append
    {next : List Token} {parameters : List TypeParameterExpr}
    (reads : ReadsTypeParameters source next tokens parameters)
    (same : opensParameters rest = opensParameters next) :
    ∃ below, typeParameters source (tokens ++ rest) =
      .ok (parameters, ⟨rest, below⟩) := by
  cases reads with
  | none closed =>
      refine ⟨Nat.le_refl _, ?_⟩
      simp only [List.nil_append, typeParameters, same, closed]
      rfl
  | @list opening tokens parameters opens reads =>
      rcases parametersFrom_append reads rest with ⟨below, readsList⟩
      have isOpening : opening.kind = .symbol .leftBracket := by
        simp only [opensParameters, Bool.and_eq_true,
          decide_eq_true_eq] at opens
        exact opens.1.1
      rw [← reads.opens_append rest] at opens
      refine ⟨by simp only [List.cons_append, List.length_cons]; omega, ?_⟩
      simp only [List.cons_append] at opens ⊢
      rw [typeParameters, if_pos opens]
      simp only [expect_cons _ isOpening, ok_bind, readsList]
      rfl

theorem eat_assign_append
    {isAlias : Bool} {type : TypeExpr} {typeTokens : List Token}
    (mark : AliasMark tokens isAlias)
    (reads : Reads source typeTokens (.type type)) (rest : List Token) :
    ∃ below, eat (.symbol .assign) (tokens ++ (typeTokens ++ rest)) =
      (isAlias, ⟨typeTokens ++ rest, below⟩) := by
  cases mark with
  | absent =>
      have noMark : kind (typeTokens ++ rest) ≠ .symbol .assign := by
        rw [kind_append _ _ reads.ne_nil]
        intro isMark
        have starts := reads.starts_type
        rw [isMark] at starts
        cases starts
      exact ⟨Nat.le_refl _, eat_of_kind noMark⟩
  | present isMark => exact ⟨Nat.le_succ _, eat_cons _ isMark⟩

theorem typeDeclaration_append
    {last : Bool} {declared : TypeDeclaration}
    (reads : ReadsTypeDeclaration source last tokens declared)
    (ends : EndsType rest) :
    ∃ below, typeDeclaration source (tokens ++ rest) =
      .ok (declared, ⟨rest, below⟩) := by
  cases reads with
  | @declare name parameterTokens markTokens typeTokens parameters isAlias
      type isName readsParameters mark reads =>
      have shape :
          (name :: (parameterTokens ++ (markTokens ++ typeTokens))) ++ rest =
            name :: (parameterTokens ++
              (markTokens ++ (typeTokens ++ rest))) := by
        simp
      have same :
          opensParameters (markTokens ++ (typeTokens ++ rest)) =
            opensParameters (markTokens ++ typeTokens) := by
        rw [← List.append_assoc]
        exact opensParameters_of_declaration mark reads rest
      rcases typeParameters_append readsParameters same with
        ⟨byParameters, readsList⟩
      rcases eat_assign_append mark reads rest with ⟨byMark, marked⟩
      rcases reads.accepts rest ends with ⟨byType, readsType⟩
      rw [shape]
      refine ⟨by rw [List.length_cons]; omega, ?_⟩
      rw [typeDeclaration]
      simp only [identifier_cons _ isName, ok_bind, readsList]
      generalize eat (.symbol .assign)
        (markTokens ++ (typeTokens ++ rest)) = eaten at marked
      subst marked
      simp only [readsType, ok_bind]
      rfl

theorem ReadsTypeDeclaration.starts
    {last : Bool} {declared : TypeDeclaration}
    (reads : ReadsTypeDeclaration source last tokens declared)
    (rest : List Token) :
    kind (tokens ++ rest) ≠ .symbol .semicolon ∧
      kind (tokens ++ rest) ≠ .symbol .rightParen := by
  cases reads with
  | declare isName => simp [isName]

/-! ## Constants -/

theorem extend_append
    {depth : Nat} {values : List ConstantExpr} {token : Token}
    {addTo : List ConstantExpr → List ConstantExpr}
    (accepts : ∀ {inner}, expressionsOf depth tokens = some inner →
      ∃ below, expressions depth (tokens ++ rest) =
        .ok (inner, ⟨rest, below⟩))
    (reads : (expressionsOf depth tokens).map addTo = some values) :
    ∃ below, extend addTo (expressions depth (tokens ++ rest)) =
      .ok (values, (⟨rest, below⟩ : Remainder (token :: tokens ++ rest))) := by
  rcases Option.map_eq_some_iff.mp reads with ⟨inner, readsInner, rfl⟩
  rcases accepts readsInner with ⟨below, accepted⟩
  refine ⟨Nat.le_succ_of_le below, ?_⟩
  rw [accepted]
  rfl

theorem expressions_of_end
    (ends : kind rest = .symbol .semicolon ∨
      kind rest = .symbol .rightParen) :
    expressions 0 rest = .ok ([[]], .all rest) := by
  cases rest with
  | nil =>
      rcases ends with isEnd | isEnd
      · cases isEnd
      · cases isEnd
  | cons token later =>
      rw [kind_cons] at ends
      rcases ends with isEnd | isEnd
      · simp [expressions, isEnd]
      · simp [expressions, isEnd]

theorem expressions_append
    {depth : Nat} {values : List ConstantExpr}
    (reads : expressionsOf depth tokens = some values)
    (ends : kind rest = .symbol .semicolon ∨
      kind rest = .symbol .rightParen) :
    ∃ below, expressions depth (tokens ++ rest) =
      .ok (values, ⟨rest, below⟩) := by
  induction tokens generalizing depth values with
  | nil =>
      rw [expressionsOf] at reads
      split at reads
      case isTrue isZero =>
        cases reads
        subst isZero
        exact ⟨Nat.le_refl _, expressions_of_end ends⟩
      case isFalse => cases reads
  | cons token tokens ih =>
      simp only [expressionsOf] at reads
      split at reads
      case h_1 => cases reads
      case h_2 mark isSymbol =>
        simp only [List.cons_append, expressions, isSymbol]
        split at reads
        case isTrue => cases reads
        case isFalse goesOn =>
          rw [if_neg goesOn]
          split at reads
          case isTrue comma =>
            rw [if_pos comma]
            exact extend_append ih reads
          case isFalse noComma =>
            rw [if_neg noComma]
            split at reads
            case isTrue opens =>
              rw [if_pos opens]
              exact extend_append ih reads
            case isFalse noOpening =>
              rw [if_neg noOpening]
              split at reads
              case isTrue closes =>
                rw [if_pos closes]
                exact extend_append ih reads
              case isFalse noClosing =>
                rw [if_neg noClosing]
                exact extend_append ih reads
      case h_3 notEnd notSymbol =>
        simp only [List.cons_append, expressions]
        exact extend_append ih reads

theorem constantType_absent
    (ends : kind rest = .symbol .assign ∨ kind rest = .symbol .semicolon ∨
      kind rest = .symbol .rightParen) :
    constantType source rest = .ok (.all rest) := by
  rw [constantType]
  rcases ends with isNext | isNext | isNext
  · rw [isNext]
  · rw [isNext]
  · rw [isNext]

theorem constantType_present
    {type : TypeExpr} (reads : Reads source tokens (.type type))
    (ends : EndsType rest) :
    ∃ below, constantType source (tokens ++ rest) = .ok ⟨rest, below⟩ := by
  rcases reads.accepts rest ends with ⟨below, accepted⟩
  refine ⟨Nat.le_of_lt below, ?_⟩
  have starts : startsType (kind (tokens ++ rest)) = true := by
    rw [kind_append _ _ reads.ne_nil]
    exact reads.starts_type
  simp only [constantType]
  split
  case h_1 isNext | h_2 isNext | h_3 isNext =>
    rw [isNext] at starts
    cases starts
  case h_4 =>
    simp only [accepted, ok_bind]
    rfl

theorem EndsItem.not_comma
    {last : Bool} (ends : EndsItem last tokens) :
    kind tokens ≠ .symbol .comma := by
  rcases ends.kinds with isNext | isNext | isNext
  · simp [isNext]
  · simp [isNext]
  · simp [isNext]

theorem EndsItem.not_assign
    {last : Bool} (ends : EndsItem last tokens) :
    kind tokens ≠ .symbol .assign := by
  rcases ends.kinds with isNext | isNext | isNext
  · simp [isNext]
  · simp [isNext]
  · simp [isNext]

theorem constantSpec_append
    {last : Bool} {spec : ConstantSpec}
    (reads : ReadsConstant source last tokens spec)
    (ends : EndsItem last rest) :
    ∃ below, constantSpec source (tokens ++ rest) =
      .ok (spec, ⟨rest, below⟩) := by
  cases reads with
  | names areNames =>
      rcases identifiers_append areNames ends.not_comma with
        ⟨below, readsNames⟩
      refine ⟨below, ?_⟩
      rw [constantSpec]
      simp only [readsNames, ok_bind, constantType_absent (.inr ends),
        Remainder.all_val, eat?_of_kind ends.not_assign]
      rfl
  | @typed _ nameTokens tokens names type areNames reads =>
      have noComma : kind (tokens ++ rest) ≠ .symbol .comma := by
        rw [kind_append _ _ reads.ne_nil]
        exact (Reads.single reads).not_comma
      rcases identifiers_append areNames noComma with ⟨below, readsNames⟩
      rcases constantType_present reads ends.endsType with
        ⟨byType, readsType⟩
      rw [List.append_assoc]
      refine ⟨Nat.lt_of_le_of_lt byType below, ?_⟩
      rw [constantSpec]
      simp only [readsNames, ok_bind, readsType,
        eat?_of_kind ends.not_assign]
      rfl
  | @valued nameTokens typeTokens tokens mark names values areNames hasType
      isMark areValues =>
      rcases expressions_append areValues ends with
        ⟨byValues, readsValues⟩
      have shape :
          (nameTokens ++ (typeTokens ++ mark :: tokens)) ++ rest =
            nameTokens ++ (typeTokens ++ mark :: (tokens ++ rest)) := by
        simp
      have noComma :
          kind (typeTokens ++ mark :: (tokens ++ rest)) ≠
            .symbol .comma := by
        cases hasType with
        | absent => simp [isMark]
        | present reads =>
            rw [kind_append _ _ reads.ne_nil]
            exact (Reads.single reads).not_comma
      have readsType : ∃ byType,
          constantType source (typeTokens ++ mark :: (tokens ++ rest)) =
            .ok ⟨mark :: (tokens ++ rest), byType⟩ := by
        cases hasType with
        | absent =>
            exact ⟨Nat.le_refl _, constantType_absent (.inl isMark)⟩
        | present reads =>
            exact constantType_present reads
              (by simp [EndsType, isMark, startsType])
      rcases readsType with ⟨byType, readsType⟩
      rcases identifiers_append areNames noComma with ⟨below, readsNames⟩
      rw [shape]
      refine ⟨by rw [List.length_cons] at byType; omega, ?_⟩
      rw [constantSpec]
      simp only [readsNames, ok_bind, readsType, eat?_cons _ isMark,
        readsValues]
      rfl

theorem Names.kind_eq
    {names : List Identifier} (areNames : Names tokens names)
    (rest : List Token) :
    kind (tokens ++ rest) = .identifier := by
  cases areNames with
  | one isName => exact isName
  | more isName _ _ => exact isName

theorem ReadsConstant.kind_eq
    {last : Bool} {spec : ConstantSpec}
    (reads : ReadsConstant source last tokens spec) (rest : List Token) :
    kind (tokens ++ rest) = .identifier := by
  cases reads with
  | names areNames => exact areNames.kind_eq rest
  | typed areNames _ | valued areNames _ _ _ =>
      rw [List.append_assoc]
      exact areNames.kind_eq _

/-! ## Declarations -/

theorem skipDeclaration_cons
    {start : Text.Span} {depth next : Nat} {token : Token}
    (step : passAfter depth token = some next) (tokens : List Token) :
    skipDeclaration start depth (token :: tokens) =
      (skipDeclaration start next tokens).map (·.behind token) := by
  rw [passAfter] at step
  split at step
  case isTrue => cases step
  case isFalse goesOn =>
    simp only [depthAfter] at step
    split at step
    case h_1 => cases step
    case h_2 mark isSymbol =>
      have goesOn' : ¬(depth = 0 ∧ mark = .semicolon) := by
        simpa [isSymbol] using goesOn
      simp only [skipDeclaration, isSymbol, if_neg goesOn']
      split at step
      case isTrue opens =>
        cases step
        rw [if_pos opens]
      case isFalse noOpening =>
        rw [if_neg noOpening]
        split at step
        case isTrue closes =>
          rw [if_pos closes]
          cases depth with
          | zero => cases step
          | succ depth =>
              cases step
              rfl
        case isFalse noClosing =>
          cases step
          rw [if_neg noClosing]
    case h_3 notEnd notSymbol =>
      cases step
      rw [skipDeclaration]
      split
      case h_1 isEnd => exact absurd isEnd notEnd
      case h_2 mark isSymbol => exact absurd isSymbol (notSymbol mark)
      case h_3 => rfl

theorem skipDeclaration_append
    (start : Text.Span) {depth : Nat} {ending : List Token}
    (passed : passing depth tokens = some 0) (ends : Ends ending rest) :
    ∃ below, skipDeclaration start depth (tokens ++ (ending ++ rest)) =
      .ok ⟨rest, below⟩ := by
  induction tokens generalizing depth with
  | nil =>
      obtain rfl : depth = 0 := Option.some.inj passed
      rcases ends with ⟨mark, rfl, isMark⟩ | ⟨rfl, isEnd⟩
      · refine ⟨Nat.le_succ _, ?_⟩
        simp only [List.nil_append, List.cons_append, skipDeclaration,
          isMark]
        rfl
      · refine ⟨Nat.le_refl _, ?_⟩
        cases rest with
        | nil => rfl
        | cons token rest =>
            rw [kind_cons] at isEnd
            simp only [List.nil_append, skipDeclaration, isEnd]
            rfl
  | cons token tokens ih =>
      rw [passing_cons] at passed
      rcases Option.bind_eq_some_iff.mp passed with ⟨next, step, later⟩
      rcases ih later with ⟨below, skipped⟩
      refine ⟨Nat.le_succ_of_le below, ?_⟩
      simp only [List.cons_append]
      rw [skipDeclaration_cons step, skipped]
      rfl

theorem declaration_append
    {ending : List Token} {declared : Declaration}
    (reads : ReadsDeclaration source (atEnd ending) tokens declared)
    (ends : Ends ending rest) :
    ∃ below, declaration source (tokens ++ (ending ++ rest)) =
      .ok (declared, ⟨rest, below⟩) := by
  cases reads with
  | types isType grouped =>
      rcases group_append (typeDeclaration source)
        (fun _ _ _ reads => reads.starts)
        (fun _ _ _ reads => by cases reads; simp)
        (fun _ _ _ reads rest ends =>
          typeDeclaration_append reads ends.endsType)
        grouped ends with ⟨below, readsGroup⟩
      refine ⟨Nat.lt_succ_of_lt below, ?_⟩
      simp only [List.cons_append, declaration, isType, readsGroup, ok_bind]
      rfl
  | constants isConst grouped =>
      rcases group_append (constantSpec source)
        (fun _ _ _ reads rest => by simp [reads.kind_eq])
        (fun _ _ _ reads => by
          rintro rfl
          have isName := reads.kind_eq []
          cases isName)
        (fun _ _ _ reads rest ends => constantSpec_append reads ends)
        grouped ends with ⟨below, readsGroup⟩
      refine ⟨Nat.lt_succ_of_lt below, ?_⟩
      simp only [List.cons_append, declaration, isConst, readsGroup, ok_bind]
      rfl
  | @skipped word tokens isWord passed =>
      rcases skipDeclaration_append word.span passed ends with
        ⟨below, skipped⟩
      refine ⟨Nat.lt_succ_of_le below, ?_⟩
      rcases isWord with isVar | isFunc
      · simp only [List.cons_append, declaration, isVar, skipped, ok_bind]
        rfl
      · simp only [List.cons_append, declaration, isFunc, skipped, ok_bind]
        rfl

theorem ReadsDeclaration.kind_ne
    {last : Bool} {declared : Declaration}
    (reads : ReadsDeclaration source last tokens declared)
    (rest : List Token) :
    kind (tokens ++ rest) ≠ .endOfFile ∧
      kind (tokens ++ rest) ≠ .symbol .semicolon ∧
        kind (tokens ++ rest) ≠ .keyword .import := by
  cases reads with
  | types isWord _ | constants isWord _ => simp [isWord]
  | skipped isWord _ =>
      rcases isWord with isWord | isWord
      · simp [isWord]
      · simp [isWord]

/-- Semicolons in front of a declaration are passed over. -/
theorem declarations_of_start
    {start : List Token} (same : (skipSemicolons tokens).1 = start) :
    declarations source tokens =
      if kind start = .endOfFile then .ok []
      else do
        let (first, ⟨next, _⟩) ← declaration source start
        let others ← declarations source next
        return first :: others := by
  subst same
  rw [declarations]

theorem skipSemicolons_of_other
    (other : kind tokens ≠ .symbol .semicolon) :
    (skipSemicolons tokens).1 = tokens := by
  cases tokens with
  | nil => rfl
  | cons token rest => exact skipSemicolons_of_kind rest other

theorem skipSemicolons_append_of_kind
    {semicolons : List Token} (leading : Semicolons semicolons)
    (other : kind tokens ≠ .symbol .semicolon) :
    (skipSemicolons (semicolons ++ tokens)).1 = tokens := by
  rw [skipSemicolons_append leading, skipSemicolons_of_other other]

theorem declarations_append
    {final : List Token} {list : List Declaration}
    (reads : ReadsDeclarations source tokens list)
    (isEnd : kind final = .endOfFile) :
    declarations source (tokens ++ final) = .ok list := by
  induction reads with
  | done leading =>
      rw [declarations_of_start (skipSemicolons_append_of_kind leading
        (by simp [isEnd])), if_pos isEnd]
  | @more semicolons tokens ending next first others leading reads ends _
      ih =>
      have shape :
          (semicolons ++ (tokens ++ (ending ++ next))) ++ final =
            semicolons ++ (tokens ++ (ending ++ (next ++ final))) := by
        simp
      rcases reads.kind_ne (ending ++ (next ++ final)) with
        ⟨notEnd, notSemicolon, -⟩
      rcases declaration_append reads (ends.ends isEnd) with
        ⟨below, readsFirst⟩
      rw [shape, declarations_of_start
        (skipSemicolons_append_of_kind leading notSemicolon),
        if_neg notEnd]
      simp only [readsFirst, ok_bind, ih]
      rfl

theorem ReadsDeclarations.kind_ne
    {list : List Declaration}
    (reads : ReadsDeclarations source tokens list)
    {final : List Token} (isEnd : kind final = .endOfFile) :
    kind (skipSemicolons (tokens ++ final)).1 ≠ .keyword .import ∧
      kind (skipSemicolons (tokens ++ final)).1 ≠ .symbol .semicolon := by
  cases reads with
  | done leading =>
      rw [skipSemicolons_append_of_kind leading (by simp [isEnd])]
      simp [isEnd]
  | @more semicolons tokens ending next first others leading reads ends
      later =>
      have shape :
          (semicolons ++ (tokens ++ (ending ++ next))) ++ final =
            semicolons ++ (tokens ++ (ending ++ (next ++ final))) := by
        simp
      rcases reads.kind_ne (ending ++ (next ++ final)) with
        ⟨-, notSemicolon, notImport⟩
      rw [shape, skipSemicolons_append_of_kind leading notSemicolon]
      exact ⟨notImport, notSemicolon⟩

/-- The imports end where something else starts, and the declarations are read from there. -/
theorem imports_append
    {final : List Token} {specs : List ImportSpec}
    {list : List Declaration}
    (reads : ReadsImports source tokens specs list)
    (isEnd : kind final = .endOfFile) :
    ∃ rest, imports (tokens ++ final) = .ok (specs, rest) ∧
      declarations source rest.1 = .ok list := by
  induction reads with
  | @none tokens list later =>
      have declares := declarations_append later isEnd
      rcases later.kind_ne isEnd with ⟨notImport, notSemicolon⟩
      rw [declarations_of_start rfl] at declares
      rw [imports]
      rcases skipped : skipSemicolons (tokens ++ final) with ⟨start, bound⟩
      rw [skipped] at notImport notSemicolon declares
      refine ⟨⟨start, bound⟩, ?_, ?_⟩
      · simp only [eat?_of_kind notImport]
        rfl
      · rw [declarations_of_start (skipSemicolons_of_other notSemicolon)]
        exact declares
  | @more semicolons tokens ending next word first others list leading
      isImport grouped ends _ ih =>
      rcases ih with ⟨rest, readsOthers, declares⟩
      have shape :
          (semicolons ++ word :: (tokens ++ (ending ++ next))) ++ final =
            semicolons ++
              word :: (tokens ++ (ending ++ (next ++ final))) := by
        simp
      rcases group_append importSpec
        (fun _ _ _ reads => reads.starts)
        (fun _ _ _ reads => by cases reads <;> simp)
        (fun _ _ _ reads rest _ => importSpec_append reads rest)
        grouped (ends.ends isEnd) with ⟨below, readsGroup⟩
      rw [shape, imports]
      have skipped :
          (skipSemicolons (semicolons ++
            word :: (tokens ++ (ending ++ (next ++ final))))).1 =
              word :: (tokens ++ (ending ++ (next ++ final))) :=
        skipSemicolons_append_of_kind leading (by simp [isImport])
      rcases passed : skipSemicolons (semicolons ++
        word :: (tokens ++ (ending ++ (next ++ final)))) with
        ⟨start, bound⟩
      rw [passed] at skipped
      dsimp only at skipped
      subst skipped
      simp only [eat?_cons _ isImport, readsGroup, ok_bind, readsOthers]
      exact ⟨_, rfl, declares⟩

/-- Semicolons in front of a file are passed over. -/
theorem ofTokens_of_start
    {start : List Token} (same : (skipSemicolons tokens).1 = start) :
    SourceFile.ofTokens source tokens = do
      let (_, ⟨named, _⟩) ← expect (.keyword .package) start
      let (package, ⟨afterName, _⟩) ← identifier named
      let ⟨afterClause, _⟩ ← terminator .endOfFile afterName
      let (imports, ⟨afterImports, _⟩) ← Reader.imports afterClause
      return .ofDeclarations package imports
        (← declarations source afterImports) := by
  subst same
  rfl

/-- The reader of files accepts the tokens of a file in front of the end. -/
theorem ofTokens_append
    {final : List Token} {file : SourceFile}
    (reads : ReadsFile source tokens file)
    (isEnd : kind final = .endOfFile) :
    SourceFile.ofTokens source (tokens ++ final) = .ok file := by
  cases reads with
  | @file semicolons ending next word name imports declarations leading
      isPackage isName ends later =>
      rcases imports_append later isEnd with
        ⟨rest, readsImports, declares⟩
      rcases (ends.ends isEnd).terminator_eq with ⟨below, terminates⟩
      have shape :
          (semicolons ++ word :: name :: (ending ++ next)) ++ final =
            semicolons ++ word :: name :: (ending ++ (next ++ final)) := by
        simp
      rw [shape, ofTokens_of_start (skipSemicolons_append_of_kind leading
        (by simp [isPackage]))]
      simp only [expect_cons _ isPackage, ok_bind, identifier_cons _ isName,
        terminates, readsImports, declares]
      rfl

end GoUnion.Reader
