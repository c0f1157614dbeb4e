import GoUnion.Proofs.FileGrammar
import GoUnion.Proofs.Grammar.Soundness

/-!
# Files follow their grammar

What the reader of files accepts is a file of the grammar.  The lemmas go up
through the pieces of a file as its reader does, and each takes a successful
run apart.
-/

namespace GoUnion.Reader

/-- How a piece ends in front of some tokens. -/
def Ends (ending rest : List Token) : Prop :=
  (∃ mark, ending = [mark] ∧ mark.kind = .symbol .semicolon) ∨
    (ending = [] ∧ kind rest = .endOfFile)

theorem terminator_ends
    {tokens : List Token} {rest : Remainder tokens}
    (succeeds : terminator .endOfFile tokens = .ok rest) :
    ∃ ending, tokens = ending ++ rest.1 ∧ Ends ending rest.1 ∧
      (atEnd ending = true ↔ kind tokens = .endOfFile) := by
  rcases terminator_eq_ok succeeds with
    ⟨mark, shape, isMark⟩ | ⟨shape, isEnd⟩
  · exact ⟨[mark], shape, .inl ⟨mark, rfl, isMark⟩, by
      simp [atEnd, shape, isMark]⟩
  · exact ⟨[], shape, .inr ⟨rfl, shape ▸ isEnd⟩, by
      simp [atEnd, isEnd]⟩

/-- What the reader of an item consumes determines what the reader of a group consumes. -/
theorem group_grouped
    {α : Type} (Item : Bool → List Token → α → Prop)
    {item : (tokens : List Token) → Read α tokens}
    (consumes :
      ∀ (tokens : List Token) (value : α) (rest : Shorter tokens)
        (last : Bool),
        item tokens = .ok (value, rest) →
        (last = true ↔ kind rest.1 = .endOfFile) →
          ∃ used, tokens = used ++ rest.1 ∧ Item last used value)
    {tokens : List Token} {values : List α} {rest : Shorter tokens}
    (succeeds : group item tokens = .ok (values, rest)) :
    ∃ used ending, tokens = used ++ (ending ++ rest.1) ∧
      Ends ending rest.1 ∧ Grouped Item (atEnd ending) used values := by
  simp only [group] at succeeds
  split at succeeds
  case h_1 inner byOpening eaten =>
    rcases bind_eq_ok succeeds with
      ⟨⟨members, ⟨closed, byMembers⟩⟩, readsMembers, succeeds⟩
    rcases bind_eq_ok succeeds with ⟨final, ends, succeeds⟩
    cases succeeds
    rcases eat?_eq_some eaten with ⟨opening, shape, opens⟩
    rcases items_enclosed (Item false) (by simp) (by simp)
        (fun tokens within value rest succeeds follows =>
          consumes tokens value rest false succeeds (by
            rcases follows with follows | follows
            · simp [follows]
            · simp [follows]))
        readsMembers with
      ⟨used, parts, shape', rfl, enclosed, reads⟩
    rcases terminator_ends ends with ⟨ending, shape'', ends, -⟩
    dsimp only at shape shape' shape''
    exact ⟨opening :: used, ending,
      by simp [shape, shape', shape''], ends,
      .several opens enclosed reads⟩
  case h_2 refused =>
    rcases bind_eq_ok succeeds with
      ⟨⟨member, ⟨closed, byMember⟩⟩, readsMember, succeeds⟩
    rcases bind_eq_ok succeeds with ⟨final, ends, succeeds⟩
    cases succeeds
    rcases terminator_ends ends with ⟨ending, shape', ends, isLast⟩
    rcases consumes _ _ _ (atEnd ending) readsMember isLast with
      ⟨used, shape, reads⟩
    have noParens : kind used ≠ .symbol .leftParen :=
      kind_of_append shape byMember ▸ eat?_eq_none (by simp) refused
    dsimp only at shape shape'
    exact ⟨used, ending, by simp [shape, shape'], ends,
      .single noParens reads⟩

/-! ## Imports -/

theorem importPath_tagged
    {tokens : List Token} {path : String} {rest : Shorter tokens}
    (succeeds : importPath tokens = .ok (path, rest)) :
    ∃ literal, tokens = literal :: rest.1 ∧
      Tagged [literal] (some path) := by
  simp only [importPath] at succeeds
  split at succeeds
  case h_1 => cases succeeds
  case h_2 literal later taken =>
    split at succeeds
    case h_2 => cases succeeds
    case h_1 text isText =>
      cases succeeds
      cases interpreted : take? .string tokens with
      | some found =>
          rw [interpreted, Option.some_or] at taken
          cases taken
          rcases take?_eq_some interpreted with ⟨shape, isString⟩
          exact ⟨literal, shape, .present (.inl isString) isText⟩
      | none =>
          rw [interpreted, Option.none_or] at taken
          rcases take?_eq_some taken with ⟨shape, isRaw⟩
          exact ⟨literal, shape, .present (.inr isRaw) isText⟩

theorem importName_eq_some
    {tokens : List Token} {name : Identifier} {rest : Shorter tokens}
    (found : importName tokens = some (name, rest)) :
    ∃ token, tokens = token :: rest.1 ∧ name = identifierOf token ∧
      (token.kind = .identifier ∨ token.kind = .symbol .dot) := by
  rcases Option.map_eq_some_iff.mp found with
    ⟨⟨token, later⟩, taken, result⟩
  cases result
  cases plain : take? .identifier tokens with
  | some first =>
      rw [plain, Option.some_or] at taken
      cases taken
      rcases take?_eq_some plain with ⟨shape, isName⟩
      exact ⟨token, shape, rfl, .inl isName⟩
  | none =>
      rw [plain, Option.none_or] at taken
      rcases take?_eq_some taken with ⟨shape, isDot⟩
      exact ⟨token, shape, rfl, .inr isDot⟩

theorem importSpec_consumes
    {tokens : List Token} {spec : ImportSpec} {rest : Shorter tokens}
    (succeeds : importSpec tokens = .ok (spec, rest)) (last : Bool) :
    ∃ used, tokens = used ++ rest.1 ∧ ReadsImport last used spec := by
  simp only [importSpec] at succeeds
  split at succeeds
  case h_1 name afterName byName found =>
    rcases bind_eq_ok succeeds with ⟨⟨path, later⟩, readsPath, succeeds⟩
    cases succeeds
    rcases importName_eq_some found with ⟨token, shape, rfl, isName⟩
    rcases importPath_tagged readsPath with ⟨literal, shape', isPath⟩
    dsimp only at shape
    have whole : tokens = [token, literal] ++ later.1 := by
      simp [shape, shape']
    refine ⟨[token, literal], whole, ?_⟩
    rw [spanTo_of_append whole (by simp)]
    exact .named isName isPath
  case h_2 =>
    rcases bind_eq_ok succeeds with ⟨⟨path, later⟩, readsPath, succeeds⟩
    cases succeeds
    rcases importPath_tagged readsPath with ⟨literal, shape, isPath⟩
    have whole : tokens = [literal] ++ later.1 := shape
    refine ⟨[literal], whole, ?_⟩
    rw [spanTo_of_append whole (by simp)]
    exact .plain isPath

/-! ## Declared types -/

theorem parametersFrom_consumes
    {source : List Char} {pending : List Identifier}
    {tokens : List Token} {parameters : List TypeParameterExpr}
    {rest : Shorter tokens}
    (succeeds :
      parametersFrom source pending tokens = .ok (parameters, rest)) :
    ∃ used, tokens = used ++ rest.1 ∧
      ReadsParameters source pending used parameters := by
  rw [parametersFrom] at succeeds
  split at succeeds
  case h_1 final eaten =>
    split at succeeds
    case isFalse => cases succeeds
    case isTrue isEmpty =>
      cases succeeds
      rcases eat?_eq_some eaten with ⟨closing, shape, isClosing⟩
      obtain rfl : pending = [] := List.isEmpty_iff.mp isEmpty
      exact ⟨[closing], shape, .close isClosing⟩
  case h_2 =>
    rcases identifier_bind_eq_ok succeeds with
      ⟨token, afterName, byName, shape, isName, succeeds⟩
    dsimp only at succeeds
    split at succeeds
    case h_1 afterComma byComma eaten =>
      rcases bind_eq_ok succeeds with ⟨⟨others, later⟩, reads, succeeds⟩
      cases succeeds
      rcases eat?_eq_some eaten with ⟨comma, shape', isComma⟩
      rcases parametersFrom_consumes reads with ⟨used, shape'', reads⟩
      dsimp only at shape'
      exact ⟨token :: comma :: used, by simp [shape, shape', shape''],
        .name isName isComma reads⟩
    case h_2 =>
      rcases bind_eq_ok succeeds with
        ⟨⟨constraint, ⟨afterConstraint, byConstraint⟩⟩, readsConstraint,
          succeeds⟩
      rcases constraintExpr_consumes readsConstraint with
        ⟨piece, shape', readsPiece⟩
      dsimp only at succeeds shape'
      split at succeeds
      case h_1 afterComma byComma eaten =>
        rcases bind_eq_ok succeeds with ⟨⟨others, later⟩, reads, succeeds⟩
        cases succeeds
        rcases eat?_eq_some eaten with ⟨comma, shape'', isComma⟩
        rcases parametersFrom_consumes reads with ⟨used, shapeUsed, reads⟩
        dsimp only at shape''
        exact ⟨token :: (piece ++ comma :: used),
          by simp [shape, shape', shape'', shapeUsed],
          .constrained isName readsPiece isComma reads⟩
      case h_2 =>
        rcases expect_bind_eq_ok succeeds with
          ⟨closing, final, byClosing, shape'', isClosing, succeeds⟩
        cases succeeds
        exact ⟨token :: (piece ++ [closing]),
          by simp [shape, shape', shape''],
          .last isName readsPiece isClosing⟩
  termination_by tokens.length

/-- The look-ahead over a bracket after the name of a declared type sees three tokens. -/
theorem opensParameters_append
    {front : List Token} (rest : List Token) (three : 3 ≤ front.length) :
    opensParameters (front ++ rest) = opensParameters front := by
  match front, three with
  | first :: second :: third :: others, _ => rfl

theorem opensParameters_of_kind
    {tokens : List Token} (other : kind tokens ≠ .symbol .leftBracket) :
    opensParameters tokens = false := by
  simp [opensParameters, other]

/-- Whether type parameters follow is decided inside of them. -/
theorem ReadsParameters.opens_append
    {source : List Char} {tokens : List Token} {opening : Token}
    {parameters : List TypeParameterExpr}
    (reads : ReadsParameters source [] tokens parameters)
    (rest : List Token) :
    opensParameters ((opening :: tokens) ++ rest) =
      opensParameters (opening :: tokens) := by
  cases reads with
  | close isClosing => simp [opensParameters, kindAt, isClosing]
  | name => exact opensParameters_append rest (by simp)
  | constrained =>
      refine opensParameters_append rest ?_
      simp only [List.length_cons, List.length_append]
      omega
  | last => exact opensParameters_append rest (by simp)

/-- A type that opens with a bracket takes up at least three tokens. -/
theorem Reads.three_le_length
    {source : List Char} {tokens : List Token} {type : TypeExpr}
    (reads : Reads source tokens (.type type))
    (opens : kind tokens = .symbol .leftBracket) :
    3 ≤ tokens.length := by
  cases reads with
  | named reads =>
      rw [reads.kind_of_name] at opens
      cases opens
  | slice _ _ reads =>
      have some := List.length_pos_iff.mpr reads.ne_nil
      simp only [List.length_cons]
      omega
  | array _ isLength reads =>
      have some := List.length_pos_iff.mpr reads.ne_nil
      have some' : 1 ≤ _ := List.length_pos_iff.mpr isLength.ne_nil
      simp only [List.length_cons, List.length_append]
      omega
  | parens isFirst | pointer isFirst | map isFirst | channel isFirst
  | sending isFirst | receiving isFirst | functionType isFirst
  | record isFirst | interface isFirst =>
      rw [kind_cons, isFirst] at opens
      cases opens

/-- Whether type parameters follow is decided inside the declaration. -/
theorem opensParameters_of_declaration
    {source : List Char} {markTokens typeTokens : List Token}
    {isAlias : Bool} {type : TypeExpr}
    (mark : AliasMark markTokens isAlias)
    (reads : Reads source typeTokens (.type type)) (rest : List Token) :
    opensParameters ((markTokens ++ typeTokens) ++ rest) =
      opensParameters (markTokens ++ typeTokens) := by
  cases mark with
  | absent =>
      rw [List.nil_append]
      by_cases opens : kind typeTokens = .symbol .leftBracket
      · exact opensParameters_append rest (reads.three_le_length opens)
      · have opens' : kind (typeTokens ++ rest) ≠ .symbol .leftBracket := by
          rwa [kind_append _ _ reads.ne_nil]
        rw [opensParameters_of_kind opens, opensParameters_of_kind opens']
  | present isMark =>
      rw [opensParameters_of_kind, opensParameters_of_kind]
      · simp [isMark]
      · simp [isMark]

theorem eat_aliasMark
    {tokens : List Token} {isAlias : Bool} {rest : Remainder tokens}
    (eaten : eat (.symbol .assign) tokens = (isAlias, rest)) :
    ∃ used, tokens = used ++ rest.1 ∧ AliasMark used isAlias := by
  rcases eat_skipped (.symbol .assign) (by simp) tokens with
    ⟨found, front, inner, below, shape, same, skipped⟩
  rw [same] at eaten
  cases eaten
  rcases skipped with ⟨rfl, mark, rfl, isMark⟩ | ⟨rfl, rfl, -⟩
  · exact ⟨[mark], shape, .present isMark⟩
  · exact ⟨[], shape, .absent⟩

theorem typeParameters_consumes
    {source : List Char} {tokens : List Token}
    {parameters : List TypeParameterExpr} {rest : Remainder tokens}
    (succeeds : typeParameters source tokens = .ok (parameters, rest)) :
    ∃ used, tokens = used ++ rest.1 ∧
      ∀ next, opensParameters next = opensParameters rest.1 →
        ReadsTypeParameters source next used parameters := by
  simp only [typeParameters] at succeeds
  split at succeeds
  case isTrue opens =>
    rcases expect_bind_eq_ok succeeds with
      ⟨opening, inner, byOpening, shape, -, succeeds⟩
    rcases bind_eq_ok succeeds with ⟨⟨list, later⟩, reads, succeeds⟩
    cases succeeds
    rcases parametersFrom_consumes reads with ⟨used, shape', reads⟩
    dsimp only at shape'
    have whole : tokens = (opening :: used) ++ later.1 := by
      simp [shape, shape']
    rw [whole, reads.opens_append] at opens
    exact ⟨opening :: used, whole, fun next _ => .list opens reads⟩
  case isFalse closed =>
    cases succeeds
    exact ⟨[], rfl, fun next same => .none (by simpa [same] using closed)⟩

theorem typeDeclaration_consumes
    {source : List Char} {tokens : List Token}
    {declared : TypeDeclaration} {rest : Shorter tokens}
    (succeeds : typeDeclaration source tokens = .ok (declared, rest))
    (last : Bool) :
    ∃ used, tokens = used ++ rest.1 ∧
      ReadsTypeDeclaration source last used declared := by
  rcases identifier_bind_eq_ok succeeds with
    ⟨token, afterName, byName, shape, isName, succeeds⟩
  rcases bind_eq_ok succeeds with
    ⟨⟨parameters, ⟨afterParameters, byParameters⟩⟩, readsParameters,
      succeeds⟩
  rcases marked : eat (.symbol .assign) afterParameters with
    ⟨isAlias, ⟨typed, byMark⟩⟩
  dsimp only at succeeds
  rw [marked] at succeeds
  rcases bind_eq_ok succeeds with ⟨⟨type, final⟩, readsType, succeeds⟩
  cases succeeds
  rcases typeParameters_consumes readsParameters with
    ⟨parameterTokens, shape', readsParameters⟩
  rcases eat_aliasMark marked with ⟨markTokens, shape'', mark⟩
  rcases typeExpr_consumes readsType with ⟨typeTokens, shapeType, reads⟩
  dsimp only at shape' shape'' shapeType readsParameters
  have same :
      opensParameters (markTokens ++ typeTokens) =
        opensParameters afterParameters := by
    rw [← opensParameters_of_declaration mark reads final.1]
    simp [shape'', shapeType]
  exact ⟨token :: (parameterTokens ++ (markTokens ++ typeTokens)),
    by simp [shape, shape', shape'', shapeType],
    .declare isName (readsParameters _ same) mark reads⟩

/-! ## Constants -/

/-- Expressions end in front of a semicolon or a closing parenthesis. -/
theorem expressions_eq_ok
    {depth : Nat} {tokens : List Token} {values : List ConstantExpr}
    {rest : Remainder tokens}
    (succeeds : expressions depth tokens = .ok (values, rest)) :
    ∃ used, tokens = used ++ rest.1 ∧
      expressionsOf depth used = some values ∧
      (kind rest.1 = .symbol .semicolon ∨
        kind rest.1 = .symbol .rightParen) := by
  induction tokens generalizing depth values with
  | nil => cases succeeds
  | cons token tokens ih =>
      have into :
          ∀ {depth : Nat} {addTo : List ConstantExpr → List ConstantExpr},
            extend addTo (expressions depth tokens) = .ok (values, rest) →
              ∃ used inner, tokens = used ++ rest.1 ∧
                expressionsOf depth used = some inner ∧
                addTo inner = values ∧
                (kind rest.1 = .symbol .semicolon ∨
                  kind rest.1 = .symbol .rightParen) := by
        intro depth addTo extended
        cases inside : expressions depth tokens with
        | error fault =>
            rw [inside] at extended
            cases extended
        | ok result =>
            rcases result with ⟨inner, final⟩
            rw [inside] at extended
            cases extended
            rcases ih inside with ⟨used, shape, reads, ends⟩
            exact ⟨used, inner, shape, reads, rfl, ends⟩
      simp only [expressions] at succeeds
      split at succeeds
      case h_1 => cases succeeds
      case h_2 mark isSymbol =>
        split at succeeds
        case isTrue stops =>
          cases succeeds
          refine ⟨[], rfl, by simp [expressionsOf, stops.1], ?_⟩
          rcases stops.2 with rfl | rfl
          · exact .inl isSymbol
          · exact .inr isSymbol
        case isFalse goesOn =>
          split at succeeds
          case isTrue comma =>
            rcases into succeeds with ⟨used, inner, shape, reads, rfl, ends⟩
            exact ⟨token :: used, by simp [shape],
              by simp [expressionsOf, isSymbol, comma, reads], ends⟩
          case isFalse noComma =>
            split at succeeds
            case isTrue opens =>
              rcases into succeeds with
                ⟨used, inner, shape, reads, rfl, ends⟩
              exact ⟨token :: used, by simp [shape],
                by simp [expressionsOf, isSymbol, goesOn, noComma, opens,
                  reads], ends⟩
            case isFalse noOpening =>
              split at succeeds
              case isTrue closes =>
                rcases into succeeds with
                  ⟨used, inner, shape, reads, rfl, ends⟩
                exact ⟨token :: used, by simp [shape],
                  by simp [expressionsOf, isSymbol, goesOn, noComma,
                    noOpening, closes, reads], ends⟩
              case isFalse noClosing =>
                rcases into succeeds with
                  ⟨used, inner, shape, reads, rfl, ends⟩
                exact ⟨token :: used, by simp [shape],
                  by simp [expressionsOf, isSymbol, goesOn, noComma,
                    noOpening, noClosing, reads], ends⟩
      case h_3 notEnd notSymbol =>
        rcases into succeeds with ⟨used, inner, shape, reads, rfl, ends⟩
        refine ⟨token :: used, by simp [shape], ?_, ends⟩
        rw [expressionsOf]
        split
        case h_1 isEnd => exact absurd isEnd notEnd
        case h_2 mark isSymbol => exact absurd isSymbol (notSymbol mark)
        case h_3 => rw [reads, Option.map_some]

theorem constantType_consumes
    {source : List Char} {tokens : List Token} {rest : Remainder tokens}
    (succeeds : constantType source tokens = .ok rest) :
    ∃ used, tokens = used ++ rest.1 ∧ ConstantType source used ∧
      (used = [] → kind rest.1 ≠ .endOfFile) := by
  simp only [constantType] at succeeds
  split at succeeds
  case h_1 isNext | h_2 isNext | h_3 isNext =>
    cases succeeds
    exact ⟨[], rfl, .absent, fun _ => by simp [isNext]⟩
  case h_4 =>
    rcases bind_eq_ok succeeds with ⟨⟨type, later⟩, readsType, succeeds⟩
    cases succeeds
    rcases typeExpr_consumes readsType with ⟨used, shape, reads⟩
    exact ⟨used, shape, .present reads,
      fun isEmpty => absurd isEmpty reads.ne_nil⟩

theorem constantSpec_consumes
    {source : List Char} {tokens : List Token} {spec : ConstantSpec}
    {rest : Shorter tokens}
    (succeeds : constantSpec source tokens = .ok (spec, rest))
    (last : Bool) (ends : last = true → kind rest.1 = .endOfFile) :
    ∃ used, tokens = used ++ rest.1 ∧
      ReadsConstant source last used spec := by
  rcases bind_eq_ok succeeds with
    ⟨⟨names, ⟨afterNames, byNames⟩⟩, readsNames, succeeds⟩
  rcases bind_eq_ok succeeds with ⟨afterType, readsType, succeeds⟩
  rcases identifiers_names readsNames with ⟨nameTokens, shape, areNames⟩
  rcases constantType_consumes readsType with
    ⟨typeTokens, shape', hasType, goesOn⟩
  dsimp only at succeeds shape shape'
  split at succeeds
  case h_1 =>
    cases succeeds
    cases hasType with
    | absent =>
        have notLast : last = false := by
          rw [← Bool.not_eq_true]
          intro isLast
          exact goesOn rfl (ends isLast)
        subst notLast
        exact ⟨nameTokens, by simp [shape, shape'], .names areNames⟩
    | present reads =>
        exact ⟨nameTokens ++ typeTokens, by simp [shape, shape'],
          .typed areNames reads⟩
  case h_2 afterAssign byAssign eaten =>
    rcases bind_eq_ok succeeds with ⟨⟨values, later⟩, readsValues, succeeds⟩
    cases succeeds
    rcases eat?_eq_some eaten with ⟨mark, shape'', isMark⟩
    rcases expressions_eq_ok readsValues with
      ⟨valueTokens, shapeValues, areValues, stops⟩
    have notLast : last = false := by
      rw [← Bool.not_eq_true]
      intro isLast
      have isEnd := ends isLast
      rcases stops with stops | stops
      · exact absurd (stops.symm.trans isEnd) (by simp)
      · exact absurd (stops.symm.trans isEnd) (by simp)
    subst notLast
    dsimp only at shape''
    exact ⟨nameTokens ++ (typeTokens ++ mark :: valueTokens),
      by simp [shape, shape', shape'', shapeValues],
      .valued areNames hasType isMark areValues⟩

/-! ## Declarations -/

theorem passing_cons
    (depth : Nat) (token : Token) (rest : List Token) :
    passing depth (token :: rest) =
      (passAfter depth token).bind (passing · rest) := rfl

theorem skipDeclaration_eq_ok
    {start : Text.Span} {depth : Nat} {tokens : List Token}
    {rest : Remainder tokens}
    (succeeds : skipDeclaration start depth tokens = .ok rest) :
    ∃ used ending, tokens = used ++ (ending ++ rest.1) ∧
      Ends ending rest.1 ∧ passing depth used = some 0 := by
  induction tokens generalizing depth with
  | nil =>
      simp only [skipDeclaration] at succeeds
      split at succeeds
      case isTrue isZero =>
        cases succeeds
        exact ⟨[], [], rfl, .inr ⟨rfl, rfl⟩, congrArg some isZero⟩
      case isFalse => cases succeeds
  | cons token tokens ih =>
      have into :
          ∀ {next : Nat}, passAfter depth token = some next →
            (skipDeclaration start next tokens).map (·.behind token) =
              .ok rest →
            ∃ used ending, token :: tokens = used ++ (ending ++ rest.1) ∧
              Ends ending rest.1 ∧ passing depth used = some 0 := by
        intro next step passes
        cases inside : skipDeclaration start next tokens with
        | error fault =>
            rw [inside] at passes
            cases passes
        | ok final =>
            rw [inside] at passes
            cases passes
            rcases ih inside with ⟨used, ending, shape, ends, passed⟩
            refine ⟨token :: used, ending, congrArg (token :: ·) shape,
              ends, ?_⟩
            rw [passing_cons, step]
            exact passed
      simp only [skipDeclaration] at succeeds
      split at succeeds
      case h_1 isEnd =>
        split at succeeds
        case isTrue isZero =>
          cases succeeds
          exact ⟨[], [], rfl, .inr ⟨rfl, isEnd⟩, congrArg some isZero⟩
        case isFalse => cases succeeds
      case h_2 mark isSymbol =>
        split at succeeds
        case isTrue stops =>
          cases succeeds
          rcases stops with ⟨rfl, rfl⟩
          exact ⟨[], [token], rfl, .inl ⟨token, rfl, isSymbol⟩, rfl⟩
        case isFalse goesOn =>
          have goesOn' :
              ¬(depth = 0 ∧ token.kind = .symbol .semicolon) := by
            simpa [isSymbol] using goesOn
          split at succeeds
          case isTrue opens =>
            refine into ?_ succeeds
            rw [passAfter, if_neg goesOn']
            simp [depthAfter, isSymbol, opens]
          case isFalse noOpening =>
            split at succeeds
            case isTrue closes =>
              split at succeeds
              case isTrue => cases succeeds
              case isFalse isOpen =>
                refine into ?_ succeeds
                cases depth with
                | zero => exact absurd rfl isOpen
                | succ depth =>
                    simp [passAfter, depthAfter, isSymbol, noOpening,
                      closes]
            case isFalse noClosing =>
              refine into ?_ succeeds
              rw [passAfter, if_neg goesOn']
              simp [depthAfter, isSymbol, noOpening, noClosing]
      case h_3 notEnd notSymbol =>
        refine into ?_ succeeds
        rw [passAfter, if_neg fun stops => notSymbol _ stops.2]
        exact depthAfter_eq_self depth notEnd fun mark isSymbol =>
          absurd isSymbol (notSymbol mark)

theorem skipped_consumes
    {source : List Char} {start : Text.Span} {word : Token}
    {tokens : List Token} {rest : Remainder tokens}
    (succeeds : skipDeclaration start 0 tokens = .ok rest)
    (isWord : word.kind = .keyword .var ∨ word.kind = .keyword .func) :
    ∃ used ending, word :: tokens = used ++ (ending ++ rest.1) ∧
      Ends ending rest.1 ∧
      ReadsDeclaration source (atEnd ending) used .skipped := by
  rcases skipDeclaration_eq_ok succeeds with
    ⟨used, ending, shape, ends, passed⟩
  exact ⟨word :: used, ending, congrArg (word :: ·) shape, ends,
    .skipped isWord passed⟩

theorem declaration_consumes
    {source : List Char} {tokens : List Token}
    {declared : Declaration} {rest : Shorter tokens}
    (succeeds : declaration source tokens = .ok (declared, rest)) :
    ∃ used ending, tokens = used ++ (ending ++ rest.1) ∧
      Ends ending rest.1 ∧
      ReadsDeclaration source (atEnd ending) used declared := by
  cases tokens with
  | nil => cases succeeds
  | cons word tokens =>
    simp only [declaration] at succeeds
    split at succeeds
    case h_1 isType =>
      rcases bind_eq_ok succeeds with ⟨⟨list, final⟩, reads, succeeds⟩
      cases succeeds
      rcases group_grouped (ReadsTypeDeclaration source)
          (fun tokens value rest last succeeds _ =>
            typeDeclaration_consumes succeeds last) reads with
        ⟨used, ending, shape, ends, grouped⟩
      exact ⟨word :: used, ending, congrArg (word :: ·) shape, ends,
        .types isType grouped⟩
    case h_2 isConst =>
      rcases bind_eq_ok succeeds with ⟨⟨specs, final⟩, reads, succeeds⟩
      cases succeeds
      rcases group_grouped (ReadsConstant source)
          (fun tokens value rest last succeeds isLast =>
            constantSpec_consumes succeeds last isLast.mp) reads with
        ⟨used, ending, shape, ends, grouped⟩
      exact ⟨word :: used, ending, congrArg (word :: ·) shape, ends,
        .constants isConst grouped⟩
    case h_3 isVar =>
      rcases bind_eq_ok succeeds with ⟨final, skipped, succeeds⟩
      cases succeeds
      exact skipped_consumes skipped (.inl isVar)
    case h_4 isFunc =>
      rcases bind_eq_ok succeeds with ⟨final, skipped, succeeds⟩
      cases succeeds
      exact skipped_consumes skipped (.inr isFunc)
    case h_5 => cases succeeds
    case h_6 => cases succeeds

/-- The end of a piece in front of the rest of a file. -/
theorem Ends.ending
    {ending used final : List Token}
    (ends : Ends ending (used ++ final))
    (isDone : kind (used ++ final) = .endOfFile → used = []) :
    Ending ending used := by
  rcases ends with ⟨mark, rfl, isMark⟩ | ⟨rfl, isEnd⟩
  · exact .semicolon isMark
  · obtain rfl := isDone isEnd
    exact .endOfFile

theorem skipSemicolons_of_end
    {tokens : List Token} (isEnd : kind tokens = .endOfFile) :
    (skipSemicolons tokens).1 = tokens := by
  cases tokens with
  | nil => rfl
  | cons token rest =>
      rw [kind_cons] at isEnd
      exact skipSemicolons_of_kind rest (by simp [isEnd])

theorem declarations_consumes
    {source : List Char} {tokens : List Token} {list : List Declaration}
    (succeeds : declarations source tokens = .ok list) :
    ∃ used final, tokens = used ++ final ∧ kind final = .endOfFile ∧
      ReadsDeclarations source used list ∧
      (kind tokens = .endOfFile → used = []) := by
  rcases skipSemicolons_semicolons tokens with
    ⟨semicolons, shape, leading⟩
  rw [declarations] at succeeds
  split at succeeds
  case _ start below skipped =>
    rw [skipped] at shape
    dsimp only at shape
    split at succeeds
    case isTrue isEnd =>
      cases succeeds
      refine ⟨semicolons, start, shape, isEnd, .done leading, ?_⟩
      intro endsHere
      have unmoved := skipSemicolons_of_end endsHere
      rw [skipped] at unmoved
      dsimp only at unmoved
      rw [unmoved] at shape
      simpa using shape
    case isFalse notEnd =>
      rcases bind_eq_ok succeeds with
        ⟨⟨first, ⟨next, byFirst⟩⟩, readsFirst, succeeds⟩
      rcases bind_eq_ok succeeds with ⟨others, readsOthers, succeeds⟩
      cases succeeds
      rcases declaration_consumes readsFirst with
        ⟨piece, ending, shape', ends, reads⟩
      rcases declarations_consumes readsOthers with
        ⟨used, final, shape'', isEnd, later, isDone⟩
      dsimp only at shape' shape''
      subst shape''
      refine ⟨semicolons ++ (piece ++ (ending ++ used)), final,
        by simp [shape, shape'], isEnd,
        .more leading reads (ends.ending isDone) later, ?_⟩
      intro endsHere
      have unmoved := skipSemicolons_of_end endsHere
      rw [skipped] at unmoved
      dsimp only at unmoved
      rw [unmoved] at notEnd
      exact absurd endsHere notEnd
  termination_by tokens.length

theorem Semicolons.append
    {front back : List Token}
    (first : Semicolons front) (second : Semicolons back) :
    Semicolons (front ++ back) :=
  List.forall_mem_append.mpr ⟨first, second⟩

theorem ReadsDeclarations.semicolons
    {source : List Char} {semicolons tokens : List Token}
    {list : List Declaration}
    (leading : Semicolons semicolons)
    (reads : ReadsDeclarations source tokens list) :
    ReadsDeclarations source (semicolons ++ tokens) list := by
  cases reads with
  | done leading' => exact .done (leading.append leading')
  | more leading' reads ends later =>
      rw [← List.append_assoc]
      exact .more (leading.append leading') reads ends later

theorem imports_consumes
    {source : List Char} {tokens : List Token} {specs : List ImportSpec}
    {rest : Remainder tokens} {list : List Declaration}
    (succeeds : imports tokens = .ok (specs, rest))
    (declares : declarations source rest.1 = .ok list) :
    ∃ used final, tokens = used ++ final ∧ kind final = .endOfFile ∧
      ReadsImports source used specs list ∧
      (kind tokens = .endOfFile → used = []) := by
  rcases skipSemicolons_semicolons tokens with
    ⟨semicolons, shape, leading⟩
  rw [imports] at succeeds
  split at succeeds
  case _ start below skipped =>
    rw [skipped] at shape
    dsimp only at shape
    split at succeeds
    case h_1 =>
      cases succeeds
      rcases declarations_consumes declares with
        ⟨used, final, shape', isEnd, later, isDone⟩
      dsimp only [Remainder.within_val, Remainder.all_val] at shape' isDone
      refine ⟨semicolons ++ used, final, by simp [shape, shape'], isEnd,
        .none (later.semicolons leading), ?_⟩
      intro endsHere
      have unmoved := skipSemicolons_of_end endsHere
      rw [skipped] at unmoved
      dsimp only at unmoved
      rw [isDone (unmoved ▸ endsHere), List.append_nil]
      rw [unmoved] at shape
      simpa using shape
    case h_2 inner byKeyword eaten =>
      rcases bind_eq_ok succeeds with
        ⟨⟨first, ⟨next, byGroup⟩⟩, readsFirst, succeeds⟩
      rcases bind_eq_ok succeeds with
        ⟨⟨others, afterOthers⟩, readsOthers, succeeds⟩
      cases succeeds
      rcases eat?_eq_some eaten with ⟨word, shapeWord, isImport⟩
      rcases group_grouped ReadsImport
          (fun tokens value rest last succeeds _ =>
            importSpec_consumes succeeds last) readsFirst with
        ⟨piece, ending, shapePiece, ends, grouped⟩
      rcases imports_consumes readsOthers declares with
        ⟨used, final, shapeUsed, isEnd, later, isDone⟩
      dsimp only at shapeWord shapePiece shapeUsed
      subst shapeUsed
      refine ⟨semicolons ++ word :: (piece ++ (ending ++ used)), final,
        by simp [shape, shapeWord, shapePiece], isEnd,
        .more leading isImport grouped (ends.ending isDone) later, ?_⟩
      intro endsHere
      have unmoved := skipSemicolons_of_end endsHere
      rw [skipped] at unmoved
      dsimp only at unmoved
      rw [← unmoved, shapeWord, kind_cons, isImport] at endsHere
      cases endsHere
  termination_by tokens.length

/-- The tokens of a file, without the one for its end, form what its reader returns. -/
theorem ofTokens_consumes
    {source : List Char} {tokens : List Token} {file : SourceFile}
    (succeeds : SourceFile.ofTokens source tokens = .ok file) :
    ∃ used final, tokens = used ++ final ∧ kind final = .endOfFile ∧
      ReadsFile source used file := by
  rcases expect_bind_eq_ok succeeds with
    ⟨word, named, byWord, shapeWord, isPackage, succeeds⟩
  rcases identifier_bind_eq_ok succeeds with
    ⟨token, afterName, byName, shapeName, isName, succeeds⟩
  rcases bind_eq_ok succeeds with
    ⟨⟨afterClause, byClause⟩, ends, succeeds⟩
  rcases bind_eq_ok succeeds with
    ⟨⟨imports, ⟨afterImports, byImports⟩⟩, readsImports, succeeds⟩
  rcases bind_eq_ok succeeds with ⟨list, declares, succeeds⟩
  cases succeeds
  rcases skipSemicolons_semicolons tokens with
    ⟨semicolons, shape, leading⟩
  rcases terminator_ends ends with ⟨ending, shapeEnding, ends, -⟩
  rcases imports_consumes readsImports declares with
    ⟨used, final, shapeUsed, isEnd, later, isDone⟩
  dsimp only at shapeEnding shapeUsed
  subst shapeUsed
  exact ⟨semicolons ++ word :: token :: (ending ++ used), final,
    by simp [shape, shapeWord, shapeName, shapeEnding], isEnd,
    .file leading isPackage isName (ends.ending isDone) later⟩

end GoUnion.Reader
