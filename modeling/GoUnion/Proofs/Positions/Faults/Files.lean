import GoUnion.Build.Header
import GoUnion.Proofs.Positions.Faults

/-!
# Positions of syntax errors in files

The errors of the scanner stand at the text that it could not cut, those of the
reader of files at a token.  So every error of a source text stands at a valid
span of it.
-/

namespace GoUnion

open Text (Span byteLength byteLength_append)

namespace Reader

variable {text source : List Char} {tokens : List Token}

theorem keeps_allItems
    {α : Type} {closing : TokenKind}
    {item : (tokens : List Token) → Read α tokens}
    (keeps : ∀ tokens, Token.Spanned text tokens →
      Keeps text (·.2.1) (item tokens))
    (spanned : Token.Spanned text tokens) :
    Keeps text (·.2.1) (allItems closing item tokens) :=
  keeps_items (fun tokens _ => keeps tokens) spanned (Nat.le_refl _)

theorem keeps_group
    {α : Type} {item : (tokens : List Token) → Read α tokens}
    (keeps : ∀ tokens, Token.Spanned text tokens →
      Keeps text (·.2.1) (item tokens))
    (spanned : Token.Spanned text tokens) :
    Keeps text (·.2.1) (group item tokens) := by
  rw [group]
  split
  case h_1 inner shorter eaten =>
    have spanned : Token.Spanned text inner := spanned_eat? spanned eaten
    refine (keeps_allItems keeps spanned).andThen ?_
    intro members closing shorter' _ spanned
    refine (keeps_terminator _ spanned).behind ?_
    intro rest _ spanned
    exact spanned
  case h_2 =>
    refine (keeps tokens spanned).andThen ?_
    intro member closing shorter _ spanned
    refine (keeps_terminator _ spanned).behind ?_
    intro rest _ spanned
    exact spanned

/-! ## Imports -/

theorem keeps_importPath (spanned : Token.Spanned text tokens) :
    Keeps text (·.2.1) (importPath tokens) := by
  rw [importPath]
  split
  case h_1 => exact valid_current spanned
  case h_2 token rest taken =>
    have shape := cons_of_literal taken
    split
    · exact spanned_tail spanned shape
    · have isIn : token ∈ tokens := shape ▸ List.mem_cons_self
      exact (spanned.each token isIn).1

theorem keeps_importSpec (spanned : Token.Spanned text tokens) :
    Keeps text (·.2.1) (importSpec tokens) := by
  rw [importSpec]
  split
  case h_1 name afterName shorter found =>
    rcases importName_eq_some found with ⟨token, shape, -⟩
    have spanned : Token.Spanned text afterName :=
      spanned_tail spanned shape
    refine (keeps_importPath spanned).andThen ?_
    intro path rest _ _ spanned
    exact spanned
  case h_2 =>
    refine (keeps_importPath spanned).andThen ?_
    intro path rest _ _ spanned
    exact spanned

theorem keeps_imports
    {tokens : List Token} (spanned : Token.Spanned text tokens) :
    Keeps text (·.2.1) (imports tokens) := by
  have spannedStart := spanned_skipSemicolons spanned
  rw [imports]
  generalize skipSemicolons tokens = start at spannedStart ⊢
  rcases start with ⟨start, bound⟩
  dsimp only at spannedStart ⊢
  split
  case h_1 => exact spannedStart
  case h_2 inner byKeyword eaten =>
    have spanned : Token.Spanned text inner :=
      spanned_eat? spannedStart eaten
    refine (keeps_group (fun _ => keeps_importSpec) spanned).andThen ?_
    intro specs next byGroup _ spanned
    have below : next.length < tokens.length := by omega
    refine (keeps_imports spanned).andThen ?_
    intro others rest _ _ spanned
    exact spanned
  termination_by tokens.length

/-! ## Declarations -/

theorem keeps_parametersFrom
    {tokens : List Token} {pending : List Identifier}
    (spanned : Token.Spanned text tokens) :
    Keeps text (·.2.1) (parametersFrom source pending tokens) := by
  rw [parametersFrom]
  split
  case h_1 rest eaten =>
    have spanned := spanned_eat? spanned eaten
    split
    · exact spanned
    · exact valid_current spanned
  case h_2 =>
    refine (keeps_identifier spanned).andThen ?_
    intro name afterName byName _ spanned
    dsimp only
    split
    case h_1 afterComma byComma eaten =>
      have spanned : Token.Spanned text afterComma :=
        spanned_eat? spanned eaten
      refine (keeps_parametersFrom spanned).andThen ?_
      intro parameters rest _ _ spanned
      exact spanned
    case h_2 =>
      refine (keeps_constraintExpr spanned).andThen ?_
      intro constraint afterConstraint byConstraint _ spanned
      dsimp only
      split
      case h_1 afterComma byComma eaten =>
        have spanned : Token.Spanned text afterComma :=
          spanned_eat? spanned eaten
        refine (keeps_parametersFrom spanned).andThen ?_
        intro parameters rest _ _ spanned
        exact spanned
      case h_2 =>
        refine (keeps_expect _ spanned).andThen ?_
        intro closing rest _ _ spanned
        exact spanned
  termination_by tokens.length

theorem keeps_typeParameters (spanned : Token.Spanned text tokens) :
    Keeps text (·.2.1) (typeParameters source tokens) := by
  rw [typeParameters]
  split
  case isTrue =>
    refine (keeps_expect _ spanned).andThen ?_
    intro opening inner shorter _ spanned
    refine (keeps_parametersFrom spanned).andThen ?_
    intro parameters rest _ _ spanned
    exact spanned
  case isFalse => exact spanned

theorem keeps_typeDeclaration (spanned : Token.Spanned text tokens) :
    Keeps text (·.2.1) (typeDeclaration source tokens) := by
  refine (keeps_identifier spanned).andThen ?_
  intro name afterName shorter _ spanned
  refine (keeps_typeParameters spanned).andThen ?_
  intro parameters afterParameters bound _ spanned
  dsimp only
  rcases eaten : eat (.symbol .assign) afterParameters with
    ⟨isAlias, ⟨typed, bound'⟩⟩
  have spanned : Token.Spanned text typed := spanned_eat spanned eaten
  refine (keeps_typeExpr spanned).andThen ?_
  intro type rest _ _ spanned
  exact spanned

theorem keeps_constantType (spanned : Token.Spanned text tokens) :
    Keeps text (·.1) (constantType source tokens) := by
  rw [constantType]
  split
  case h_1 | h_2 | h_3 => exact spanned
  case h_4 =>
    refine (keeps_typeExpr spanned).andThen ?_
    intro type rest _ _ spanned
    exact spanned

theorem keeps_extend
    {token : Token} {rest : List Token}
    {addTo : List ConstantExpr → List ConstantExpr}
    {result : Except SyntaxError (List ConstantExpr × Remainder rest)}
    (keeps : Keeps text (·.2.1) result) :
    Keeps text (·.2.1)
      (extend addTo result :
        Except SyntaxError
          (List ConstantExpr × Remainder (token :: rest))) := by
  cases result with
  | error fault => exact keeps
  | ok value => exact keeps

theorem keeps_expressions
    (depth : Nat) (spanned : Token.Spanned text tokens) :
    Keeps text (·.2.1) (expressions depth tokens) := by
  induction tokens generalizing depth with
  | nil => exact valid_current spanned
  | cons token rest ih =>
      have later (depth : Nat) := ih depth (spanned_tail spanned rfl)
      rw [expressions]
      split
      case h_1 => exact valid_current spanned
      case h_2 =>
        split
        case isTrue => exact spanned
        case isFalse =>
          split
          case isTrue => exact keeps_extend (later 0)
          case isFalse =>
            split
            case isTrue => exact keeps_extend (later (depth + 1))
            case isFalse =>
              split
              case isTrue => exact keeps_extend (later (depth - 1))
              case isFalse => exact keeps_extend (later depth)
      case h_3 => exact keeps_extend (later depth)

theorem keeps_constantSpec (spanned : Token.Spanned text tokens) :
    Keeps text (·.2.1) (constantSpec source tokens) := by
  refine (keeps_identifiers spanned).andThen ?_
  intro names afterNames shorter _ spanned
  refine (keeps_constantType spanned).behind ?_
  intro afterType _ spanned
  dsimp only
  split
  case h_1 => exact spanned
  case h_2 afterAssign shorter' eaten =>
    have spanned : Token.Spanned text afterAssign :=
      spanned_eat? spanned eaten
    refine (keeps_expressions 0 spanned).andThen ?_
    intro values rest _ _ spanned
    exact spanned

theorem keeps_behind
    (token : Token) {rest : List Token}
    {result : Except SyntaxError (Remainder rest)}
    (keeps : Keeps text (·.1) result) :
    Keeps text (·.1) (result.map (·.behind token)) := by
  cases result with
  | error fault => exact keeps
  | ok value => exact keeps

theorem keeps_skipDeclaration
    {start : Span} (depth : Nat) (valid : start.Valid text)
    (spanned : Token.Spanned text tokens) :
    Keeps text (·.1) (skipDeclaration start depth tokens) := by
  induction tokens generalizing depth with
  | nil =>
      rw [skipDeclaration]
      split
      · exact spanned_nil
      · exact valid
  | cons token rest ih =>
      have spannedRest := spanned_tail spanned rfl
      have later (depth : Nat) := keeps_behind token (ih depth spannedRest)
      rw [skipDeclaration]
      split
      case h_1 =>
        split
        · exact spanned
        · exact valid
      case h_2 =>
        split
        case isTrue => exact spannedRest
        case isFalse =>
          split
          case isTrue => exact later (depth + 1)
          case isFalse =>
            split
            case isTrue =>
              split
              case isTrue => exact valid_current spanned
              case isFalse => exact later (depth - 1)
            case isFalse => exact later depth
      case h_3 => exact later depth

theorem keeps_declaration (spanned : Token.Spanned text tokens) :
    Keeps text (·.2.1) (declaration source tokens) := by
  unfold declaration
  split
  case h_1 => exact valid_current spanned
  case h_2 token rest =>
    have spannedRest := spanned_tail spanned rfl
    split
    case h_1 =>
      refine (keeps_group (fun _ => keeps_typeDeclaration)
        spannedRest).andThen ?_
      intro declared final _ _ spanned
      exact spanned
    case h_2 =>
      refine (keeps_group (fun _ => keeps_constantSpec)
        spannedRest).andThen ?_
      intro specs final _ _ spanned
      exact spanned
    case h_3 | h_4 =>
      have valid := (spanned.each token List.mem_cons_self).1
      refine (keeps_skipDeclaration 0 valid spannedRest).behind ?_
      intro final _ spanned
      exact spanned
    case h_5 | h_6 => exact valid_current spanned

theorem keeps_declarations
    {tokens : List Token} (spanned : Token.Spanned text tokens) :
    Keeps text (fun _ => []) (declarations source tokens) := by
  have spannedStart := spanned_skipSemicolons spanned
  rw [declarations]
  generalize skipSemicolons tokens = start at spannedStart ⊢
  rcases start with ⟨start, bound⟩
  dsimp only at spannedStart ⊢
  split
  case isTrue => exact spanned_nil
  case isFalse =>
    refine (keeps_declaration spannedStart).andThen ?_
    intro first next shorter _ spanned
    have below : next.length < tokens.length := by omega
    refine (keeps_declarations spanned).bind ?_
    intro others _ _
    exact spanned_nil
  termination_by tokens.length

theorem keeps_ofTokens (spanned : Token.Spanned text tokens) :
    Keeps text (fun _ => []) (SourceFile.ofTokens source tokens) := by
  refine (keeps_expect _ (spanned_skipSemicolons spanned)).andThen ?_
  intro word named _ _ spanned
  refine (keeps_identifier spanned).andThen ?_
  intro package afterName _ _ spanned
  refine (keeps_terminator _ spanned).behind ?_
  intro afterClause _ spanned
  refine (keeps_imports spanned).andThen ?_
  intro imports afterImports _ _ spanned
  refine (keeps_declarations spanned).bind ?_
  intro declarations _ _
  exact spanned_nil

end Reader

/-! ## Source texts -/

/-- The scanner fails at the text that it could not cut. -/
theorem Token.valid_of_tokensFrom
    {offset : Nat} {pending : Bool} {text rest : List Char}
    {error : SyntaxError}
    (fails : Token.tokensFrom offset pending rest = .error error)
    (before : List Char) (shape : text = before ++ rest)
    (isOffset : offset = byteLength before) :
    error.span.Valid text := by
  have cut (before : List Char) (c : Char) (tail : List Char)
      (extra : Nat) :
      before ++ c :: tail =
        before ++ ((c :: tail.take extra) ++ tail.drop extra) := by
    simp
  have later (before piece : List Char) :
      byteLength before + byteLength piece = byteLength (before ++ piece) :=
    (byteLength_append before piece).symm
  fun_induction Token.tokensFrom offset pending rest
    generalizing before with
  | case1 => cases fails
  | case2 offset pending c tail extra piece next isHead ih
  | case3 offset pending c tail extra piece next isHead ih
  | case6 offset pending c tail extra piece next isHead noNewline ih =>
      subst isOffset
      refine ih fails (before ++ piece) ?_ (later before piece)
      rw [shape, cut before c tail extra, List.append_assoc]
  | case4 offset pending c tail extra piece next isHead ih
  | case5 offset pending c tail extra piece next isHead isNewline ih
  | case7 offset pending c tail extra piece next kind isHead ih =>
      subst isOffset
      refine ih (map_eq_error fails) (before ++ piece) ?_
        (later before piece)
      rw [shape, cut before c tail extra, List.append_assoc]
  | case8 offset pending c tail extra piece next isHead
  | case9 offset pending c tail extra piece next isHead =>
      cases fails
      subst isOffset
      rw [shape, cut before c tail extra]
      exact Span.valid_append before piece _

/-- Every error of a source text stands at a valid span of it. -/
theorem SourceFile.valid_of_ofSource
    {text : List Char} {error : SyntaxError}
    (fails : SourceFile.ofSource text = .error error) :
    error.span.Valid text := by
  rw [SourceFile.ofSource] at fails
  cases scanned : Token.ofSource text with
  | error fault =>
      rw [scanned] at fails
      cases fails
      exact Token.valid_of_tokensFrom scanned [] rfl rfl
  | ok tokens =>
      rw [scanned, Reader.ok_bind] at fails
      have keeps : Reader.Keeps text _ (SourceFile.ofTokens text tokens) :=
        Reader.keeps_ofTokens (Token.spanned_of_ofSource scanned)
      rw [fails] at keeps
      exact keeps

/-! ## Headers -/

theorem Text.trimEnd_prefix (text : List Char) :
    Text.trimEnd text <+: text := by
  induction text with
  | nil => exact List.prefix_refl []
  | cons c rest ih =>
      rw [Text.trimEnd]
      split
      · exact List.nil_prefix
      · exact (List.prefix_cons_inj c).mpr ih

namespace Build

theorem Header.firstLine_append (text : List Char) :
    (Header.firstLine text).1 ++ (Header.firstLine text).2 = text := by
  fun_induction Header.firstLine text with
  | case1 => rfl
  | case2 => rfl
  | case3 c rest noNewline line others found ih =>
      rw [found] at ih
      exact congrArg (c :: ·) ih

/-- The constraint of a header, if there is one, stands at a valid span. -/
def Header.Placed (text : List Char) (header : Header) : Prop :=
  ∀ line span, header.expression = some (line, span) → span.Valid text

/-- A line without the white space at its end stands at a valid span. -/
theorem valid_line (before line rest : List Char) :
    Span.Valid (before ++ (line ++ rest))
      ⟨byteLength before,
        byteLength before + byteLength (Text.trimEnd line)⟩ := by
  rcases Text.trimEnd_prefix line with ⟨blank, shape⟩
  have whole :
      before ++ (line ++ rest) =
        before ++ (Text.trimEnd line ++ (blank ++ rest)) := by
    rw [← List.append_assoc (Text.trimEnd line), shape]
  rw [whole]
  exact Span.valid_append _ _ _

/-- What reading a header gives: a placed header, or an error at a valid span. -/
def Header.Keeps
    (text : List Char) : Except ConstraintError Header → Prop
  | .error error => error.span.Valid text
  | .ok header => header.Placed text

theorem Header.keeps_scanFrom
    {offset : Nat} {commentOpen : Bool} {header : Header}
    {text rest : List Char} (placed : header.Placed text)
    (before : List Char) (shape : text = before ++ rest)
    (isOffset : offset = byteLength before) :
    Header.Keeps text
      (Header.scanFrom offset commentOpen header rest) := by
  have later (before line : List Char) :
      byteLength before + byteLength line = byteLength (before ++ line) :=
    (byteLength_append before line).symm
  have cut (before : List Char) (c : Char) (rest : List Char) :
      before ++ c :: rest =
        before ++ ((Header.firstLine (c :: rest)).1 ++
          (Header.firstLine (c :: rest)).2) := by
    rw [Header.firstLine_append]
  fun_induction Header.scanFrom offset commentOpen header rest
    generalizing before with
  | case1 => exact placed
  | case2 offset commentOpen header c rest line next isLine ih
  | case3 offset commentOpen header c rest line next isLine ih =>
      subst isOffset
      refine ih placed (before ++ line) ?_ (later before line)
      rw [shape, cut before c rest, List.append_assoc]
  | case4 offset commentOpen header c rest line isLine => exact placed
  | case5 offset commentOpen header c rest line comment isLine span known =>
      subst isOffset
      change span.Valid text
      rw [shape, cut before c rest]
      exact valid_line before line _
  | case6 offset commentOpen header c rest line next comment isLine span
      unknown ih =>
      subst isOffset
      refine ih ?_ (before ++ line) ?_ (later before line)
      · intro found span' isExpression
        cases isExpression
        rw [shape, cut before c rest]
        exact valid_line before line _
      · rw [shape, cut before c rest, List.append_assoc]
  | case7 offset commentOpen header c rest line next comment isLine ih =>
      subst isOffset
      refine ih placed (before ++ line) ?_ (later before line)
      rw [shape, cut before c rest, List.append_assoc]

/-- Every fault of a build constraint stands at a valid span of the source. -/
theorem Context.valid_of_admitsSource
    {context : Context} {text : List Char} {error : ConstraintError}
    (fails : context.admitsSource text = .error error) :
    error.span.Valid text := by
  have none : Header.empty.Placed text := by
    intro line span isExpression
    cases isExpression
  have keeps : Header.Keeps text (Header.ofSource text) :=
    Header.keeps_scanFrom none [] rfl rfl
  rw [Context.admitsSource] at fails
  cases scanned : Header.ofSource text with
  | error fault =>
      rw [scanned] at fails keeps
      cases fails
      exact keeps
  | ok header =>
      rw [scanned] at fails keeps
      rw [Reader.ok_bind] at fails
      split at fails
      case h_1 line span isExpression =>
        split at fails
        · cases fails
        · cases fails
          exact keeps line span isExpression
      case h_2 => cases fails

end Build

end GoUnion
