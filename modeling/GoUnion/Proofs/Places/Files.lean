import GoUnion.Proofs.FileGrammar
import GoUnion.Proofs.Places.Grammar

/-!
# Reading declarations in another place

Tokens that say the same in another place declare the same, up to places.  The
expressions of a constant are evaluated by what their tokens say, so a constant
keeps its value.
-/

namespace GoUnion

open Token
open Text (Span)

/-! ## Leaving places out -/

/-- A declared type without its places. -/
def TypeDeclaration.unplaced
    (declaration : TypeDeclaration) : TypeDeclaration :=
  ⟨declaration.identifier.unplaced,
    declaration.parameters.map (·.unplaced), declaration.isAlias,
    declaration.type.unplaced⟩

/-- A declared type with another type expression. -/
def TypeDeclaration.withType
    (declaration : TypeDeclaration) (type : TypeExpr) : TypeDeclaration :=
  ⟨declaration.identifier, declaration.parameters, declaration.isAlias,
    type⟩

/-- A constant without its place. -/
def ConstantDeclaration.unplaced
    (declaration : ConstantDeclaration) : ConstantDeclaration :=
  ⟨declaration.identifier.unplaced, declaration.value⟩

/-- An import without its place. -/
def ImportSpec.unplaced (spec : ImportSpec) : ImportSpec :=
  ⟨spec.identifier.map (·.unplaced), spec.path, default⟩

/-- A source file without its places. -/
def SourceFile.unplaced (file : SourceFile) : SourceFile :=
  ⟨file.package.unplaced, file.imports.map (·.unplaced),
    file.types.map (·.unplaced), file.constants.map (·.unplaced)⟩

namespace Reader

/-- A declaration without its places. -/
def Declaration.unplaced : Declaration → Declaration
  | .types declared => .types (declared.map (·.unplaced))
  | .constants declared => .constants (declared.map (·.unplaced))
  | .skipped => .skipped

variable {source : List Char} (source' : List Char)
  {tokens tokens' ending ending' next next' : List Token}

/-! ## Groups -/

omit source' in
theorem Ending.moved
    (ends : Ending ending next) (same : words ending = words ending')
    (sameNext : words next = words next') :
    Ending ending' next' := by
  cases ends with
  | semicolon isMark =>
      rcases exists_singleton_of_words same with ⟨mark', rfl, sameMark⟩
      exact .semicolon (kind_congr sameMark ▸ isMark)
  | endOfFile =>
      cases eq_nil_of_words same
      cases eq_nil_of_words sameNext
      exact .endOfFile

theorem atEnd_moved (same : words ending = words ending') :
    atEnd ending' = atEnd ending := by
  cases ending with
  | nil => rw [eq_nil_of_words same]
  | cons mark ending =>
      rcases exists_cons_of_words same with ⟨mark', rest', rfl, -, -⟩
      rfl

theorem Grouped.moved
    {α : Type} {Item : Bool → List Token → α → Prop}
    (Item' : Bool → List Token → α → Prop) (Same : α → α → Prop)
    (each : ∀ last tokens value tokens', Item last tokens value →
      words tokens = words tokens' →
        ∃ value', Item' last tokens' value' ∧ Same value value')
    {last : Bool} {values : List α}
    (grouped : Grouped Item last tokens values)
    (same : words tokens = words tokens') :
    ∃ values', Grouped Item' last tokens' values' ∧
      List.Forall₂ Same values values' := by
  cases grouped with
  | single noParens reads =>
      rcases each _ _ _ _ reads same with ⟨value', reads', sameValue⟩
      exact ⟨[value'], .single (kind_moved same ▸ noParens) reads',
        .cons sameValue .nil⟩
  | several opens enclosed reads =>
      rcases exists_cons_of_words same with
        ⟨opening', _, rfl, sameOpening, later⟩
      rcases enclosed.moved later with ⟨pieces', enclosed', samePieces⟩
      rcases exists_moved_parts (Item' false) Same samePieces
          (fun part isIn tokens' => each _ _ _ _ (reads part isIn)) with
        ⟨parts', rfl, reads', sameValues⟩
      exact ⟨_,
        .several (kind_congr sameOpening ▸ opens) enclosed' reads',
        sameValues⟩

/-! ## Imports -/

theorem ReadsImport.moved
    {last : Bool} {spec : ImportSpec}
    (reads : ReadsImport last tokens spec)
    (same : words tokens = words tokens') :
    ∃ spec', ReadsImport last tokens' spec' ∧
      spec'.unplaced = spec.unplaced := by
  cases reads with
  | plain isPath =>
      rcases exists_singleton_of_words same with ⟨literal', rfl, -⟩
      exact ⟨_, .plain (isPath.moved same), rfl⟩
  | named isName isPath =>
      rcases exists_cons_of_words same with
        ⟨name', _, rfl, sameName, later⟩
      rcases exists_singleton_of_words later with ⟨literal', rfl, -⟩
      refine ⟨_,
        .named (kind_congr sameName ▸ isName) (isPath.moved later), ?_⟩
      rw [ImportSpec.unplaced, ImportSpec.unplaced, Option.map_some,
        Option.map_some, identifierOf_moved sameName]

/-! ## Types -/

theorem ReadsParameters.moved
    {pending pending' : List Identifier}
    {parameters : List TypeParameterExpr}
    (reads : ReadsParameters source pending tokens parameters)
    (samePending :
      pending'.map (·.unplaced) = pending.map (·.unplaced))
    (same : words tokens = words tokens') :
    ∃ parameters',
      ReadsParameters source' pending' tokens' parameters' ∧
        parameters'.map (·.unplaced) = parameters.map (·.unplaced) := by
  have longer {pending pending' : List Identifier} {name name' : Token}
      (samePending :
        pending'.map (·.unplaced) = pending.map (·.unplaced))
      (sameName : word name = word name') :
      (pending' ++ [identifierOf name']).map (·.unplaced) =
        (pending ++ [identifierOf name]).map (·.unplaced) := by
    rw [List.map_append, List.map_append, samePending,
      List.map_singleton, List.map_singleton,
      identifierOf_moved sameName]
  have typed {names names' : List Identifier} {type type' : TypeExpr}
      (sameNames : names'.map (·.unplaced) = names.map (·.unplaced))
      (sameType : type'.unplaced = type.unplaced) :
      (names'.map fun name => TypeParameterExpr.mk name type').map
          (·.unplaced) =
        (names.map fun name => TypeParameterExpr.mk name type).map
          (·.unplaced) := by
    have made (names : List Identifier) (type : TypeExpr) :
        (names.map fun name => TypeParameterExpr.mk name type).map
            (·.unplaced) =
          (names.map (·.unplaced)).map fun name =>
            ⟨name, type.unplaced⟩ := by
      rw [List.map_map, List.map_map]
      rfl
    rw [made, made, sameNames, sameType]
  induction reads generalizing pending' tokens' with
  | close isClosing =>
      cases List.map_eq_nil_iff.mp samePending
      rcases exists_singleton_of_words same with
        ⟨closing', rfl, sameClosing⟩
      exact ⟨[], .close (kind_congr sameClosing ▸ isClosing), rfl⟩
  | name isName isComma _ ih =>
      rcases exists_cons_of_words same with
        ⟨name', _, rfl, sameName, later⟩
      rcases exists_cons_of_words later with
        ⟨comma', rest', rfl, sameComma, later⟩
      rcases ih (longer samePending sameName) later with
        ⟨parameters', reads', sameParameters⟩
      exact ⟨parameters',
        .name (kind_congr sameName ▸ isName)
          (kind_congr sameComma ▸ isComma) reads', sameParameters⟩
  | constrained isName reads isComma _ ih =>
      rcases exists_cons_of_words same with
        ⟨name', _, rfl, sameName, later⟩
      rcases exists_append_of_words later with
        ⟨constraint', _, rfl, sameConstraint, later⟩
      rcases exists_cons_of_words later with
        ⟨comma', rest', rfl, sameComma, later⟩
      rcases reads.moved source' sameConstraint with
        ⟨moved, reads', sameType⟩
      rcases ih rfl later with ⟨parameters', later', sameParameters⟩
      refine ⟨_,
        .constrained (kind_congr sameName ▸ isName) reads'
          (kind_congr sameComma ▸ isComma) later', ?_⟩
      have appended (front back : List TypeParameterExpr) :
          (front ++ back).map (·.unplaced) =
            front.map (·.unplaced) ++ back.map (·.unplaced) :=
        List.map_append
      rw [appended, appended, typed (longer samePending sameName) sameType,
        sameParameters]
  | last isName reads isClosing =>
      rcases exists_cons_of_words same with
        ⟨name', _, rfl, sameName, later⟩
      rcases exists_append_of_words later with
        ⟨constraint', _, rfl, sameConstraint, later⟩
      rcases exists_singleton_of_words later with
        ⟨closing', rfl, sameClosing⟩
      rcases reads.moved source' sameConstraint with
        ⟨moved, reads', sameType⟩
      exact ⟨_,
        .last (kind_congr sameName ▸ isName) reads'
          (kind_congr sameClosing ▸ isClosing),
        typed (longer samePending sameName) sameType⟩

theorem opensParameters_congr (same : words tokens = words tokens') :
    opensParameters tokens' = opensParameters tokens := by
  simp only [opensParameters, kind, kindAt_congr same]
  rfl

theorem ReadsTypeParameters.moved
    {parameters : List TypeParameterExpr}
    (reads : ReadsTypeParameters source next tokens parameters)
    (closed : opensParameters next = false → opensParameters next' = false)
    (same : words tokens = words tokens') :
    ∃ parameters',
      ReadsTypeParameters source' next' tokens' parameters' ∧
        parameters'.map (·.unplaced) = parameters.map (·.unplaced) := by
  cases reads with
  | none isClosed =>
      cases eq_nil_of_words same
      exact ⟨[], .none (closed isClosed), rfl⟩
  | list opens reads =>
      rw [← opensParameters_congr same] at opens
      rcases exists_cons_of_words same with
        ⟨opening', rest', rfl, -, later⟩
      rcases reads.moved source' rfl later with
        ⟨parameters', reads', sameParameters⟩
      exact ⟨parameters', .list opens reads', sameParameters⟩

theorem AliasMark.moved
    {isAlias : Bool} (mark : AliasMark tokens isAlias)
    (same : words tokens = words tokens') :
    AliasMark tokens' isAlias := by
  cases mark with
  | absent =>
      cases eq_nil_of_words same
      exact .absent
  | present isMark =>
      rcases exists_singleton_of_words same with ⟨mark', rfl, sameMark⟩
      exact .present (kind_congr sameMark ▸ isMark)

theorem ReadsTypeDeclaration.moved
    {last : Bool} {declaration : TypeDeclaration}
    (reads : ReadsTypeDeclaration source last tokens declaration)
    (same : words tokens = words tokens') :
    ∃ declaration',
      ReadsTypeDeclaration source' last tokens' declaration' ∧
        declaration'.unplaced = declaration.unplaced := by
  cases reads with
  | declare isName readsParameters mark reads =>
      rcases exists_cons_of_words same with
        ⟨name', _, rfl, sameName, later⟩
      rcases exists_append_of_words later with
        ⟨parameterTokens', _, rfl, sameTokens, later⟩
      have sameNext := opensParameters_congr later
      rcases exists_append_of_words later with
        ⟨markTokens', typeTokens', rfl, sameMark, later⟩
      rcases readsParameters.moved source' (sameNext.trans ·) sameTokens
        with ⟨parameters', readsParameters', sameParameters⟩
      rcases reads.moved source' later with ⟨moved, reads', sameType⟩
      refine ⟨_,
        .declare (kind_congr sameName ▸ isName) readsParameters'
          (mark.moved sameMark) reads', ?_⟩
      rw [TypeDeclaration.unplaced, TypeDeclaration.unplaced,
        identifierOf_moved sameName, sameParameters, sameType]

/-! ## Constants -/

theorem evaluate_congr
    {iota : Nat} (same : words tokens = words tokens') :
    ConstantSpec.evaluate iota tokens' =
      ConstantSpec.evaluate iota tokens := by
  rcases tokens with _ | ⟨first, _ | ⟨second, rest⟩⟩
  · rw [eq_nil_of_words same]
  · rcases exists_singleton_of_words same with ⟨first', rfl, sameFirst⟩
    simp only [ConstantSpec.evaluate, kind_congr sameFirst,
      text_congr sameFirst]
  · rcases exists_cons_of_words same with ⟨first', _, rfl, -, later⟩
    rcases exists_cons_of_words later with ⟨second', rest', rfl, -, -⟩
    rfl

theorem intoFirst_moved
    {token token' : Token} {values values' : List ConstantExpr}
    (sameToken : word token = word token')
    (same : List.Forall₂ SameWords values values') :
    List.Forall₂ SameWords (intoFirst token values)
      (intoFirst token' values') := by
  have cons {front back : List Token} (same : SameWords front back) :
      SameWords (token :: front) (token' :: back) := by
    rw [SameWords, words_cons, words_cons, sameToken, same]
  cases same with
  | nil => exact .cons (cons rfl) .nil
  | cons first others => exact .cons (cons first) others

theorem expressionsOf_moved
    {depth : Nat} {values : List ConstantExpr}
    (found : expressionsOf depth tokens = some values)
    (same : words tokens = words tokens') :
    ∃ values', expressionsOf depth tokens' = some values' ∧
      List.Forall₂ SameWords values values' := by
  induction tokens generalizing tokens' depth values with
  | nil =>
      cases eq_nil_of_words same
      refine ⟨values, found, ?_⟩
      exact List.forall₂_same.mpr fun _ _ => rfl
  | cons token tokens ih =>
      rcases exists_cons_of_words same with
        ⟨token', rest', rfl, sameToken, later⟩
      have into {depth : Nat} {values : List ConstantExpr}
          (found :
            (expressionsOf depth tokens).map (intoFirst token) =
              some values) :
          ∃ values',
            (expressionsOf depth rest').map (intoFirst token') =
                some values' ∧
              List.Forall₂ SameWords values values' := by
        rcases Option.map_eq_some_iff.mp found with ⟨inner, isInner, rfl⟩
        rcases ih isInner later with ⟨inner', isInner', sameInner⟩
        exact ⟨_, by rw [isInner', Option.map_some],
          intoFirst_moved sameToken sameInner⟩
      rw [expressionsOf] at found ⊢
      rw [← kind_congr sameToken]
      cases isKind : token.kind with
      | symbol mark =>
          rw [isKind] at found
          dsimp only at found ⊢
          split at found
          case isTrue => cases found
          case isFalse notEnd =>
            rw [if_neg notEnd]
            split at found
            case isTrue isComma =>
              rw [if_pos isComma]
              rcases Option.map_eq_some_iff.mp found with
                ⟨inner, isInner, rfl⟩
              rcases ih isInner later with ⟨inner', isInner', sameInner⟩
              exact ⟨_, by rw [isInner', Option.map_some],
                .cons rfl sameInner⟩
            case isFalse notComma =>
              rw [if_neg notComma]
              split at found
              case isTrue opens =>
                rw [if_pos opens]
                exact into found
              case isFalse notOpens =>
                rw [if_neg notOpens]
                split at found
                case isTrue closes =>
                  rw [if_pos closes]
                  exact into found
                case isFalse notCloses =>
                  rw [if_neg notCloses]
                  exact into found
      | endOfFile =>
          rw [isKind] at found
          cases found
      | identifier | number | rune | string | rawString | keyword
      | assignment =>
          rw [isKind] at found
          exact into found

/-- Two specifications that declare the same. -/
structure SameSpec (spec spec' : ConstantSpec) : Prop where
  identifiers :
    spec'.identifiers.map (·.unplaced) =
      spec.identifiers.map (·.unplaced)
  expressions :
    Option.Rel (List.Forall₂ SameWords) spec.expressions spec'.expressions

theorem declare_moved
    {iota : Nat} {names names' : List Identifier}
    {values values' : List ConstantExpr}
    (sameNames : names'.map (·.unplaced) = names.map (·.unplaced))
    (same : List.Forall₂ SameWords values values') :
    (ConstantSpec.declare iota names' values').map (·.unplaced) =
      (ConstantSpec.declare iota names values).map (·.unplaced) := by
  induction names generalizing names' values values' with
  | nil =>
      cases List.map_eq_nil_iff.mp sameNames
      cases same with
      | nil => rfl
      | cons => rfl
  | cons name names ih =>
      rcases List.map_eq_cons_iff.mp sameNames with
        ⟨name', rest', rfl, sameName, sameRest⟩
      cases same with
      | nil =>
          rw [ConstantSpec.declare, ConstantSpec.declare, List.map_cons,
            List.map_cons, ih sameRest .nil]
          rw [ConstantDeclaration.unplaced, ConstantDeclaration.unplaced,
            sameName]
      | cons first others =>
          rw [ConstantSpec.declare, ConstantSpec.declare, List.map_cons,
            List.map_cons, ih sameRest others, evaluate_congr first]
          rw [ConstantDeclaration.unplaced, ConstantDeclaration.unplaced,
            sameName]

theorem declareFrom_moved
    {iota : Nat} {previous previous' : List ConstantExpr}
    {specs specs' : List ConstantSpec}
    (samePrevious : List.Forall₂ SameWords previous previous')
    (same : List.Forall₂ SameSpec specs specs') :
    (ConstantSpec.declareFrom iota previous' specs').map (·.unplaced) =
      (ConstantSpec.declareFrom iota previous specs).map
        (·.unplaced) := by
  induction same generalizing iota previous previous' with
  | nil => rfl
  | @cons spec spec' specs specs' first _ ih =>
      have inForce :
          List.Forall₂ SameWords (spec.expressions.getD previous)
            (spec'.expressions.getD previous') := by
        have sameValues := first.expressions
        generalize spec.expressions = values at sameValues
        generalize spec'.expressions = values' at sameValues
        cases sameValues with
        | none => exact samePrevious
        | some sameValues => exact sameValues
      rw [ConstantSpec.declareFrom, ConstantSpec.declareFrom]
      rw [List.map_append, List.map_append,
        declare_moved first.identifiers inForce, ih inForce]

theorem ConstantType.moved
    (hasType : ConstantType source tokens)
    (same : words tokens = words tokens') :
    ConstantType source' tokens' := by
  cases hasType with
  | absent =>
      cases eq_nil_of_words same
      exact .absent
  | present reads =>
      rcases reads.moved source' same with ⟨moved, reads', -⟩
      exact .present reads'

theorem ReadsConstant.moved
    {last : Bool} {spec : ConstantSpec}
    (reads : ReadsConstant source last tokens spec)
    (same : words tokens = words tokens') :
    ∃ spec', ReadsConstant source' last tokens' spec' ∧
      SameSpec spec spec' := by
  cases reads with
  | names areNames =>
      rcases areNames.moved same with ⟨names', areNames', sameNames⟩
      exact ⟨_, .names areNames', sameNames, .none⟩
  | typed areNames reads =>
      rcases exists_append_of_words same with
        ⟨nameTokens', typeTokens', rfl, sameTokens, later⟩
      rcases areNames.moved sameTokens with
        ⟨names', areNames', sameNames⟩
      rcases reads.moved source' later with ⟨moved, reads', -⟩
      exact ⟨_, .typed areNames' reads', sameNames, .none⟩
  | valued areNames hasType isMark areValues =>
      rcases exists_append_of_words same with
        ⟨nameTokens', _, rfl, sameTokens, later⟩
      rcases exists_append_of_words later with
        ⟨typeTokens', _, rfl, sameType, later⟩
      rcases exists_cons_of_words later with
        ⟨mark', values', rfl, sameMark, later⟩
      rcases areNames.moved sameTokens with
        ⟨names', areNames', sameNames⟩
      rcases expressionsOf_moved areValues later with
        ⟨values', areValues', sameValues⟩
      exact ⟨_,
        .valued areNames' (hasType.moved source' sameType)
          (kind_congr sameMark ▸ isMark) areValues',
        sameNames, .some sameValues⟩

/-! ## Declarations -/

theorem passing_congr
    (same : words tokens = words tokens') (depth : Nat) :
    passing depth tokens = passing depth tokens' := by
  induction tokens generalizing tokens' depth with
  | nil =>
      cases eq_nil_of_words same
      rfl
  | cons token tokens ih =>
      rcases exists_cons_of_words same with
        ⟨token', rest', rfl, first, later⟩
      have sameStep : passAfter depth token = passAfter depth token' := by
        simp only [passAfter, kind_congr first, depthAfter_congr first]
      rw [passing, passing, List.foldlM_cons, List.foldlM_cons, sameStep]
      cases passAfter depth token' with
      | none => rfl
      | some next => exact ih later next

theorem ReadsDeclaration.moved
    {last : Bool} {declaration : Declaration}
    (reads : ReadsDeclaration source last tokens declaration)
    (same : words tokens = words tokens') :
    ∃ declaration',
      ReadsDeclaration source' last tokens' declaration' ∧
        declaration'.unplaced = declaration.unplaced := by
  cases reads with
  | types isType grouped =>
      rcases exists_cons_of_words same with
        ⟨word', rest', rfl, sameWord, later⟩
      rcases grouped.moved (ReadsTypeDeclaration source')
          (fun declared declared' =>
            declared'.unplaced = declared.unplaced)
          (fun _ _ _ _ => ReadsTypeDeclaration.moved source') later with
        ⟨declared', grouped', sameDeclared⟩
      refine ⟨_, .types (kind_congr sameWord ▸ isType) grouped', ?_⟩
      rw [Declaration.unplaced, Declaration.unplaced,
        map_eq_map_of_forall₂ sameDeclared]
  | constants isConst grouped =>
      rcases exists_cons_of_words same with
        ⟨word', rest', rfl, sameWord, later⟩
      rcases grouped.moved (ReadsConstant source') SameSpec
          (fun _ _ _ _ => ReadsConstant.moved source') later with
        ⟨specs', grouped', sameSpecs⟩
      refine ⟨_, .constants (kind_congr sameWord ▸ isConst) grouped', ?_⟩
      rw [Declaration.unplaced, Declaration.unplaced,
        ConstantSpec.declareAll, ConstantSpec.declareAll,
        declareFrom_moved .nil sameSpecs]
  | skipped isWord passed =>
      rcases exists_cons_of_words same with
        ⟨word', rest', rfl, sameWord, later⟩
      exact ⟨.skipped,
        .skipped (kind_congr sameWord ▸ isWord)
          (passing_congr later 0 ▸ passed), rfl⟩

theorem ReadsDeclarations.moved
    {declarations : List Declaration}
    (reads : ReadsDeclarations source tokens declarations)
    (same : words tokens = words tokens') :
    ∃ declarations', ReadsDeclarations source' tokens' declarations' ∧
      declarations'.map (·.unplaced) = declarations.map (·.unplaced) := by
  induction reads generalizing tokens' with
  | done leading => exact ⟨[], .done (leading.moved same), rfl⟩
  | more leading reads ends _ ih =>
      rcases exists_append_of_words same with
        ⟨semicolons', _, rfl, sameSemicolons, later⟩
      rcases exists_append_of_words later with
        ⟨piece', _, rfl, samePiece, later⟩
      rcases exists_append_of_words later with
        ⟨ending', next', rfl, sameEnding, later⟩
      rw [← atEnd_moved sameEnding] at reads
      rcases reads.moved source' samePiece with
        ⟨first', reads', sameFirst⟩
      rcases ih later with ⟨others', later', sameOthers⟩
      refine ⟨first' :: others',
        .more (leading.moved sameSemicolons) reads'
          (ends.moved sameEnding later) later', ?_⟩
      rw [List.map_cons, List.map_cons, sameFirst, sameOthers]

/-! ## Files -/

theorem ReadsImports.moved
    {specs : List ImportSpec} {declarations : List Declaration}
    (reads : ReadsImports source tokens specs declarations)
    (same : words tokens = words tokens') :
    ∃ specs' declarations',
      ReadsImports source' tokens' specs' declarations' ∧
        specs'.map (·.unplaced) = specs.map (·.unplaced) ∧
          declarations'.map (·.unplaced) =
            declarations.map (·.unplaced) := by
  induction reads generalizing tokens' with
  | none later =>
      rcases later.moved source' same with
        ⟨declarations', later', sameLater⟩
      exact ⟨[], declarations', .none later', rfl, sameLater⟩
  | more leading isImport grouped ends _ ih =>
      rcases exists_append_of_words same with
        ⟨semicolons', _, rfl, sameSemicolons, later⟩
      rcases exists_cons_of_words later with
        ⟨word', _, rfl, sameWord, later⟩
      rcases exists_append_of_words later with
        ⟨piece', _, rfl, samePiece, later⟩
      rcases exists_append_of_words later with
        ⟨ending', next', rfl, sameEnding, later⟩
      rw [← atEnd_moved sameEnding] at grouped
      rcases grouped.moved ReadsImport
          (fun spec spec' => spec'.unplaced = spec.unplaced)
          (fun _ _ _ _ => ReadsImport.moved) samePiece with
        ⟨first', grouped', sameFirst⟩
      rcases ih later with ⟨others', declarations', later', sameOthers, same⟩
      refine ⟨first' ++ others', declarations',
        .more (leading.moved sameSemicolons)
          (kind_congr sameWord ▸ isImport) grouped'
          (ends.moved sameEnding later) later', ?_, same⟩
      rw [List.map_append, List.map_append, sameOthers,
        map_eq_map_of_forall₂ sameFirst]

theorem unplaced_ofDeclarations
    (name : Identifier) (imports : List ImportSpec)
    (declarations : List Declaration) :
    (SourceFile.ofDeclarations name imports declarations).unplaced =
      .ofDeclarations name.unplaced (imports.map (·.unplaced))
        (declarations.map (·.unplaced)) := by
  rw [SourceFile.unplaced, SourceFile.ofDeclarations,
    SourceFile.ofDeclarations, List.map_flatMap, List.map_flatMap,
    List.flatMap_map, List.flatMap_map]
  congr 1
  · apply List.flatMap_congr
    intro declaration _
    cases declaration with
    | types declared => rfl
    | constants declared => rfl
    | skipped => rfl
  · apply List.flatMap_congr
    intro declaration _
    cases declaration with
    | types declared => rfl
    | constants declared => rfl
    | skipped => rfl

theorem ReadsFile.moved
    {file : SourceFile} (reads : ReadsFile source tokens file)
    (same : words tokens = words tokens') :
    ∃ file', ReadsFile source' tokens' file' ∧
      file'.unplaced = file.unplaced := by
  cases reads with
  | file leading isPackage isName ends later =>
      rcases exists_append_of_words same with
        ⟨semicolons', _, rfl, sameSemicolons, same⟩
      rcases exists_cons_of_words same with
        ⟨word', _, rfl, sameWord, same⟩
      rcases exists_cons_of_words same with
        ⟨name', _, rfl, sameName, same⟩
      rcases exists_append_of_words same with
        ⟨ending', next', rfl, sameEnding, same⟩
      rcases later.moved source' same with
        ⟨specs', declarations', later', sameSpecs, sameDeclarations⟩
      refine ⟨_,
        .file (leading.moved sameSemicolons)
          (kind_congr sameWord ▸ isPackage)
          (kind_congr sameName ▸ isName) (ends.moved sameEnding same)
          later', ?_⟩
      rw [unplaced_ofDeclarations, unplaced_ofDeclarations,
        identifierOf_moved sameName, sameSpecs, sameDeclarations]

end Reader

end GoUnion
