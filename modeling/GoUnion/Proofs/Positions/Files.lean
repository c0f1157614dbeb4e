import GoUnion.Proofs.FileGrammar.Soundness
import GoUnion.Proofs.Lexing.Layout
import GoUnion.Proofs.Positions.Grammar

/-!
# Positions of source files

The pieces of a source file lie among its tokens, declaration by declaration, so
they are placed in its text.
-/

namespace GoUnion

open Text (Span)

namespace Reader

variable {text source : List Char} {tokens : List Token}

theorem Grouped.lie
    {α : Type} {Item : Bool → List Token → α → Prop} {last : Bool}
    {values : List α} {view : α → List Piece}
    (grouped : Grouped Item last tokens values)
    (each : ∀ last tokens value, Item last tokens value →
      Lie text tokens (view value)) :
    Lie text tokens (values.flatMap view) := by
  cases grouped with
  | single _ reads =>
      rw [List.flatMap_singleton]
      exact each _ _ _ reads
  | @several opening tokens parts _ enclosed reads =>
      have inner :
          Lie text tokens ((parts.map (·.2)).flatMap view) :=
        .parts enclosed.sublist
          fun part isIn => each _ _ _ (reads part isIn)
      exact inner.behind

/-- An import has the span of its tokens. -/
theorem lie_imported
    {spec : ImportSpec} (nonempty : tokens ≠ [])
    (isSpan : spec.span = spanTo tokens []) :
    Lie text tokens [.imported spec] := by
  intro spanned outer within
  rw [List.forall_mem_singleton]
  refine ⟨⟨?_, by simp, by simp⟩, ?_⟩
  · show spec.span.Valid text
    rw [isSpan]
    exact valid_spanTo nonempty spanned
  · show spec.span.Within outer
    rw [isSpan]
    exact spanTo_within nonempty spanned within

theorem ReadsImport.lie
    {last : Bool} {spec : ImportSpec}
    (reads : ReadsImport last tokens spec) :
    Lie text tokens spec.pieces := by
  cases reads with
  | plain => exact lie_imported (by simp) rfl
  | named =>
      exact .cons (lie_imported (by simp) rfl)
        (.identifier List.mem_cons_self)

/-! ## Declared types -/

/-- The names that wait for a constraint, with the name in front of it, lie before it. -/
theorem lie_pending
    {pending : List Identifier} {before : List Token} {name : Token}
    (lie : Lie text before (pending.map .identifier)) :
    Lie text (before ++ name :: tokens)
      ((pending ++ [identifierOf name]).map .identifier) := by
  rw [List.map_append]
  exact lie.left.append (.identifier (by simp))

/-- Type parameters lie behind the names that wait for a constraint. -/
theorem ReadsParameters.lie
    {pending : List Identifier} {parameters : List TypeParameterExpr}
    (reads : ReadsParameters source pending tokens parameters)
    (before : List Token)
    (lie : Lie text before (pending.map .identifier)) :
    Lie text (before ++ tokens) (parameters.flatMap (·.pieces)) := by
  induction reads generalizing before with
  | close => exact .nil
  | @name pending name comma tokens parameters _ _ _ ih =>
      have longer :
          before ++ name :: comma :: tokens =
            (before ++ [name, comma]) ++ tokens := by
        simp
      rw [longer]
      exact ih (before ++ [name, comma]) (lie_pending lie)
  | @constrained pending name comma inner tokens constraint parameters _
      reads _ _ ih =>
      have own :
          Lie text (before ++ name :: (inner ++ comma :: tokens))
            ((pending ++ [identifierOf name]).map .identifier ++
              constraint.pieces) :=
        (lie_pending lie).append (reads.lie text).left.behind.right
      rw [List.flatMap_append]
      exact (own.of_subset (pieces_of_shared fun _ => rfl)).append
        (ih [] .nil).behind.right.behind.right
  | @last pending name closing inner constraint _ reads _ =>
      have own :
          Lie text (before ++ name :: (inner ++ [closing]))
            ((pending ++ [identifierOf name]).map .identifier ++
              constraint.pieces) :=
        (lie_pending lie).append (reads.lie text).left.behind.right
      exact own.of_subset (pieces_of_shared fun _ => rfl)

theorem ReadsTypeDeclaration.lie
    {last : Bool} {declared : TypeDeclaration}
    (reads : ReadsTypeDeclaration source last tokens declared) :
    Lie text tokens declared.pieces := by
  cases reads with
  | declare _ readsParameters mark reads =>
      refine .cons (.identifier List.mem_cons_self) (.append ?_ ?_)
      · cases readsParameters with
        | none => exact .nil
        | list _ readsList =>
            exact (readsList.lie [] .nil).behind.left.behind
      · exact (reads.lie text).right.right.behind

/-! ## Constants -/

theorem identifiers_of_declare
    (iota : Nat) (names : List Identifier)
    (expressions : List ConstantExpr) :
    (ConstantSpec.declare iota names expressions).map (·.identifier) =
      names := by
  fun_induction ConstantSpec.declare iota names expressions with
  | case1 => rfl
  | case2 identifier names ih => rw [List.map_cons, ih]
  | case3 identifier names expression expressions ih =>
      rw [List.map_cons, ih]

theorem identifiers_of_declareFrom
    (iota : Nat) (previous : List ConstantExpr)
    (specs : List ConstantSpec) :
    (ConstantSpec.declareFrom iota previous specs).map (·.identifier) =
      specs.flatMap (·.identifiers) := by
  induction specs generalizing iota previous with
  | nil => rfl
  | cons spec specs ih =>
      rw [ConstantSpec.declareFrom, List.map_append,
        identifiers_of_declare, ih, List.flatMap_cons]

theorem ReadsConstant.lie
    {last : Bool} {spec : ConstantSpec}
    (reads : ReadsConstant source last tokens spec) :
    Lie text tokens (spec.identifiers.map .identifier) := by
  cases reads with
  | names areNames => exact areNames.lie
  | typed areNames => exact areNames.lie.left
  | valued areNames => exact areNames.lie.left

/-! ## Files -/

/-- The pieces of a declaration. -/
def Declaration.pieces : Declaration → List Piece
  | .types declared => declared.flatMap (·.pieces)
  | .constants declared => declared.map (.identifier ·.identifier)
  | .skipped => []

theorem pieces_of_specs (specs : List ConstantSpec) :
    (Declaration.constants (ConstantSpec.declareAll specs)).pieces =
      specs.flatMap fun spec => spec.identifiers.map .identifier := by
  have identifiers := identifiers_of_declareFrom 0 [] specs
  have pieces :
      (Declaration.constants (ConstantSpec.declareAll specs)).pieces =
        ((ConstantSpec.declareAll specs).map (·.identifier)).map
          .identifier := by
    rw [List.map_map]
    rfl
  rw [pieces, ConstantSpec.declareAll, identifiers, List.map_flatMap]

theorem ReadsDeclaration.lie
    {last : Bool} {declaration : Declaration}
    (reads : ReadsDeclaration source last tokens declaration) :
    Lie text tokens declaration.pieces := by
  cases reads with
  | types _ grouped =>
      exact (grouped.lie fun _ _ _ reads => reads.lie).behind
  | constants _ grouped =>
      rw [pieces_of_specs]
      exact (grouped.lie fun _ _ _ reads => reads.lie).behind
  | skipped => exact .nil

theorem ReadsDeclarations.lie
    {declarations : List Declaration}
    (reads : ReadsDeclarations source tokens declarations) :
    Lie text tokens (declarations.flatMap (·.pieces)) := by
  induction reads with
  | done => exact .nil
  | more _ reads _ _ ih =>
      rw [List.flatMap_cons]
      exact reads.lie.left.right.append ih.right.right.right

theorem ReadsImports.lie
    {imports : List ImportSpec} {declarations : List Declaration}
    (reads : ReadsImports source tokens imports declarations) :
    Lie text tokens
      (imports.flatMap (·.pieces) ++ declarations.flatMap (·.pieces)) := by
  induction reads with
  | none later => exact later.lie
  | more _ _ grouped _ _ ih =>
      rw [List.flatMap_append, List.append_assoc]
      exact (grouped.lie fun _ _ _ reads => reads.lie).left.behind.right.append
        ih.right.right.behind.right

/-- A file has the pieces of its declarations. -/
theorem pieces_of_declarations
    (package : Identifier) (imports : List ImportSpec)
    (declarations : List Declaration) :
    (SourceFile.ofDeclarations package imports declarations).pieces ⊆
      .identifier package ::
        (imports.flatMap (·.pieces) ++
          declarations.flatMap (·.pieces)) := by
  refine List.cons_subset_cons _ (List.append_subset.mpr
    ⟨List.subset_append_left _ _, ?_⟩)
  refine List.subset_append_of_subset_right _
    (List.append_subset.mpr ⟨?_, ?_⟩)
  · intro piece isIn
    rcases List.mem_flatMap.mp isIn with ⟨declared, isDeclared, isPiece⟩
    rcases List.mem_flatMap.mp isDeclared with
      ⟨declaration, isDeclaration, isOne⟩
    refine List.mem_flatMap.mpr ⟨declaration, isDeclaration, ?_⟩
    cases declaration with
    | types list => exact List.mem_flatMap.mpr ⟨declared, isOne, isPiece⟩
    | constants | skipped => cases isOne
  · intro piece isIn
    rcases List.mem_map.mp isIn with ⟨constant, isConstant, rfl⟩
    rcases List.mem_flatMap.mp isConstant with
      ⟨declaration, isDeclaration, isOne⟩
    refine List.mem_flatMap.mpr ⟨declaration, isDeclaration, ?_⟩
    cases declaration with
    | constants list => exact List.mem_map.mpr ⟨constant, isOne, rfl⟩
    | types | skipped => cases isOne

theorem ReadsFile.lie
    {file : SourceFile} (reads : ReadsFile source tokens file) :
    Lie text tokens file.pieces := by
  cases reads with
  | file _ _ _ _ later =>
      refine Lie.of_subset ?_ (pieces_of_declarations _ _ _)
      exact .cons (.identifier (by simp)) later.lie.right.behind.behind.right

end Reader

/-- The tokens of a source text stand in order for its pieces. -/
theorem Token.spanned_of_ofSource
    {text : List Char} {tokens : List Token}
    (succeeds : Token.ofSource text = .ok tokens) :
    Token.Spanned text tokens where
  each := (layout_of_ofSource succeeds).spanned [] rfl
  increasing := (layout_of_ofSource succeeds).increasing

/-- What a source file is made of is placed in its text. -/
theorem SourceFile.placed_of_ofSource
    {text : List Char} {file : SourceFile}
    (succeeds : SourceFile.ofSource text = .ok file) :
    ∀ piece ∈ file.pieces, piece.Placed text := by
  rcases Reader.bind_eq_ok succeeds with ⟨tokens, scanned, succeeds⟩
  rcases Reader.ofTokens_consumes succeeds with
    ⟨used, final, rfl, -, reads⟩
  have lie : Reader.Lie text (used ++ final) file.pieces := reads.lie.left
  exact lie.placed (Token.spanned_of_ofSource scanned)

end GoUnion
