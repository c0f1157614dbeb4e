import GoUnion.Proofs.Grammar.Shape
import GoUnion.Proofs.Positions

/-!
# Positions of phrases

Whatever the tokens of a phrase lie in, its pieces lie in too, and they are
placed.  So a phrase with the span of its tokens encloses the pieces of its
parts.  The induction follows the grammar of types; each construct puts the
pieces of its parts together.
-/

namespace GoUnion

open Text (Span)

namespace Reader

variable {text source : List Char} {tokens : List Token}

/-- Some pieces are placed, and lie in whatever the tokens lie in. -/
def Lie (text : List Char) (tokens : List Token) (pieces : List Piece) :
    Prop :=
  Token.Spanned text tokens → ∀ outer : Span,
    (∀ token ∈ tokens, token.span.Within outer) →
      ∀ piece ∈ pieces, piece.Placed text ∧ piece.span.Within outer

namespace Lie

variable {pieces more : List Piece}

/-- Pieces that lie among tokens in order are placed. -/
theorem placed
    (lie : Lie text tokens pieces) (spanned : Token.Spanned text tokens) :
    ∀ piece ∈ pieces, piece.Placed text :=
  fun piece isPiece =>
    (lie spanned ⟨0, Text.byteLength text⟩
      (fun token isIn =>
        ⟨Nat.zero_le _, (spanned.each token isIn).1.bounded⟩)
      piece isPiece).1

theorem nil : Lie text tokens [] := by
  simp [Lie]

theorem append
    (lie : Lie text tokens pieces) (lie' : Lie text tokens more) :
    Lie text tokens (pieces ++ more) := by
  intro spanned outer within
  rw [List.forall_mem_append]
  exact ⟨lie spanned outer within, lie' spanned outer within⟩

theorem cons
    {piece : Piece} (lie : Lie text tokens [piece])
    (lie' : Lie text tokens more) :
    Lie text tokens (piece :: more) :=
  append lie lie'

/-- Fewer pieces lie in the same. -/
theorem of_subset
    (lie : Lie text tokens pieces) (isIn : more ⊆ pieces) :
    Lie text tokens more :=
  fun spanned outer within piece isPiece =>
    lie spanned outer within piece (isIn isPiece)

/-- More tokens lie in less. -/
theorem sublist
    {inner : List Token} (lie : Lie text inner pieces)
    (isIn : inner.Sublist tokens) :
    Lie text tokens pieces :=
  fun spanned outer within =>
    lie (spanned.sublist isIn) outer
      fun token isToken => within token (isIn.subset isToken)

theorem behind {token : Token} (lie : Lie text tokens pieces) :
    Lie text (token :: tokens) pieces :=
  lie.sublist (List.sublist_cons_self token tokens)

theorem left {later : List Token} (lie : Lie text tokens pieces) :
    Lie text (tokens ++ later) pieces :=
  lie.sublist (List.sublist_append_left tokens later)

theorem right {front : List Token} (lie : Lie text tokens pieces) :
    Lie text (front ++ tokens) pieces :=
  lie.sublist (List.sublist_append_right front tokens)

theorem flatMap
    {α : Type} {values : List α} {view : α → List Piece}
    (each : ∀ value ∈ values, Lie text tokens (view value)) :
    Lie text tokens (values.flatMap view) := by
  intro spanned outer within piece isIn
  rcases List.mem_flatMap.mp isIn with ⟨value, isValue, isPiece⟩
  exact each value isValue spanned outer within piece isPiece

/-- An identifier lies where its token does. -/
theorem identifier {token : Token} (isIn : token ∈ tokens) :
    Lie text tokens [.identifier (identifierOf token)] := by
  intro spanned outer within
  rw [List.forall_mem_singleton]
  refine ⟨⟨(spanned.each token isIn).1, ?_, by simp⟩, within token isIn⟩
  rintro _ ⟨⟩
  exact (spanned.each token isIn).2

/-- A type expression with the span of the tokens encloses the pieces that lie among them. -/
theorem type
    {type : TypeExpr} (nonempty : tokens ≠ [])
    (isSpan : type.span = spanTo tokens [])
    (shape : type.pieces = .type type :: pieces)
    (lie : Lie text tokens pieces) :
    Lie text tokens type.pieces := by
  intro spanned outer within
  have encloses := lie spanned (spanTo tokens []) (within_spanTo spanned)
  rw [shape, List.forall_mem_cons]
  refine ⟨⟨⟨?_, by simp, ?_⟩, ?_⟩, lie spanned outer within⟩
  · show type.span.Valid text
    rw [isSpan]
    exact valid_spanTo nonempty spanned
  · rintro _ ⟨⟩
    rw [isSpan, shape, List.forall_mem_cons]
    exact ⟨isSpan ▸ .refl _, fun inner isInner => (encloses inner isInner).2⟩
  · show type.span.Within outer
    rw [isSpan]
    exact spanTo_within nonempty spanned within

/-- What parts lie in, their pieces lie in. -/
theorem parts
    {α : Type} {parts : List (List Token × α)} {view : α → List Piece}
    (isIn : ∀ piece ∈ parts.map (·.1), piece.Sublist tokens)
    (each : ∀ part ∈ parts, Lie text part.1 (view part.2)) :
    Lie text tokens ((parts.map (·.2)).flatMap view) := by
  apply flatMap
  intro value isValue
  rcases List.mem_map.mp isValue with ⟨part, isPart, rfl⟩
  exact (each part isPart).sublist
    (isIn part.1 (List.mem_map.mpr ⟨part, isPart, rfl⟩))

end Lie

/-! ## Tokens of parts -/

theorem Separated.sublist
    {separator : TokenKind} {trailing : Bool}
    {pieces : List (List Token)}
    (separated : Separated separator trailing pieces tokens) :
    ∀ piece ∈ pieces, piece.Sublist tokens := by
  induction separated with
  | last => simp
  | trailing => simp
  | @cons piece mark pieces tokens _ _ ih =>
      rw [List.forall_mem_cons]
      refine ⟨List.sublist_append_left piece _, fun other isIn => ?_⟩
      exact ((ih other isIn).cons mark).trans
        (List.sublist_append_right piece _)

theorem Enclosed.sublist
    {closing : TokenKind} {pieces : List (List Token)}
    (enclosed : Enclosed closing pieces tokens) :
    ∀ piece ∈ pieces, piece.Sublist tokens := by
  induction enclosed with
  | close => simp
  | @last semicolons piece mark =>
      rw [List.forall_mem_singleton]
      exact (List.sublist_append_left piece [mark]).trans
        (List.sublist_append_right semicolons _)
  | @cons semicolons piece mark pieces tokens _ _ _ ih =>
      rw [List.forall_mem_cons]
      refine ⟨(List.sublist_append_left piece _).trans
        (List.sublist_append_right semicolons _), fun other isIn => ?_⟩
      exact (((ih other isIn).cons mark).trans
        (List.sublist_append_right piece _)).trans
          (List.sublist_append_right semicolons _)

theorem Names.lie
    {names : List Identifier} (areNames : Names tokens names) :
    Lie text tokens (names.map .identifier) := by
  induction areNames with
  | one => exact .identifier List.mem_cons_self
  | more _ _ _ ih =>
      exact .cons (.identifier List.mem_cons_self)
        ih.behind.behind

theorem lie_lengthOf
    {length : ArrayLength} (isLength : lengthOf source tokens = some length) :
    Lie text tokens length.pieces := by
  unfold lengthOf at isLength
  split at isLength
  · cases isLength
  · split at isLength
    · split at isLength
      · cases isLength
        exact .nil
      · cases isLength
        exact .nil
    · cases isLength
      exact .identifier List.mem_cons_self
    · cases isLength
      exact .nil
  · cases isLength
    exact .nil

theorem LengthTokens.lie
    {length : ArrayLength} (isLength : LengthTokens source tokens length) :
    Lie text tokens length.pieces := by
  cases isLength with
  | ellipsis => exact .nil
  | inside _ _ _ isLength =>
      exact (lie_lengthOf isLength).left

/-! ## Parameters -/

/-- The pieces of an entry of a parameter list. -/
def ParameterEntry.pieces : ParameterEntry → List Piece
  | .bare identifier => [.identifier identifier]
  | .named identifier type _ => .identifier identifier :: type.pieces
  | .unnamed type _ => type.pieces

/-- Values that share all but a name have the pieces of one of them, and the names. -/
theorem pieces_of_shared
    {α : Type} {names : List Identifier} {build : Identifier → α}
    {view : α → List Piece} {shared : List Piece}
    (each : ∀ name, view (build name) = .identifier name :: shared) :
    (names.map build).flatMap view ⊆ names.map .identifier ++ shared := by
  intro piece isIn
  rcases List.mem_flatMap.mp isIn with ⟨value, isValue, isPiece⟩
  rcases List.mem_map.mp isValue with ⟨name, isName, rfl⟩
  rw [each] at isPiece
  rcases List.mem_cons.mp isPiece with rfl | isShared
  · exact List.mem_append_left _ (List.mem_map.mpr ⟨name, isName, rfl⟩)
  · exact List.mem_append_right _ isShared

/-- Sharing types among names brings in no pieces. -/
theorem pieces_of_shareTypes
    {close : Span} {pending : List Identifier}
    {entries : List ParameterEntry} {list : List ParameterExpr}
    (shared :
      ParameterEntry.shareTypes close pending entries = .ok list) :
    list.flatMap (·.pieces) ⊆
      pending.map .identifier ++ entries.flatMap (·.pieces) := by
  fun_induction ParameterEntry.shareTypes close pending entries
    generalizing list with
  | case1 =>
      cases shared
      simp
  | case2 => cases shared
  | case3 pending identifier entries ih =>
      have isIn := ih shared
      simpa [ParameterEntry.pieces] using isIn
  | case4 pending identifier type variadic entries ih =>
      rcases bind_eq_ok shared with ⟨others, sharedLater, result⟩
      cases result
      have isIn := ih sharedLater
      have first :
          ((pending ++ [identifier]).map fun name =>
              (⟨some name, type⟩ : ParameterExpr)).flatMap (·.pieces) ⊆
            (pending ++ [identifier]).map .identifier ++ type.pieces :=
        pieces_of_shared fun name => rfl
      have whole :
          pending.map .identifier ++
              (ParameterEntry.named identifier type variadic ::
                entries).flatMap (·.pieces) =
            ((pending ++ [identifier]).map .identifier ++ type.pieces) ++
              entries.flatMap (·.pieces) := by
        simp [ParameterEntry.pieces]
      rw [List.flatMap_append, whole]
      exact List.append_subset.mpr
        ⟨List.subset_append_of_subset_left _ first,
          List.subset_append_of_subset_right _ isIn⟩
  | case5 => cases shared

/-- A lone name that is a type has the span of the name. -/
theorem lie_loneName
    {name : Identifier} (lie : Lie text tokens [.identifier name]) :
    Lie text tokens (TypeExpr.name name.span none name []).pieces := by
  have pieces :
      (TypeExpr.name name.span none name []).pieces =
        [.type (.name name.span none name []), .identifier name] := rfl
  intro spanned outer within
  rcases lie spanned outer within _ List.mem_cons_self with
    ⟨placed, isWithin⟩
  rw [pieces, List.forall_mem_cons, List.forall_mem_singleton]
  refine ⟨⟨⟨placed.valid, by simp, ?_⟩, isWithin⟩, placed, isWithin⟩
  rintro _ ⟨⟩
  rw [pieces, List.forall_mem_cons, List.forall_mem_singleton]
  exact ⟨.refl _, .refl _⟩

/-- The parameters of a list lie where its entries do. -/
theorem lie_resolve
    {allowed variadic : Bool} {close : Span}
    {entries : List ParameterEntry} {list : List ParameterExpr}
    (lie : Lie text tokens (entries.flatMap (·.pieces)))
    (resolved :
      ParameterEntry.resolve allowed close entries = .ok (list, variadic)) :
    Lie text tokens (list.flatMap (·.pieces)) := by
  rcases bind_eq_ok resolved with ⟨isVariadic, -, resolved⟩
  split at resolved
  case isTrue =>
    rcases bind_eq_ok resolved with ⟨shared, sharesTypes, result⟩
    cases result
    exact lie.of_subset (pieces_of_shareTypes sharesTypes)
  case isFalse =>
    cases resolved
    rw [List.flatMap_map]
    refine .flatMap fun entry isEntry => ?_
    have own : Lie text tokens entry.pieces :=
      lie.of_subset fun piece isPiece =>
        List.mem_flatMap.mpr ⟨entry, isEntry, isPiece⟩
    cases entry with
    | named name type =>
        exact own.of_subset (List.subset_cons_self _ _)
    | unnamed type => exact own
    | bare name =>
        exact lie_loneName own

/-! ## Phrases -/

/-- The pieces of a phrase. -/
def Phrase.pieces : Phrase → List Piece
  | .type expression | .constraint expression => expression.pieces
  | .name expression last => .identifier last :: expression.pieces
  | .function expression => expression.pieces
  | .parameters _ list _ => list.flatMap (·.pieces)
  | .entry item => item.pieces
  | .fields list => list.flatMap (·.pieces)
  | .member item => item.pieces
  | .term item => item.pieces

theorem function_pieces
    (parameters results : List ParameterExpr) (variadic : Bool) :
    FunctionExpr.pieces ⟨parameters, results, variadic⟩ =
      parameters.flatMap (·.pieces) ++ results.flatMap (·.pieces) := by
  simp [FunctionExpr.pieces]

/-- The pieces of a phrase are placed, and lie in whatever its tokens lie in. -/
theorem Reads.lie
    {phrase : Phrase} (reads : Reads source tokens phrase)
    (text : List Char) :
    Lie text tokens phrase.pieces := by
  induction reads with
  | named _ ih => exact ih.of_subset (List.subset_cons_self _ _)
  | parens _ _ _ ih =>
      exact ih.left.behind
  | pointer _ _ ih =>
      exact .type (List.cons_ne_nil _ _) rfl rfl
        ih.behind
  | slice _ _ _ ih =>
      exact .type (List.cons_ne_nil _ _) rfl rfl
        ih.behind.behind
  | array _ isLength _ ih =>
      exact .type (List.cons_ne_nil _ _) rfl rfl
        (isLength.lie.left.behind.append ih.right.behind)
  | map _ _ _ _ _ ihKey ihValue =>
      exact .type (List.cons_ne_nil _ _) rfl rfl
        (ihKey.left.behind.behind.append
          ihValue.behind.right.behind.behind)
  | channel _ _ _ ih =>
      exact .type (List.cons_ne_nil _ _) rfl rfl
        ih.behind
  | sending _ _ _ ih | receiving _ _ _ ih =>
      exact .type (List.cons_ne_nil _ _) rfl rfl
        ih.behind.behind
  | functionType _ _ ih =>
      exact .type (List.cons_ne_nil _ _) rfl rfl
        ih.behind
  | record _ _ enclosed _ ih =>
      refine .type (List.cons_ne_nil _ _) rfl rfl ?_
      rw [piecesOfFields_eq_flatMap, List.flatten_eq_flatMap,
        List.flatMap_assoc]
      exact (Lie.parts enclosed.sublist ih).behind.behind
  | interface _ _ enclosed _ ih =>
      refine .type (List.cons_ne_nil _ _) rfl rfl ?_
      rw [piecesOfMembers_eq_flatMap]
      exact (Lie.parts enclosed.sublist ih).behind.behind
  | plainName =>
      exact .cons (.identifier List.mem_cons_self)
        (.type (List.cons_ne_nil _ _) rfl rfl
          (.identifier List.mem_cons_self))
  | genericName _ _ separated _ _ ih =>
      refine .cons (.identifier List.mem_cons_self)
        (.type (List.cons_ne_nil _ _) rfl rfl ?_)
      rw [piecesOfTypes_eq_flatMap]
      exact .cons (.identifier List.mem_cons_self)
        (Lie.parts separated.sublist ih).left.behind.behind
  | @qualifiedName qualifier dot tokens _ _ _ _ _ _ ih =>
      -- The type behind the dot is a piece no longer: its identifiers are.
      have inner : Lie text (qualifier :: dot :: tokens) _ :=
        ih.behind.behind
      refine .cons (inner.of_subset ?_)
        (.type (List.cons_ne_nil _ _) rfl rfl
          (.cons (.identifier List.mem_cons_self) (inner.of_subset ?_)))
      · simp [Phrase.pieces]
      · exact List.subset_cons_of_subset _ (List.subset_cons_self _ _)
  | procedure _ ih =>
      simpa [Phrase.pieces, function_pieces] using ih
  | oneResult _ _ _ ih ihResult =>
      rw [Phrase.pieces, function_pieces, List.flatMap_singleton]
      exact ih.left.append ihResult.right
  | results _ _ ih ihResults =>
      rw [Phrase.pieces, function_pieces]
      exact ih.left.append ihResults.right
  | noParameters => exact .nil
  | parameters _ separated _ _ resolved ih =>
      refine lie_resolve ?_ resolved
      exact (Lie.parts separated.sublist ih).left.behind
  | bareEntry => exact .identifier List.mem_cons_self
  | unnamedEntry _ _ ih => exact ih
  | spreadEntry _ _ ih => exact ih.behind
  | namedEntry _ _ ih =>
      exact .cons (.identifier List.mem_cons_self)
        ih.behind
  | namedSpreadEntry _ _ _ ih =>
      exact .cons (.identifier List.mem_cons_self)
        ih.behind.behind
  | embeddedField _ _ ih =>
      rw [Phrase.pieces, List.flatMap_singleton]
      exact ih.left
  | @embeddedPointer star tokens tagTokens type last tag _ _ _ ih =>
      rw [Phrase.pieces, List.flatMap_singleton]
      have inner : Lie text (star :: tokens) _ := ih.behind
      -- The span of the pointer ends in front of the tag.
      refine Lie.sublist ?_ ((List.sublist_append_left tokens _).cons_cons star)
      refine .cons (inner.of_subset ?_)
        (.type (List.cons_ne_nil _ _) rfl rfl (inner.of_subset ?_))
      · simp [Phrase.pieces]
      · exact List.subset_cons_self _ _
  | @namedFields _ _ _ _ type _ areNames _ _ ih =>
      exact (areNames.lie.left.append ih.left.right).of_subset
        (pieces_of_shared fun name => rfl)
  | method _ _ ih =>
      exact .cons (.identifier List.mem_cons_self)
        ih.behind
  | embed _ ih | single _ ih | plainTerm _ ih => exact ih
  | union separated reads proper ih =>
      refine .type (Reads.union separated reads proper).ne_nil rfl rfl ?_
      rw [piecesOfTerms_eq_flatMap]
      exact .parts separated.sublist ih
  | tildeTerm _ _ ih => exact ih.behind

end Reader

end GoUnion
