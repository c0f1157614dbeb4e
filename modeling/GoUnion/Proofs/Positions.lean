import GoUnion.Proofs.Grammar
import GoUnion.Proofs.Spans
import GoUnion.SourceFile

/-!
# What has a position in a source file

The pieces of a source file are its imports and the identifiers and the type
expressions in it, at every depth: everything that has a span.  A piece is
placed in a text if its span is valid there, if an identifier is the text at its
span, and if a type expression encloses the pieces inside of it.
-/

namespace GoUnion

open Text (Span)

/-- A part of a source file that has a span. -/
inductive Piece where
  | identifier (identifier : Identifier)
  | type (type : TypeExpr)
  | imported (spec : ImportSpec)

/-- The span of a piece. -/
def Piece.span : Piece → Span
  | .identifier piece => piece.span
  | .type piece => piece.span
  | .imported piece => piece.span

/-- The identifier that the length of an array may be. -/
def ArrayLength.pieces : ArrayLength → List Piece
  | .name identifier => [.identifier identifier]
  | .literal _ | .ellipsis | .expression _ => []

mutual

/-- The pieces of a type expression, itself included. -/
def TypeExpr.pieces : TypeExpr → List Piece
  | .name span qualifier identifier arguments =>
    .type (.name span qualifier identifier arguments) ::
      (qualifier.toList.map .identifier ++
        (.identifier identifier :: piecesOfTypes arguments))
  | .pointer span element =>
    .type (.pointer span element) :: element.pieces
  | .array span length element =>
    .type (.array span length element) ::
      (length.pieces ++ element.pieces)
  | .slice span element => .type (.slice span element) :: element.pieces
  | .map span key value =>
    .type (.map span key value) :: (key.pieces ++ value.pieces)
  | .channel span direction element =>
    .type (.channel span direction element) :: element.pieces
  | .function span type => .type (.function span type) :: type.pieces
  | .record span fields =>
    .type (.record span fields) :: piecesOfFields fields
  | .interface span members =>
    .type (.interface span members) :: piecesOfMembers members
  | .union span terms => .type (.union span terms) :: piecesOfTerms terms

/-- The pieces of some type expressions. -/
def piecesOfTypes : List TypeExpr → List Piece
  | [] => []
  | type :: types => type.pieces ++ piecesOfTypes types

/-- The pieces of the type of a function. -/
def FunctionExpr.pieces : FunctionExpr → List Piece
  | ⟨parameters, results, _⟩ =>
    piecesOfVariables parameters ++ piecesOfVariables results

/-- The pieces of parameters or results. -/
def piecesOfVariables : List ParameterExpr → List Piece
  | [] => []
  | ⟨identifier, type⟩ :: rest =>
    (identifier.toList.map .identifier ++ type.pieces) ++
      piecesOfVariables rest

/-- The pieces of the fields of a struct. -/
def piecesOfFields : List FieldExpr → List Piece
  | [] => []
  | ⟨identifier, type, _, _⟩ :: fields =>
    (.identifier identifier :: type.pieces) ++ piecesOfFields fields

/-- The pieces of the elements of an interface. -/
def piecesOfMembers : List MemberExpr → List Piece
  | [] => []
  | .method identifier type :: members =>
    (.identifier identifier :: type.pieces) ++ piecesOfMembers members
  | .embed type :: members => type.pieces ++ piecesOfMembers members

/-- The pieces of the terms of a union. -/
def piecesOfTerms : List TermExpr → List Piece
  | [] => []
  | ⟨_, type⟩ :: terms => type.pieces ++ piecesOfTerms terms

end

/-- The pieces of a parameter. -/
def ParameterExpr.pieces (parameter : ParameterExpr) : List Piece :=
  parameter.identifier.toList.map .identifier ++ parameter.type.pieces

/-- The pieces of a field. -/
def FieldExpr.pieces (field : FieldExpr) : List Piece :=
  .identifier field.identifier :: field.type.pieces

/-- The pieces of an element of an interface. -/
def MemberExpr.pieces : MemberExpr → List Piece
  | .method identifier type => .identifier identifier :: type.pieces
  | .embed type => type.pieces

/-- The pieces of a term of a union. -/
def TermExpr.pieces (term : TermExpr) : List Piece :=
  term.type.pieces

/-- The pieces of a type parameter. -/
def TypeParameterExpr.pieces (parameter : TypeParameterExpr) :
    List Piece :=
  .identifier parameter.identifier :: parameter.constraint.pieces

/-- The pieces of a declared type. -/
def TypeDeclaration.pieces (declaration : TypeDeclaration) : List Piece :=
  .identifier declaration.identifier ::
    (declaration.parameters.flatMap (·.pieces) ++ declaration.type.pieces)

/-- The pieces of an import. -/
def ImportSpec.pieces (spec : ImportSpec) : List Piece :=
  .imported spec :: spec.identifier.toList.map .identifier

/-- The pieces of a source file. -/
def SourceFile.pieces (file : SourceFile) : List Piece :=
  .identifier file.package ::
    (file.imports.flatMap (·.pieces) ++
      (file.types.flatMap (·.pieces) ++
        file.constants.map (.identifier ·.identifier)))

@[simp]
theorem piecesOfTypes_eq_flatMap (types : List TypeExpr) :
    piecesOfTypes types = types.flatMap (·.pieces) := by
  induction types with
  | nil => rfl
  | cons type types ih => rw [piecesOfTypes, ih, List.flatMap_cons]

@[simp]
theorem piecesOfVariables_eq_flatMap (list : List ParameterExpr) :
    piecesOfVariables list = list.flatMap (·.pieces) := by
  induction list with
  | nil => rfl
  | cons parameter list ih =>
      rcases parameter with ⟨identifier, type⟩
      rw [piecesOfVariables, ih, List.flatMap_cons]
      rfl

@[simp]
theorem piecesOfFields_eq_flatMap (fields : List FieldExpr) :
    piecesOfFields fields = fields.flatMap (·.pieces) := by
  induction fields with
  | nil => rfl
  | cons field fields ih =>
      rcases field with ⟨identifier, type, tag, embedded⟩
      rw [piecesOfFields, ih, List.flatMap_cons]
      rfl

@[simp]
theorem piecesOfMembers_eq_flatMap (members : List MemberExpr) :
    piecesOfMembers members = members.flatMap (·.pieces) := by
  induction members with
  | nil => rfl
  | cons member members ih =>
      cases member with
      | method identifier type =>
          rw [piecesOfMembers, ih, List.flatMap_cons]
          rfl
      | embed type =>
          rw [piecesOfMembers, ih, List.flatMap_cons]
          rfl

@[simp]
theorem piecesOfTerms_eq_flatMap (terms : List TermExpr) :
    piecesOfTerms terms = terms.flatMap (·.pieces) := by
  induction terms with
  | nil => rfl
  | cons term terms ih =>
      rcases term with ⟨approximate, type⟩
      rw [piecesOfTerms, ih, List.flatMap_cons]
      rfl

/-- A type expression is a piece of itself. -/
theorem TypeExpr.mem_pieces (type : TypeExpr) :
    .type type ∈ type.pieces := by
  cases type <;> exact List.mem_cons_self

/-! ## Placed pieces -/

/-- A piece that stands where its span says: an identifier is the text at its span, and a type
expression encloses its pieces. -/
structure Piece.Placed (text : List Char) (piece : Piece) : Prop where
  valid : piece.span.Valid text
  truthful : ∀ identifier, piece = .identifier identifier →
    identifier.name = String.ofList (identifier.span.slice text)
  encloses : ∀ type, piece = .type type →
    ∀ inner ∈ type.pieces, inner.span.Within type.span

/-- Tokens in the order of a text, each for the text at its span. -/
structure Token.Spanned (text : List Char) (tokens : List Token) :
    Prop where
  each : ∀ token ∈ tokens, token.span.Valid text ∧
    token.text = String.ofList (token.span.slice text)
  increasing :
    tokens.Pairwise fun first later => first.span.stop ≤ later.span.start

theorem Token.Spanned.sublist
    {text : List Char} {tokens inner : List Token}
    (spanned : Token.Spanned text tokens) (isIn : inner.Sublist tokens) :
    Token.Spanned text inner where
  each token isToken := spanned.each token (isIn.subset isToken)
  increasing := spanned.increasing.sublist isIn

namespace Reader

variable {text : List Char} {tokens : List Token}

theorem spanTo_concat (front : List Token) (last : Token) :
    spanTo (front ++ [last]) [] =
      ⟨(current (front ++ [last])).span.start,
        max last.span.stop (current (front ++ [last])).span.start⟩ := by
  simp only [spanTo, List.length_nil, Nat.sub_zero, List.take_length,
    List.getLast?_concat, Option.map_some, Option.getD_some]

theorem current_mem (nonempty : tokens ≠ []) : current tokens ∈ tokens := by
  cases tokens with
  | nil => exact absurd rfl nonempty
  | cons first tail => exact List.mem_cons_self

theorem current_start_le
    (spanned : Token.Spanned text tokens) :
    ∀ token ∈ tokens, (current tokens).span.start ≤ token.span.start := by
  intro token isIn
  cases tokens with
  | nil => cases isIn
  | cons first tail =>
      rcases List.mem_cons.mp isIn with rfl | isLater
      · exact Nat.le_refl _
      · exact Nat.le_trans
          (spanned.each first List.mem_cons_self).1.forward
          (List.rel_of_pairwise_cons spanned.increasing isLater)

theorem stop_le_last
    {front : List Token} {last : Token}
    (spanned : Token.Spanned text (front ++ [last])) :
    ∀ token ∈ front ++ [last], token.span.stop ≤ last.span.stop := by
  intro token isIn
  rcases List.mem_append.mp isIn with isFront | isLast
  · have before := (List.pairwise_append.mp spanned.increasing).2.2
    exact Nat.le_trans (before token isFront last List.mem_cons_self)
      (spanned.each last (by simp)).1.forward
  · cases List.mem_singleton.mp isLast
    exact Nat.le_refl _

/-- The span of tokens in order goes from the first to the last of them. -/
theorem spanTo_eq
    {front : List Token} {last : Token}
    (spanned : Token.Spanned text (front ++ [last])) :
    spanTo (front ++ [last]) [] =
      ⟨(current (front ++ [last])).span.start, last.span.stop⟩ := by
  have start := current_start_le spanned last (by simp)
  have forward := (spanned.each last (by simp)).1.forward
  rw [spanTo_concat, Nat.max_eq_left (Nat.le_trans start forward)]

/-- Tokens in order lie in their span. -/
theorem within_spanTo
    (spanned : Token.Spanned text tokens) :
    ∀ token ∈ tokens, token.span.Within (spanTo tokens []) := by
  intro token isIn
  rcases List.eq_nil_or_concat tokens with rfl | ⟨front, last, rfl⟩
  · cases isIn
  · rw [List.concat_eq_append] at spanned isIn ⊢
    rw [spanTo_eq spanned]
    exact ⟨current_start_le spanned token isIn,
      stop_le_last spanned token isIn⟩

/-- What all tokens lie in, their span lies in. -/
theorem spanTo_within
    {outer : Span} (nonempty : tokens ≠ [])
    (spanned : Token.Spanned text tokens)
    (within : ∀ token ∈ tokens, token.span.Within outer) :
    (spanTo tokens []).Within outer := by
  rcases List.eq_nil_or_concat tokens with rfl | ⟨front, last, rfl⟩
  · exact absurd rfl nonempty
  · rw [List.concat_eq_append] at nonempty spanned within ⊢
    rw [spanTo_eq spanned]
    exact ⟨(within _ (current_mem nonempty)).start,
      (within last (by simp)).stop⟩

theorem valid_spanTo
    (nonempty : tokens ≠ []) (spanned : Token.Spanned text tokens) :
    (spanTo tokens []).Valid text := by
  rcases List.eq_nil_or_concat tokens with rfl | ⟨front, last, rfl⟩
  · exact absurd rfl nonempty
  · rw [List.concat_eq_append] at nonempty spanned ⊢
    rw [spanTo_eq spanned]
    have isFirst := current_mem nonempty
    have isLast : last ∈ front ++ [last] := by simp
    exact (spanned.each _ isFirst).1.between (spanned.each _ isLast).1
      (Nat.le_trans (current_start_le spanned _ isLast)
        (spanned.each _ isLast).1.forward)

end Reader

end GoUnion
