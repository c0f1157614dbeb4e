import GoUnion.TypeExpr

/-!
# Source files

What is kept of a source file: its package clause, its imports, its type
declarations and its constants.  Variables and functions play no part.
-/

namespace GoUnion

open Text (Span)

/-- An import with its optional local name, which may be a blank or a point. -/
structure ImportSpec where
  identifier : Option Identifier
  path : String
  span : Span
  deriving DecidableEq, Repr

/-- A declared type parameter and its constraint. -/
structure TypeParameterExpr where
  identifier : Identifier
  constraint : TypeExpr

/-- A declared type.  An alias is declared with an equals sign. -/
structure TypeDeclaration where
  identifier : Identifier
  parameters : List TypeParameterExpr
  isAlias : Bool
  type : TypeExpr

/-- The value of a constant as far as array lengths are concerned: a whole number, or an
expression that is not evaluated. -/
inductive ConstantValue where
  | integer (value : UInt64)
  | unknown
  deriving DecidableEq, Repr

/-- A declared constant. -/
structure ConstantDeclaration where
  identifier : Identifier
  value : ConstantValue
  deriving DecidableEq, Repr

/-- The declarations of a source file, each kind in order. -/
structure SourceFile where
  package : Identifier
  imports : List ImportSpec
  types : List TypeDeclaration
  constants : List ConstantDeclaration

end GoUnion
