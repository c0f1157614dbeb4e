import GoUnion.Text.Span

/-!
# Type expressions

Types as they are written in a source file.  Every expression carries its span;
names are not resolved, and the length of an array is kept in the form in which
it was written.  A group of names that shares a type, in a parameter list or in
a struct, is stored as one entry per name.
-/

namespace GoUnion

open Text (Span)

/-- An identifier and its place in the source. -/
structure Identifier where
  name : String
  span : Span
  deriving DecidableEq, Repr

/-- Which operations a channel type allows. -/
inductive ChannelDirection where
  | both
  | send
  | receive
  deriving DecidableEq, Repr

/-- The length of an array as written. -/
inductive ArrayLength where
  | literal (length : UInt64)
  | name (identifier : Identifier)
  | ellipsis
  | expression (text : String)
  deriving DecidableEq, Repr

mutual

/-- A type as written. -/
inductive TypeExpr where
  /-- A name, perhaps qualified by a package and applied to type arguments. -/
  | name (span : Span) (qualifier : Option Identifier) (identifier : Identifier)
      (arguments : List TypeExpr)
  | pointer (span : Span) (element : TypeExpr)
  | array (span : Span) (length : ArrayLength) (element : TypeExpr)
  | slice (span : Span) (element : TypeExpr)
  | map (span : Span) (key value : TypeExpr)
  | channel (span : Span) (direction : ChannelDirection) (element : TypeExpr)
  | function (span : Span) (type : FunctionExpr)
  | record (span : Span) (fields : List FieldExpr)
  | interface (span : Span) (members : List MemberExpr)
  /-- Alternatives of a type set, which occur only in constraints. -/
  | union (span : Span) (terms : List TermExpr)

/-- The parameters and results of a function.  The type of the last parameter of a variadic
function is that of one argument. -/
structure FunctionExpr where
  parameters : List ParameterExpr
  results : List ParameterExpr
  variadic : Bool

/-- A parameter or result, which may lack a name. -/
structure ParameterExpr where
  identifier : Option Identifier
  type : TypeExpr

/-- A field of a struct.  An embedded field goes by the name of its type. -/
structure FieldExpr where
  identifier : Identifier
  type : TypeExpr
  tag : Option String
  embedded : Bool

/-- An element of an interface. -/
inductive MemberExpr where
  | method (identifier : Identifier) (type : FunctionExpr)
  | embed (type : TypeExpr)

/-- A term of a union, marked by a tilde or not. -/
structure TermExpr where
  approximate : Bool
  type : TypeExpr

end

/-- The span of a type expression. -/
def TypeExpr.span : TypeExpr → Span
  | .name span .. | .pointer span _ | .array span .. | .slice span _ | .map span ..
  | .channel span .. | .function span _ | .record span _ | .interface span _
  | .union span _ => span

end GoUnion
