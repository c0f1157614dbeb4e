/-!
# Configuration

What the generated file is to hold and how it is to be named.
-/

namespace GoUnion

/-- The optional parts of the generated code. -/
structure Features where
  /-- Keep the active value in one slot of type `any` and give access to it. -/
  publicValue : Bool
  /-- One method per variant that returns its value if it is active. -/
  getters : Bool
  /-- One method per variant that makes it active. -/
  setters : Bool
  /-- A method that calls one of several handlers. -/
  matching : Bool
  /-- The zero value is the first variant, not an invalid state. -/
  defaulting : Bool
  deriving DecidableEq, Repr

namespace Features

/-- Getters, setters and matching. -/
def standard : Features where
  publicValue := false
  getters := true
  setters := true
  matching := true
  defaulting := false

end Features

/-- Where and how the union is written. -/
structure OutputConfig where
  typeName : String
  file : String
  package : String
  /-- The import path of the package; the package of the struct where it is missing. -/
  packagePath : Option String
  /-- The command that is recorded in the header. -/
  command : Option String
  features : Features
  deriving DecidableEq, Repr

end GoUnion
