import GoUnion.Union.Features
import GoUnion.Union.FreeName

/-!
# Name plans

Names for everything the generated code introduces.  The members of the union
share one scope with the slots of its variants, and the local names of its
methods share one with the names that the code has to mention.  A name that is
taken gets the least number of leading underscores that makes it free.
-/

namespace GoUnion

/-- The free names for some bases, each taken before the next is chosen, and the names taken at
the end. -/
def freeNames (taken : List String) : List String → List String × List String
  | [] => ([], taken)
  | base :: bases =>
    let name := freeName taken base
    let (names, final) := freeNames (name :: taken) bases
    (name :: names, final)

/-- The free name for an optional base, and the names taken then. -/
def freeName? (taken : List String) (wanted : Bool) (base : String) :
    Option String × List String :=
  if wanted then
    let name := freeName taken base
    (some name, name :: taken)
  else (none, taken)

/-- The names that the generated code introduces. -/
structure NamePlan where
  /-- The field that says which variant is active. -/
  discriminant : String
  /-- The field that holds the value where there is one slot for all variants. -/
  inner : String
  /-- The state without an active variant, unless the first variant is the default. -/
  invalid : Option String
  variantMethod : String
  valueMethod : Option String
  matchMethod : Option String
  getters : List String
  setters : List String
  /-- The parameters of the matching method, one per variant. -/
  handlers : List String
  receiver : String
  valueParameter : String
  zero : String
  invalidHandler : String
  deriving DecidableEq, Repr

namespace NamePlan

/-- The handlers of the variants: a variant's own name, unless the code has to mention that
name. -/
def handlerNames (reserved taken : List String) : List String → List String
  | [] => []
  | variant :: variants =>
    if reserved.contains variant then
      let name := freeName taken variant
      name :: handlerNames reserved (name :: taken) variants
    else
      variant :: handlerNames reserved taken variants

/-- Choose all names, given the names of the variants and the names that the code mentions. -/
def resolve (variants : List String) (features : Features) (reserved : List String) :
    NamePlan :=
  let discriminant := freeName variants "_variant"
  let inner := freeName (discriminant :: variants) "_inner"
  let (invalid, taken) :=
    freeName? (inner :: discriminant :: variants) (!features.defaulting) "Invalid"
  let variantMethod := freeName taken "Variant"
  let (valueMethod, taken) := freeName? (variantMethod :: taken) features.publicValue "Value"
  let (matchMethod, taken) := freeName? taken features.matching "Match"
  let (getters, taken) :=
    freeNames taken (if features.getters then variants.map ("Get_" ++ ·) else [])
  let (setters, _) :=
    freeNames taken (if features.setters then variants.map ("Set_" ++ ·) else [])
  let scope := variants ++ reserved
  let receiver := freeName scope "u"
  let valueParameter := freeName (receiver :: scope) "value"
  let zero := freeName (valueParameter :: receiver :: scope) "zero"
  let invalidHandler := freeName (zero :: valueParameter :: receiver :: scope) "invalid"
  let locals := invalidHandler :: zero :: valueParameter :: receiver :: scope
  { discriminant, inner, invalid, variantMethod, valueMethod, matchMethod, getters, setters
    handlers := handlerNames reserved locals variants
    receiver, valueParameter, zero, invalidHandler }

end NamePlan

end GoUnion
