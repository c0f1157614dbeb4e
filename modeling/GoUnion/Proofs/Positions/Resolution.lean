import GoUnion.Proofs.Failures

/-!
# Positions of load errors

Resolution fails at a piece of the expression that it resolves, so the error
stands in the file of the scope; only the parameters that a reference carries
come from another file.  An undefined name is reported where it stands.
-/

namespace GoUnion

open Text (Span Location)

/-- The location of an error, if it has one, is that of a valid span of one of some texts; it is
the identifier that does not resolve if the error is about one. -/
def LoadError.Located
    (texts : List (String × List Char)) (error : LoadError) : Prop :=
  ∀ location, error.location? = some location →
    ∃ path text, (path, text) ∈ texts ∧
      location = .ofSpan path text location.span ∧
      location.span.Valid text ∧
      ∀ unknown, error = .undefined unknown location →
        String.ofList (location.span.slice text) = unknown.identifier

theorem LoadError.located_of_none
    {texts : List (String × List Char)} {error : LoadError}
    (isNone : error.location? = none) :
    error.Located texts := by
  intro location isLocation
  cases isNone.symm.trans isLocation

/-- An error that is not about an undefined name stands at any valid span. -/
theorem LoadError.located_of_valid
    {texts : List (String × List Char)} {error : LoadError} {path : String}
    {text : List Char} {span : Span} (isText : (path, text) ∈ texts)
    (isSpan : error.location? = some (.ofSpan path text span))
    (valid : span.Valid text)
    (isDefined : ∀ unknown location, error ≠ .undefined unknown location) :
    error.Located texts := by
  intro location isLocation
  cases isSpan.symm.trans isLocation
  refine ⟨path, text, isText, rfl, valid, ?_⟩
  intro unknown isUndefined
  exact absurd isUndefined (isDefined unknown _)

/-- Saying in which field an error arose leaves it where it is. -/
theorem LoadError.Located.inField
    {texts : List (String × List Char)} {error : LoadError}
    (located : error.Located texts) (index : Nat) (name : String) :
    (Scope.inField index name error).Located texts := by
  unfold Scope.inField
  split
  case h_1 construct location =>
    rcases located location rfl with
      ⟨path, text, isText, isSpan, valid, -⟩
    exact located_of_valid isText (congrArg some isSpan) valid
      (by rintro _ _ ⟨⟩)
  case h_2 => exact located

/-- A scope whose file is one of some texts, and in which references carry parameters of them. -/
structure Scope.Located
    (texts : List (String × List Char)) (scope : Scope) : Prop where
  isText : (scope.file.path, scope.file.text) ∈ texts
  carried : ∀ declared ∈ scope.package.declared,
    FailsOnly (·.Located texts) (scope.carried declared)

variable {texts : List (String × List Char)} {scope : Scope}

namespace Scope.Located

theorem unsupported
    (located : scope.Located texts) {span : Span}
    (valid : span.Valid scope.file.text) (construct : Construct) :
    (scope.unsupported construct span).Located texts :=
  LoadError.located_of_valid located.isText rfl valid (by rintro _ _ ⟨⟩)

/-- The errors at placed pieces are located: an identifier that does not resolve is the text at its
span. -/
theorem confines (located : scope.Located texts) :
    scope.Confines (·.Located texts) (·.Placed scope.file.text) where
  unsupported placed _ := located.unsupported placed.valid _
  arity _ placed :=
    LoadError.located_of_valid located.isText rfl placed.valid
      (by rintro _ _ ⟨⟩)
  undefined := by
    intro identifier unknown placed isName location isLocation
    cases isLocation
    refine ⟨_, _, located.isText, rfl, placed.valid, ?_⟩
    intro unknown' isUndefined
    cases isUndefined
    rw [isName, placed.truthful identifier rfl]
    rfl
  carried := located.carried _

end Scope.Located


end GoUnion
