import GoUnion.Proofs.WellFormed
import GoUnion.Proofs.Grammar.Consumption
import GoUnion.Resolution

/-!
# Well-formedness of what expressions denote

Resolution goes over the parts of an expression one by one.  The lemmas here
say what its results are made of, and that a result is well formed if the parts
of the expression denote well-formed types only.

A scope matters through the type parameters that its references carry.
-/

namespace GoUnion

open Lexeme (IsName)
open Reader (bind_eq_ok)

variable {scope : Scope} {inside : Bool}

/-- References in the scope carry well-formed type parameters, and none inside type parameters. -/
def Scope.CarriesWell (scope : Scope) (inside : Bool) : Prop :=
  ∀ declared ∈ scope.package.declared, ∀ parameters,
    scope.carried declared = .ok parameters →
      (inside = true → parameters = []) ∧
        ∀ parameter ∈ parameters,
          WellFormed true .typeSet parameter.constraint

/-- Whatever an expression denotes in a scope is well formed. -/
def TypeExpr.DenotesWell
    (scope : Scope) (inside : Bool) (place : TypePlace)
    (expression : TypeExpr) : Prop :=
  ∀ type, expression.denote scope = .ok type → WellFormed inside place type

/-- Whatever a function denotes in a scope is well formed. -/
def FunctionExpr.DenotesWell
    (scope : Scope) (inside : Bool) (function : FunctionExpr) : Prop :=
  ∀ signature, function.denote scope = .ok signature →
    WellFormedSignature inside signature

/-! ## Lists -/

/-- In two lists related member by member, what is in the second has its counterpart in the first. -/
theorem exists_of_forall₂
    {α β : Type} {Related : α → β → Prop} {left : List α} {right : List β}
    (related : List.Forall₂ Related left right)
    {value : β} (inRight : value ∈ right) :
    ∃ other ∈ left, Related other value := by
  induction related with
  | nil => cases inRight
  | cons first _ ih =>
      rcases List.mem_cons.mp inRight with rfl | inOthers
      · exact ⟨_, List.mem_cons_self, first⟩
      · rcases ih inOthers with ⟨other, inLeft, related⟩
        exact ⟨other, List.mem_cons_of_mem _ inLeft, related⟩

theorem denoteAll_eq_ok
    {expressions : List TypeExpr} {types : List GoType}
    (succeeds : denoteAll scope expressions = .ok types) :
    List.Forall₂ (fun expression type => expression.denote scope = .ok type)
      expressions types := by
  induction expressions generalizing types with
  | nil =>
      cases succeeds
      exact .nil
  | cons expression expressions ih =>
      rw [denoteAll] at succeeds
      rcases bind_eq_ok succeeds with ⟨first, denotes, succeeds⟩
      rcases bind_eq_ok succeeds with ⟨others, denotesOthers, succeeds⟩
      cases succeeds
      exact .cons denotes (ih denotesOthers)

/-- A field denotes a field of the same name, tag and kind. -/
def FieldExpr.Denotes
    (scope : Scope) (expression : FieldExpr) (field : Field) : Prop :=
  field.name = expression.identifier.name ∧
    expression.type.denote scope = .ok field.type ∧
    field.tag = expression.tag ∧ field.embedded = expression.embedded

theorem denoteFields_eq_ok
    {expressions : List FieldExpr} {fields : List Field}
    (succeeds : denoteFields scope expressions = .ok fields) :
    List.Forall₂ (FieldExpr.Denotes scope) expressions fields := by
  induction expressions generalizing fields with
  | nil =>
      cases succeeds
      exact .nil
  | cons expression expressions ih =>
      rcases expression with ⟨identifier, type, tag, embedded⟩
      rw [denoteFields] at succeeds
      rcases bind_eq_ok succeeds with ⟨first, denotes, succeeds⟩
      rcases bind_eq_ok succeeds with ⟨others, denotesOthers, succeeds⟩
      cases succeeds
      exact .cons ⟨rfl, denotes, rfl, rfl⟩ (ih denotesOthers)

/-- The declaration that was asked for has the same fields as its struct type. -/
theorem rootFields_eq_ok
    {index : Nat} {expressions : List FieldExpr} {fields : List Field} :
    scope.rootFields index expressions = .ok fields ↔
      denoteFields scope expressions = .ok fields := by
  induction expressions generalizing index fields with
  | nil => rw [Scope.rootFields, denoteFields]
  | cons expression expressions ih =>
      rcases expression with ⟨identifier, type, tag, embedded⟩
      rw [Scope.rootFields, denoteFields]
      constructor
      · intro succeeds
        split at succeeds
        case h_1 => cases succeeds
        case h_2 first denotes =>
          rcases bind_eq_ok succeeds with ⟨others, denotesOthers, yields⟩
          rw [denotes, ih.mp denotesOthers]
          exact yields
      · intro succeeds
        rcases bind_eq_ok succeeds with ⟨first, denotes, succeeds⟩
        rcases bind_eq_ok succeeds with ⟨others, denotesOthers, yields⟩
        rw [denotes, ih.mpr denotesOthers]
        exact yields

theorem denoteMembers_eq_ok
    {members : List MemberExpr} {methods : List Method}
    {embeds : List GoType}
    (succeeds : denoteMembers scope members = .ok (methods, embeds)) :
    (∀ method ∈ methods, ∃ identifier function,
      MemberExpr.method identifier function ∈ members ∧
        method.name = identifier.name ∧
        function.denote scope = .ok method.signature) ∧
    ∀ type ∈ embeds, ∃ expression,
      MemberExpr.embed expression ∈ members ∧
        expression.denote scope = .ok type := by
  induction members generalizing methods embeds with
  | nil =>
      cases succeeds
      exact ⟨by simp, by simp⟩
  | cons member members ih =>
      cases member with
      | method identifier function =>
          rw [denoteMembers] at succeeds
          rcases bind_eq_ok succeeds with ⟨signature, denotes, succeeds⟩
          rcases bind_eq_ok succeeds with
            ⟨⟨others, types⟩, denotesOthers, succeeds⟩
          cases succeeds
          rcases ih denotesOthers with ⟨fromMethods, fromEmbeds⟩
          constructor
          · intro method inMethods
            rcases List.mem_cons.mp inMethods with rfl | inOthers
            · exact ⟨identifier, function, List.mem_cons_self, rfl, denotes⟩
            · rcases fromMethods method inOthers with
                ⟨name, type, inMembers, denotes⟩
              exact ⟨name, type, List.mem_cons_of_mem _ inMembers, denotes⟩
          · intro type inEmbeds
            rcases fromEmbeds type inEmbeds with
              ⟨expression, inMembers, denotes⟩
            exact ⟨expression, List.mem_cons_of_mem _ inMembers, denotes⟩
      | embed expression =>
          rw [denoteMembers] at succeeds
          rcases bind_eq_ok succeeds with ⟨type, denotes, succeeds⟩
          rcases bind_eq_ok succeeds with
            ⟨⟨others, types⟩, denotesOthers, succeeds⟩
          cases succeeds
          rcases ih denotesOthers with ⟨fromMethods, fromEmbeds⟩
          constructor
          · intro method inMethods
            rcases fromMethods method inMethods with
              ⟨name, type, inMembers, denotes⟩
            exact ⟨name, type, List.mem_cons_of_mem _ inMembers, denotes⟩
          · intro found inEmbeds
            rcases List.mem_cons.mp inEmbeds with rfl | inOthers
            · exact ⟨expression, List.mem_cons_self, denotes⟩
            · rcases fromEmbeds found inOthers with
                ⟨other, inMembers, denotes⟩
              exact ⟨other, List.mem_cons_of_mem _ inMembers, denotes⟩

theorem denoteTerms_eq_ok
    {terms : List TermExpr} {members : List UnionMember}
    (succeeds : denoteTerms scope terms = .ok members) :
    List.Forall₂
      (fun term member => member.approximate = term.approximate ∧
        term.type.denote scope = .ok member.type)
      terms members := by
  induction terms generalizing members with
  | nil =>
      cases succeeds
      exact .nil
  | cons term terms ih =>
      rcases term with ⟨approximate, type⟩
      rw [denoteTerms] at succeeds
      rcases bind_eq_ok succeeds with ⟨first, denotes, succeeds⟩
      rcases bind_eq_ok succeeds with ⟨others, denotesOthers, succeeds⟩
      cases succeeds
      exact .cons ⟨rfl, denotes⟩ (ih denotesOthers)

/-- A parameter denotes a variable of its type, or of a slice of it. -/
def ParameterExpr.Denotes
    (scope : Scope) (expression : ParameterExpr) (item : Variable) :
    Prop :=
  item.name = parameterName expression.identifier ∧
    ∃ type, expression.type.denote scope = .ok type ∧
      (item.type = type ∨ item.type = .slice type)

theorem denoteVariables_eq_ok
    {variadic : Bool} {expressions : List ParameterExpr}
    {items : List Variable}
    (succeeds : denoteVariables scope variadic expressions = .ok items) :
    List.Forall₂ (ParameterExpr.Denotes scope) expressions items ∧
      (variadic = true → expressions ≠ [] → EndsWithSlice items) := by
  induction expressions generalizing items with
  | nil =>
      cases succeeds
      exact ⟨.nil, fun _ nonempty => absurd rfl nonempty⟩
  | cons expression expressions ih =>
      rcases expression with ⟨identifier, type⟩
      cases expressions with
      | nil =>
          rw [denoteVariables] at succeeds
          rcases bind_eq_ok succeeds with ⟨first, denotes, succeeds⟩
          cases succeeds
          constructor
          · refine .cons ⟨rfl, first, denotes, ?_⟩ .nil
            cases variadic with
            | false => exact .inl rfl
            | true => exact .inr rfl
          · rintro rfl -
            exact ⟨[], _, first, rfl⟩
      | cons second rest =>
          rw [denoteVariables] at succeeds
          · rcases bind_eq_ok succeeds with ⟨first, denotes, succeeds⟩
            rcases bind_eq_ok succeeds with
              ⟨others, denotesOthers, succeeds⟩
            cases succeeds
            rcases ih denotesOthers with ⟨each, endsWithSlice⟩
            refine ⟨.cons ⟨rfl, first, denotes, .inl rfl⟩ each, ?_⟩
            intro isVariadic _
            rcases endsWithSlice isVariadic (by simp) with
              ⟨front, name, element, rfl⟩
            exact ⟨_ :: front, name, element, rfl⟩
          · simp

/-! ## Names -/

theorem BasicType.ofName?_eq_some
    {name : String} {type : BasicType}
    (found : BasicType.ofName? name = some type) :
    (GoType.basic type).ownName? = some name := by
  have named := List.find?_some found
  have isPredeclared := List.mem_of_find?_eq_some found
  obtain rfl : type.name = name := by simpa using named
  cases type with
  | unsafePointer => simp [BasicType.predeclared] at isPredeclared
  | _ => rfl

theorem universal?_eq_some
    {name : String} {type : GoType}
    (isName : IsName name)
    (found : Scope.universal? name = some type) :
    type.ownName? = some name ∧ WellFormed inside .plain type := by
  rw [Scope.universal?] at found
  split at found
  case h_1 basic isBasic =>
    cases found
    exact ⟨BasicType.ofName?_eq_some isBasic, .basic⟩
  case h_2 =>
    split at found
    case isTrue =>
      cases found
      exact ⟨rfl, .named isName (fun _ => rfl) (by simp) (by simp)⟩
    case isFalse => cases found

/-- What a resolved name stands for goes by that name, and is well formed if its arguments are. -/
def ResolvesWell
    (inside : Bool) (name : String) (resolved : Scope.Resolved) : Prop :=
  ∀ arguments type,
    (∀ argument ∈ arguments, WellFormed inside .plain argument) →
      resolved arguments = .ok type →
        type.ownName? = some name ∧ WellFormed inside .plain type

theorem constant_resolvesWell
    {name : String} {type : GoType}
    (named : type.ownName? = some name)
    (wellFormed : WellFormed inside .plain type) :
    ResolvesWell inside name (Scope.constant type) := by
  rintro arguments result - resolves
  cases resolves
  exact ⟨named, wellFormed⟩

theorem resolveDeclared_resolvesWell
    {declared : Declared} {count : Nat} {span : Text.Span}
    {resolved : Scope.Resolved}
    (carries : scope.CarriesWell inside)
    (isDeclared : declared ∈ scope.package.declared)
    (isName : IsName declared.name)
    (succeeds : scope.resolveDeclared declared count span = .ok resolved) :
    ResolvesWell inside declared.name resolved := by
  simp only [Scope.resolveDeclared] at succeeds
  split at succeeds
  case isTrue =>
    cases succeeds
    intro arguments type wellFormed resolves
    rcases bind_eq_ok resolves with ⟨parameters, carried, result⟩
    cases result
    rcases carries declared isDeclared parameters carried with
      ⟨shallow, constraints⟩
    exact ⟨rfl, .named isName shallow constraints wellFormed⟩
  case isFalse =>
    split at succeeds
    · cases succeeds
    · cases succeeds

theorem resolveLocal_resolvesWell
    {identifier : Identifier} {count : Nat} {span : Text.Span}
    {resolved : Scope.Resolved}
    (carries : scope.CarriesWell inside)
    (isName : IsName identifier.name)
    (succeeds : scope.resolveLocal identifier count span = .ok resolved) :
    ResolvesWell inside identifier.name resolved := by
  simp only [Scope.resolveLocal] at succeeds
  split at succeeds
  case isTrue =>
    split at succeeds
    case isTrue =>
      cases succeeds
      exact constant_resolvesWell rfl
        (.named isName (fun _ => rfl) (by simp) (by simp))
    case isFalse => cases succeeds
  case isFalse =>
    split at succeeds
    case h_1 declared found =>
      have named : declared.name = identifier.name := by
        simpa using List.find?_some found
      rw [← named] at isName ⊢
      exact resolveDeclared_resolvesWell carries
        (List.mem_of_find?_eq_some found) isName succeeds
    case h_2 =>
      split at succeeds
      case h_1 type found =>
        split at succeeds
        case isTrue =>
          cases succeeds
          rcases universal?_eq_some isName found with ⟨named, wellFormed⟩
          exact constant_resolvesWell named wellFormed
        case isFalse => cases succeeds
      case h_2 =>
        split at succeeds
        · cases succeeds
        · cases succeeds

theorem resolveImported_resolvesWell
    {qualifier identifier : Identifier} {count : Nat}
    {resolved : Scope.Resolved}
    (isName : IsName identifier.name)
    (succeeds :
      scope.resolveImported qualifier identifier count = .ok resolved) :
    ResolvesWell inside identifier.name resolved := by
  simp only [Scope.resolveImported] at succeeds
  split at succeeds
  case h_1 => cases succeeds
  case h_2 path _ =>
    split at succeeds
    case isTrue =>
      split at succeeds
      case isTrue isPointer =>
        cases succeeds
        exact constant_resolvesWell (congrArg some isPointer.1.symm) .basic
      case isFalse => cases succeeds
    case isFalse =>
      split at succeeds
      case isTrue =>
        cases succeeds
        intro arguments type wellFormed resolves
        cases resolves
        exact ⟨rfl, .named isName (fun _ => rfl) (by simp) wellFormed⟩
      case isFalse => cases succeeds

/-- A name denotes a type that goes by it, well formed if the type arguments denote such types. -/
theorem denote_name
    {span : Text.Span} {qualifier : Option Identifier}
    {identifier : Identifier} {arguments : List TypeExpr} {type : GoType}
    (carries : scope.CarriesWell inside)
    (isName : IsName identifier.name)
    (wellFormed :
      ∀ argument ∈ arguments, argument.DenotesWell scope inside .plain)
    (succeeds :
      (TypeExpr.name span qualifier identifier arguments).denote scope =
        .ok type) :
    type.ownName? = some identifier.name ∧
      WellFormed inside .plain type := by
  rw [TypeExpr.denote] at succeeds
  rcases bind_eq_ok succeeds with ⟨resolved, resolves, succeeds⟩
  rcases bind_eq_ok succeeds with ⟨types, denotes, yields⟩
  have wellFormedTypes : ∀ type ∈ types, WellFormed inside .plain type := by
    intro type inTypes
    rcases exists_of_forall₂ (denoteAll_eq_ok denotes) inTypes with
      ⟨argument, inArguments, denotes⟩
    exact wellFormed argument inArguments type denotes
  cases qualifier with
  | none =>
      exact resolveLocal_resolvesWell carries isName resolves types type
        wellFormedTypes yields
  | some qualifier =>
      exact resolveImported_resolvesWell isName resolves types type
        wellFormedTypes yields

end GoUnion
