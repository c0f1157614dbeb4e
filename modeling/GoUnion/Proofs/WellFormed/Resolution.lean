import GoUnion.Proofs.WellFormed.Denotation
import GoUnion.Proofs.Grammar.Shape

/-!
# Phrases denote well-formed types

The invariant that goes through the grammar: whatever the type of a phrase
denotes is well formed, and the lists of a phrase have the shape that
resolution relies on.  Which names a parameter list has, what an embedded field
is called and where a union stands is settled by the grammar; resolution only
has to keep it.
-/

namespace GoUnion

open Lexeme (IsName)
open Reader (Phrase Reads Separated Enclosed Names ParameterEntry bind_eq_ok)

variable {scope : Scope} {inside : Bool}

/-- Every identifier among some tokens has a name for its text. -/
def HaveNames (tokens : List Token) : Prop :=
  ∀ token ∈ tokens, token.kind = .identifier → IsName token.text

/-- The parameters of a list all have names or all lack them. -/
def ParametersAgree (list : List ParameterExpr) : Prop :=
  (∀ parameter ∈ list, parameter.identifier = none) ∨
    ∀ parameter ∈ list, IsName (parameterName parameter.identifier)

/-- What resolution needs to know of a phrase. -/
def DenotesWell (scope : Scope) (inside : Bool) : Phrase → Prop
  | .type expression => expression.DenotesWell scope inside .plain
  | .name expression last =>
    ∃ span qualifier arguments,
      expression = .name span qualifier last arguments ∧
        IsName last.name ∧
        ∀ argument ∈ arguments, argument.DenotesWell scope inside .plain
  | .function expression => expression.DenotesWell scope inside
  | .parameters _ list variadic =>
    (∀ parameter ∈ list,
        parameter.type.DenotesWell scope inside .plain) ∧
      ParametersAgree list ∧ (variadic = true → list ≠ [])
  | .entry entry =>
    match entry with
    | .bare identifier => IsName identifier.name
    | .named identifier type _ =>
      IsName identifier.name ∧ type.DenotesWell scope inside .plain
    | .unnamed type _ => type.DenotesWell scope inside .plain
  | .fields list =>
    ∀ field ∈ list, IsName field.identifier.name ∧
      field.type.DenotesWell scope inside .plain ∧
      (field.embedded = true → ∀ type, field.type.denote scope = .ok type →
        EmbeddedAs field.identifier.name type)
  | .member member =>
    match member with
    | .method identifier function =>
      IsName identifier.name ∧ function.DenotesWell scope inside
    | .embed type => type.DenotesWell scope inside .typeSet
  | .constraint expression => expression.DenotesWell scope inside .typeSet
  | .term term => term.type.DenotesWell scope inside .plain

/-! ## Tokens of parts -/

theorem HaveNames.tail
    {token : Token} {tokens : List Token}
    (haveNames : HaveNames (token :: tokens)) : HaveNames tokens :=
  fun other inTokens => haveNames other (List.mem_cons_of_mem _ inTokens)

theorem HaveNames.left
    {front back : List Token} (haveNames : HaveNames (front ++ back)) :
    HaveNames front :=
  fun token inFront => haveNames token (List.mem_append_left _ inFront)

theorem HaveNames.right
    {front back : List Token} (haveNames : HaveNames (front ++ back)) :
    HaveNames back :=
  fun token inBack => haveNames token (List.mem_append_right _ inBack)

/-- The parts of which tokens are made. -/
theorem HaveNames.of_parts
    {α : Type} {parts : List (List Token × α)} {tokens : List Token}
    (haveNames : HaveNames tokens)
    (within : ∀ piece ∈ parts.map (·.1), ∀ token ∈ piece, token ∈ tokens)
    {part : List Token × α} (inParts : part ∈ parts) :
    HaveNames part.1 :=
  fun token inPart => haveNames token
    (within part.1 (List.mem_map_of_mem inParts) token inPart)

theorem DenotesWell.of_name
    {expression : TypeExpr} {last : Identifier} {type : GoType}
    (well : DenotesWell scope inside (.name expression last))
    (carries : scope.CarriesWell inside)
    (denotes : expression.denote scope = .ok type) :
    type.ownName? = some last.name ∧ WellFormed inside .plain type := by
  rcases well with ⟨span, qualifier, arguments, rfl, isName, each⟩
  exact denote_name carries isName each denotes

theorem DenotesWell.isName
    {expression : TypeExpr} {last : Identifier}
    (well : DenotesWell scope inside (.name expression last)) :
    IsName last.name := by
  rcases well with ⟨_, _, _, _, isName, _⟩
  exact isName

theorem Names.haveNames
    {tokens : List Token} {names : List Identifier}
    (areNames : Names tokens names) (haveNames : HaveNames tokens) :
    ∀ name ∈ names, IsName name.name := by
  induction areNames with
  | one isName =>
      intro name inNames
      rw [List.mem_singleton.mp inNames]
      exact haveNames _ List.mem_cons_self isName
  | more isName _ _ ih =>
      intro name inNames
      rcases List.mem_cons.mp inNames with rfl | inOthers
      · exact haveNames _ List.mem_cons_self isName
      · exact ih haveNames.tail.tail name inOthers

/-! ## Parameter lists -/

theorem shareTypes_eq_ok
    {close : Text.Span} {pending : List Identifier}
    {entries : List ParameterEntry} {list : List ParameterExpr}
    (succeeds :
      ParameterEntry.shareTypes close pending entries = .ok list)
    (pendingNamed : ∀ identifier ∈ pending, IsName identifier.name)
    (reads : ∀ entry ∈ entries, DenotesWell scope inside (.entry entry)) :
    (∀ parameter ∈ list, parameter.type.DenotesWell scope inside .plain ∧
      IsName (parameterName parameter.identifier)) ∧
      list.length = pending.length + entries.length := by
  induction entries generalizing pending list with
  | nil =>
      cases pending with
      | nil =>
          cases succeeds
          exact ⟨by simp, rfl⟩
      | cons => cases succeeds
  | cons entry entries ih =>
      rcases List.forall_mem_cons.mp reads with ⟨readsFirst, readsOthers⟩
      cases entry with
      | bare identifier =>
          rw [ParameterEntry.shareTypes] at succeeds
          have allNamed : ∀ name ∈ pending ++ [identifier],
              IsName name.name := by
            intro name inNames
            rcases List.mem_append.mp inNames with inPending | isOwn
            · exact pendingNamed name inPending
            · rw [List.mem_singleton.mp isOwn]
              exact readsFirst
          rcases ih succeeds allNamed readsOthers with ⟨each, length⟩
          refine ⟨each, ?_⟩
          simp only [List.length_append, List.length_cons,
            List.length_nil] at length ⊢
          omega
      | named identifier type variadic =>
          rw [ParameterEntry.shareTypes] at succeeds
          rcases bind_eq_ok succeeds with ⟨others, shares, succeeds⟩
          cases succeeds
          rcases ih shares (by simp) readsOthers with ⟨each, length⟩
          constructor
          · intro parameter inList
            rcases List.mem_append.mp inList with inFirst | inOthers
            · rcases List.mem_map.mp inFirst with ⟨name, inNames, rfl⟩
              refine ⟨readsFirst.2, ?_⟩
              rcases List.mem_append.mp inNames with inPending | isOwn
              · exact pendingNamed name inPending
              · rw [List.mem_singleton.mp isOwn]
                exact readsFirst.1
            · exact each parameter inOthers
          · simp only [List.length_append, List.length_map,
              List.length_cons, List.length_nil] at length ⊢
            omega
      | unnamed type variadic =>
          cases pending with
          | nil => cases succeeds
          | cons => cases succeeds

theorem variadic_eq_ok
    {allowed isVariadic : Bool} {close : Text.Span}
    {entries : List ParameterEntry}
    (succeeds :
      ParameterEntry.variadic allowed close entries = .ok isVariadic)
    (spreads : isVariadic = true) :
    entries ≠ [] := by
  rintro rfl
  subst spreads
  cases succeeds

theorem resolve_denotesWell
    {allowed variadic : Bool} {close : Text.Span}
    {entries : List ParameterEntry} {list : List ParameterExpr}
    (carries : scope.CarriesWell inside)
    (succeeds :
      ParameterEntry.resolve allowed close entries = .ok (list, variadic))
    (reads : ∀ entry ∈ entries, DenotesWell scope inside (.entry entry)) :
    DenotesWell scope inside (.parameters allowed list variadic) := by
  rcases bind_eq_ok succeeds with ⟨isVariadic, spreads, succeeds⟩
  split at succeeds
  case isTrue =>
    rcases bind_eq_ok succeeds with ⟨parameters, shares, succeeds⟩
    cases succeeds
    rcases shareTypes_eq_ok shares (by simp) reads with ⟨each, length⟩
    refine ⟨fun parameter inList => (each parameter inList).1,
      .inr fun parameter inList => (each parameter inList).2, ?_⟩
    rintro isVariadic rfl
    have nonempty := variadic_eq_ok spreads isVariadic
    simp only [List.length_nil, Nat.zero_add] at length
    exact nonempty (List.length_eq_zero_iff.mp length.symm)
  case isFalse =>
    cases succeeds
    refine ⟨?_, .inl ?_, ?_⟩
    · intro parameter inList
      rcases List.mem_map.mp inList with ⟨entry, inEntries, rfl⟩
      cases entry with
      | bare identifier =>
          intro type denotes
          exact (denote_name carries (reads _ inEntries) (by simp)
            denotes).2
      | named identifier type _ => exact (reads _ inEntries).2
      | unnamed type _ => exact reads _ inEntries
    · intro parameter inList
      rcases List.mem_map.mp inList with ⟨entry, inEntries, rfl⟩
      cases entry with
      | bare | named | unnamed => rfl
    · intro isVariadic isEmpty
      exact variadic_eq_ok spreads isVariadic (List.map_eq_nil_iff.mp isEmpty)

/-! ## Functions, fields and type sets -/

theorem denoteVariables_agree
    {variadic : Bool} {list : List ParameterExpr} {items : List Variable}
    (agree : ParametersAgree list)
    (succeeds : denoteVariables scope variadic list = .ok items) :
    NamesAgree items := by
  have related := (denoteVariables_eq_ok succeeds).1
  rcases agree with unnamed | named
  · left
    intro item inItems
    rcases exists_of_forall₂ related inItems with
      ⟨parameter, inList, name, -⟩
    rw [name, unnamed parameter inList]
    rfl
  · right
    intro item inItems
    rcases exists_of_forall₂ related inItems with
      ⟨parameter, inList, name, -⟩
    rw [name]
    exact (named parameter inList).ne_empty

theorem denoteVariables_named
    {variadic : Bool} {list : List ParameterExpr} {items : List Variable}
    (agree : ParametersAgree list)
    (succeeds : denoteVariables scope variadic list = .ok items) :
    ∀ item ∈ items, item.name ≠ "" → IsName item.name := by
  intro item inItems hasName
  rcases exists_of_forall₂ (denoteVariables_eq_ok succeeds).1 inItems with
    ⟨parameter, inList, name, -⟩
  rw [name] at hasName ⊢
  rcases agree with unnamed | named
  · rw [unnamed parameter inList] at hasName
    exact absurd rfl hasName
  · exact named parameter inList

theorem denoteVariables_wellFormed
    {variadic : Bool} {list : List ParameterExpr} {items : List Variable}
    (each : ∀ parameter ∈ list,
      parameter.type.DenotesWell scope inside .plain)
    (succeeds : denoteVariables scope variadic list = .ok items) :
    ∀ item ∈ items, WellFormed inside .plain item.type := by
  intro item inItems
  rcases exists_of_forall₂ (denoteVariables_eq_ok succeeds).1 inItems with
    ⟨parameter, inList, -, type, denotes, same | isSlice⟩
  · rw [same]
    exact each parameter inList type denotes
  · rw [isSlice]
    exact .slice (each parameter inList type denotes)

theorem function_denotesWell
    {parameters results : List ParameterExpr} {variadic allowed spread : Bool}
    (parametersWell :
      DenotesWell scope inside (.parameters allowed parameters variadic))
    (resultsWell :
      DenotesWell scope inside (.parameters false results spread)) :
    FunctionExpr.DenotesWell scope inside
      ⟨parameters, results, variadic⟩ := by
  intro signature succeeds
  rcases parametersWell with ⟨eachParameter, parametersAgree, nonempty⟩
  rcases resultsWell with ⟨eachResult, resultsAgree, -⟩
  rw [FunctionExpr.denote] at succeeds
  rcases bind_eq_ok succeeds with ⟨items, denotes, succeeds⟩
  rcases bind_eq_ok succeeds with ⟨outcomes, denotesResults, succeeds⟩
  cases succeeds
  exact .plain (denoteVariables_wellFormed eachParameter denotes)
    (denoteVariables_wellFormed eachResult denotesResults)
    (denoteVariables_agree parametersAgree denotes)
    (denoteVariables_agree resultsAgree denotesResults)
    (denoteVariables_named parametersAgree denotes)
    (denoteVariables_named resultsAgree denotesResults)
    fun isVariadic =>
      (denoteVariables_eq_ok denotes).2 isVariadic (nonempty isVariadic)

/-- The fields that expressions denote one by one are well formed. -/
theorem fields_wellFormed
    {expressions : List FieldExpr} {fields : List Field}
    {place : TypePlace}
    (related : List.Forall₂ (FieldExpr.Denotes scope) expressions fields)
    (well : DenotesWell scope inside (.fields expressions)) :
    WellFormed inside place (.record fields) := by
  constructor
  · intro field inFields
    rcases exists_of_forall₂ related inFields with
      ⟨expression, inExpressions, name, -, -, -⟩
    rw [name]
    exact (well expression inExpressions).1
  · intro field inFields
    rcases exists_of_forall₂ related inFields with
      ⟨expression, inExpressions, -, denotes, -, -⟩
    exact (well expression inExpressions).2.1 field.type denotes
  · intro field inFields isEmbedded
    rcases exists_of_forall₂ related inFields with
      ⟨expression, inExpressions, name, denotes, -, embedded⟩
    rw [name]
    exact (well expression inExpressions).2.2 (embedded ▸ isEmbedded)
      field.type denotes

theorem embedded_denotesWell
    {type : TypeExpr} {last : Identifier} {tag : Option String}
    (carries : scope.CarriesWell inside)
    (well : DenotesWell scope inside (.name type last)) :
    DenotesWell scope inside (.fields [⟨last, type, tag, true⟩]) := by
  intro field inList
  rw [List.mem_singleton.mp inList]
  refine ⟨well.isName, ?_, ?_⟩
  · intro result denotes
    exact (well.of_name carries denotes).2
  · intro _ result denotes
    exact .inl (well.of_name carries denotes).1

theorem embeddedPointer_denotesWell
    {span : Text.Span} {type : TypeExpr} {last : Identifier}
    {tag : Option String}
    (carries : scope.CarriesWell inside)
    (well : DenotesWell scope inside (.name type last)) :
    DenotesWell scope inside
      (.fields [⟨last, .pointer span type, tag, true⟩]) := by
  intro field inList
  rw [List.mem_singleton.mp inList]
  refine ⟨well.isName, ?_, ?_⟩
  · intro result succeeds
    rw [TypeExpr.denote] at succeeds
    rcases bind_eq_ok succeeds with ⟨element, denotes, yields⟩
    cases yields
    exact .pointer (well.of_name carries denotes).2
  · intro _ result succeeds
    rw [TypeExpr.denote] at succeeds
    rcases bind_eq_ok succeeds with ⟨element, denotes, yields⟩
    cases yields
    exact .inr ⟨element, rfl, (well.of_name carries denotes).1⟩

theorem namedFields_denotesWell
    {names : List Identifier} {type : TypeExpr} {tag : Option String}
    (named : ∀ name ∈ names, IsName name.name)
    (well : type.DenotesWell scope inside .plain) :
    DenotesWell scope inside (.fields (Reader.fieldsOf names type tag)) := by
  intro field inFields
  rcases List.mem_map.mp inFields with ⟨name, inNames, rfl⟩
  exact ⟨named name inNames, well, fun isEmbedded => Bool.noConfusion isEmbedded⟩

theorem interface_denotesWell
    {span : Text.Span} {members : List MemberExpr}
    (well : ∀ member ∈ members, DenotesWell scope inside (.member member)) :
    (TypeExpr.interface span members).DenotesWell scope inside .plain := by
  intro type succeeds
  rw [TypeExpr.denote] at succeeds
  rcases bind_eq_ok succeeds with ⟨⟨methods, embeds⟩, denotes, yields⟩
  cases yields
  rcases denoteMembers_eq_ok denotes with ⟨fromMethods, fromEmbeds⟩
  constructor
  · intro method inMethods
    rcases fromMethods method inMethods with
      ⟨identifier, function, inMembers, name, -⟩
    rw [name]
    exact (well _ inMembers).1
  · intro method inMethods
    rcases fromMethods method inMethods with
      ⟨identifier, function, inMembers, -, denotes⟩
    exact (well _ inMembers).2 _ denotes
  · intro embed inEmbeds
    rcases fromEmbeds embed inEmbeds with ⟨expression, inMembers, denotes⟩
    exact well _ inMembers _ denotes

theorem union_denotesWell
    {span : Text.Span} {terms : List TermExpr}
    (nonempty : terms ≠ [])
    (proper : ∀ type, terms ≠ [⟨false, type⟩])
    (well : ∀ term ∈ terms, DenotesWell scope inside (.term term)) :
    (TypeExpr.union span terms).DenotesWell scope inside .typeSet := by
  intro type succeeds
  rw [TypeExpr.denote] at succeeds
  rcases bind_eq_ok succeeds with ⟨members, denotes, yields⟩
  cases yields
  have related := denoteTerms_eq_ok denotes
  constructor
  · intro member inMembers
    rcases exists_of_forall₂ related inMembers with
      ⟨term, inTerms, -, denotes⟩
    exact well term inTerms member.type denotes
  · rcases related with _ | ⟨⟨same, -⟩, _ | ⟨_, _⟩⟩
    · exact absurd rfl nonempty
    · rename_i term member
      right
      refine ⟨member, rfl, ?_⟩
      rcases term with ⟨approximate, type⟩
      cases approximate with
      | true => exact same
      | false => exact absurd rfl (proper type)
    · left
      simp

/-! ## All phrases -/

/-- An expression that denotes a type around the one that its element denotes. -/
theorem element_denotesWell
    {expression element : TypeExpr} (around : GoType → GoType)
    (denotes :
      expression.denote scope =
        element.denote scope >>= fun inner => .ok (around inner))
    (keeps : ∀ inner, WellFormed inside .plain inner →
      WellFormed inside .plain (around inner))
    (well : element.DenotesWell scope inside .plain) :
    expression.DenotesWell scope inside .plain := by
  intro type succeeds
  rw [denotes] at succeeds
  rcases bind_eq_ok succeeds with ⟨inner, denotes, yields⟩
  cases yields
  exact keeps inner (well inner denotes)

/-- Every phrase of the grammar whose identifiers are names denotes well-formed types only. -/
theorem Reads.denotesWell
    {source : List Char} {tokens : List Token} {phrase : Phrase}
    (reads : Reads source tokens phrase)
    (carries : scope.CarriesWell inside)
    (haveNames : HaveNames tokens) :
    DenotesWell scope inside phrase := by
  induction reads with
  | named _ ih =>
      intro type denotes
      exact ((ih haveNames).of_name carries denotes).2
  | parens _ _ _ ih => exact ih haveNames.tail.left
  | pointer _ _ ih =>
      exact element_denotesWell .pointer (by rw [TypeExpr.denote]; rfl)
        (fun _ => .pointer) (ih haveNames.tail)
  | slice _ _ _ ih =>
      exact element_denotesWell .slice (by rw [TypeExpr.denote]; rfl)
        (fun _ => .slice) (ih haveNames.tail.tail)
  | array _ _ _ ih =>
      intro type succeeds
      rw [TypeExpr.denote] at succeeds
      rcases bind_eq_ok succeeds with ⟨length, _, succeeds⟩
      rcases bind_eq_ok succeeds with ⟨inner, denotes, yields⟩
      cases yields
      exact .array (ih haveNames.tail.right inner denotes)
  | map _ _ _ _ _ ihKey ihValue =>
      intro type succeeds
      rw [TypeExpr.denote] at succeeds
      rcases bind_eq_ok succeeds with ⟨key, denotesKey, succeeds⟩
      rcases bind_eq_ok succeeds with ⟨value, denotesValue, yields⟩
      cases yields
      have behind := haveNames.tail.tail
      exact .map (ihKey behind.left key denotesKey)
        (ihValue behind.right.tail value denotesValue)
  | channel _ _ _ ih =>
      exact element_denotesWell (.channel .both)
        (by rw [TypeExpr.denote]; rfl) (fun _ => .channel)
        (ih haveNames.tail)
  | sending _ _ _ ih =>
      exact element_denotesWell (.channel .send)
        (by rw [TypeExpr.denote]; rfl) (fun _ => .channel)
        (ih haveNames.tail.tail)
  | receiving _ _ _ ih =>
      exact element_denotesWell (.channel .receive)
        (by rw [TypeExpr.denote]; rfl) (fun _ => .channel)
        (ih haveNames.tail.tail)
  | functionType _ _ ih =>
      intro type succeeds
      rw [TypeExpr.denote] at succeeds
      rcases bind_eq_ok succeeds with ⟨signature, denotes, yields⟩
      cases yields
      exact .function (ih haveNames.tail signature denotes)
  | record _ _ enclosed _ ih =>
      intro type succeeds
      rw [TypeExpr.denote] at succeeds
      rcases bind_eq_ok succeeds with ⟨fields, denotes, yields⟩
      cases yields
      refine fields_wellFormed (denoteFields_eq_ok denotes) ?_
      intro field inFields
      rcases List.mem_flatten.mp inFields with ⟨list, inLists, inList⟩
      rcases List.mem_map.mp inLists with ⟨part, inParts, rfl⟩
      exact ih part inParts (haveNames.tail.tail.of_parts
        (fun _ inPieces _ => enclosed.mem inPieces) inParts) field inList
  | interface _ _ enclosed _ ih =>
      apply interface_denotesWell
      intro member inMembers
      rcases List.mem_map.mp inMembers with ⟨part, inParts, rfl⟩
      exact ih part inParts (haveNames.tail.tail.of_parts
        (fun _ inPieces _ => enclosed.mem inPieces) inParts)
  | plainName isName =>
      exact ⟨_, none, [], rfl, haveNames _ List.mem_cons_self isName,
        by simp⟩
  | genericName isName _ separated _ _ ih =>
      refine ⟨_, none, _, rfl, haveNames _ List.mem_cons_self isName, ?_⟩
      intro argument inArguments
      rcases List.mem_map.mp inArguments with ⟨part, inParts, rfl⟩
      exact ih part inParts (haveNames.tail.tail.left.of_parts
        (fun _ inPieces _ => separated.mem inPieces) inParts)
  | @qualifiedName qualifier dot tokens span last arguments _ _ _ ih =>
      rcases ih haveNames.tail.tail with ⟨_, _, _, same, isName, each⟩
      cases same
      exact ⟨_, some _, arguments, rfl, isName, each⟩
  | procedure _ ih =>
      have resultsWell :
          DenotesWell scope inside (.parameters false [] false) :=
        ⟨by simp, .inl (by simp), by simp⟩
      exact function_denotesWell (ih haveNames) resultsWell
  | @oneResult _ _ _ _ result _ _ _ ih ihResult =>
      have resultsWell : DenotesWell scope inside
          (.parameters false [⟨none, result⟩] false) := by
        refine ⟨?_, .inl (by simp), by simp⟩
        intro parameter inList
        rw [List.mem_singleton.mp inList]
        exact ihResult haveNames.right
      exact function_denotesWell (ih haveNames.left) resultsWell
  | results _ _ ih ihResults =>
      exact function_denotesWell (ih haveNames.left)
        (ihResults haveNames.right)
  | noParameters => exact ⟨by simp, .inl (by simp), by simp⟩
  | parameters _ separated _ _ resolved ih =>
      refine resolve_denotesWell carries resolved ?_
      intro entry inEntries
      rcases List.mem_map.mp inEntries with ⟨part, inParts, rfl⟩
      exact ih part inParts (haveNames.tail.left.of_parts
        (fun _ inPieces _ => separated.mem inPieces) inParts)
  | bareEntry isName => exact haveNames _ List.mem_cons_self isName
  | unnamedEntry _ _ ih => exact ih haveNames
  | spreadEntry _ _ ih => exact ih haveNames.tail
  | namedEntry isName _ ih =>
      exact ⟨haveNames _ List.mem_cons_self isName, ih haveNames.tail⟩
  | namedSpreadEntry isName _ _ ih =>
      exact ⟨haveNames _ List.mem_cons_self isName,
        ih haveNames.tail.tail⟩
  | embeddedField _ _ ih =>
      exact embedded_denotesWell carries (ih haveNames.left)
  | embeddedPointer _ _ _ ih =>
      exact embeddedPointer_denotesWell carries (ih haveNames.tail.left)
  | namedFields areNames _ _ ih =>
      exact namedFields_denotesWell (Names.haveNames areNames haveNames.left)
        (ih haveNames.right.left)
  | method isName _ ih =>
      exact ⟨haveNames _ List.mem_cons_self isName, ih haveNames.tail⟩
  | embed _ ih => exact ih haveNames
  | single _ ih =>
      intro type denotes
      exact (ih haveNames type denotes).typeSet
  | union separated _ proper ih =>
      apply union_denotesWell
      · intro isEmpty
        rw [List.map_eq_nil_iff.mp isEmpty] at separated
        cases separated
      · exact proper
      · intro term inTerms
        rcases List.mem_map.mp inTerms with ⟨part, inParts, rfl⟩
        exact ih part inParts (haveNames.of_parts
          (fun _ inPieces _ => separated.mem inPieces) inParts)
  | plainTerm _ ih => exact ih haveNames
  | tildeTerm _ _ ih => exact ih haveNames.tail

end GoUnion
