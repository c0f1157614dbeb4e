import GoUnion.Proofs.ImportPlan

/-!
# Texts under a plan of imports

How the spelling of a type depends on the plan of imports.  A text that spells
types is cut into fragments: constant text, the names of basic types, and
references.  Only a reference is rendered differently under different plans.
The fragments that are names are exactly the basic types and the references
inside the types, in the order in which the types hold them.

Receivers and type parameters of function types are not spelled.  A type whose
function types have some therefore holds names that its text does not have;
`PlainSignatures` excludes it.
-/

namespace GoUnion

/-! ## Fragments -/

/-- A part of a text that spells types. -/
inductive Fragment where
  | constant (text : String)
  | basic (type : BasicType)
  | named (reference : NamedType)

namespace Fragment

/-- A fragment under a plan of imports. -/
def render (imports : ImportPlan) : Fragment → String
  | .constant text => text
  | .basic type => type.name
  | .named reference =>
    Spelling.qualification (imports.qualifier reference) ++ reference.name

/-- The type whose name a fragment is. -/
def named? : Fragment → Option GoType
  | .constant _ => none
  | .basic type => some (.basic type)
  | .named reference => some (.named reference)

end Fragment

/-- Fragments one after the other under a plan of imports. -/
def renderAll (imports : ImportPlan) (fragments : List Fragment) : String :=
  String.join (fragments.map (·.render imports))

/-- The types among some nodes that go by a name. -/
def namesOf (nodes : List GoType) : List GoType :=
  nodes.filter (·.ownName?.isSome)

/-- A text consists of fragments, of which some are the names of types. -/
def Spells (text : ImportPlan → String) (names : List GoType) : Prop :=
  ∃ fragments : List Fragment,
    (∀ imports, text imports = renderAll imports fragments) ∧
      fragments.filterMap Fragment.named? = names

namespace Spells

theorem constant (text : String) : Spells (fun _ => text) [] := by
  refine ⟨[.constant text], ?_, rfl⟩
  intro imports
  simp [renderAll, Fragment.render]

theorem basic (type : BasicType) :
    Spells (fun _ => type.name) [.basic type] := by
  refine ⟨[.basic type], ?_, rfl⟩
  intro imports
  simp [renderAll, Fragment.render]

theorem reference (reference : NamedType) :
    Spells
      (fun imports =>
        Spelling.qualification (imports.qualifier reference) ++
          reference.name)
      [.named reference] := by
  refine ⟨[.named reference], ?_, rfl⟩
  intro imports
  simp [renderAll, Fragment.render]

theorem append
    {front back : ImportPlan → String} {names others : List GoType}
    (spellsFront : Spells front names) (spellsBack : Spells back others) :
    Spells (fun imports => front imports ++ back imports)
      (names ++ others) := by
  rcases spellsFront with ⟨fragments, renders, rfl⟩
  rcases spellsBack with ⟨rest, rendersRest, rfl⟩
  refine ⟨fragments ++ rest, ?_, List.filterMap_append⟩
  intro imports
  simp only [renders, rendersRest, renderAll, List.map_append,
    String.join_append]

/-- Constant text in front of a text. -/
theorem after
    {text : ImportPlan → String} {names : List GoType}
    (opening : String) (spells : Spells text names) :
    Spells (fun imports => opening ++ text imports) names :=
  (constant opening).append spells

/-- Constant text behind a text. -/
theorem before
    {text : ImportPlan → String} {names : List GoType}
    (spells : Spells text names) (closing : String) :
    Spells (fun imports => text imports ++ closing) names := by
  rw [← List.append_nil names]
  exact spells.append (constant closing)

end Spells

/-- Texts that spell the names of types one after the other. -/
inductive SpellsAll :
    (ImportPlan → List String) → List GoType → Prop where
  | nil : SpellsAll (fun _ => []) []
  | cons {text : ImportPlan → String}
      {texts : ImportPlan → List String} {names others : List GoType}
      (first : Spells text names) (later : SpellsAll texts others) :
      SpellsAll (fun imports => text imports :: texts imports)
        (names ++ others)

namespace SpellsAll

variable {texts others : ImportPlan → List String}
  {names otherNames : List GoType}

theorem append
    (front : SpellsAll texts names) (back : SpellsAll others otherNames) :
    SpellsAll (fun imports => texts imports ++ others imports)
      (names ++ otherNames) := by
  induction front with
  | nil => exact back
  | cons first later ih =>
      rw [List.append_assoc]
      exact .cons first ih

/-- There is a text under one plan if there is one under another. -/
theorem nil_or_ne_nil (spells : SpellsAll texts names) :
    (texts = fun _ => []) ∧ names = [] ∨ ∀ imports, texts imports ≠ [] := by
  cases spells with
  | nil => exact .inl ⟨rfl, rfl⟩
  | cons first later => exact .inr fun _ => List.cons_ne_nil _ _

theorem joined
    (separator : String) (spells : SpellsAll texts names) :
    Spells (fun imports => Spelling.joined separator (texts imports))
      names := by
  induction spells with
  | nil => exact .constant ""
  | @cons text texts names others first later ih =>
      rcases later.nil_or_ne_nil with ⟨rfl, rfl⟩ | nonempty
      · simpa [Spelling.joined] using first
      · simp only [Spelling.joined,
          String.intercalate_cons_of_ne_nil (nonempty _)]
        exact (first.before separator).append ih

theorem bracketed (spells : SpellsAll texts names) :
    Spells (fun imports => Spelling.bracketed (texts imports)) names := by
  rcases spells.nil_or_ne_nil with ⟨rfl, rfl⟩ | nonempty
  · exact .constant ""
  · simp only [Spelling.bracketed, List.isEmpty_iff, nonempty, if_false]
    exact ((spells.joined ", ").after "[").before "]"

theorem braced (opening : String) (spells : SpellsAll texts names) :
    Spells (fun imports => Spelling.braced opening (texts imports))
      names := by
  rcases spells.nil_or_ne_nil with ⟨rfl, rfl⟩ | nonempty
  · exact .constant (Spelling.braced opening [])
  · simp only [Spelling.braced, List.isEmpty_iff, nonempty, if_false]
    exact ((spells.joined "; ").after _).before _

theorem results (bare : Bool) (spells : SpellsAll texts names) :
    Spells (fun imports => Spelling.results bare (texts imports))
      names := by
  rcases spells.nil_or_ne_nil with ⟨rfl, rfl⟩ | nonempty
  · exact .constant ""
  · simp only [Spelling.results, List.isEmpty_iff, nonempty, if_false]
    cases bare with
    | true => exact (spells.joined ", ").after " "
    | false => exact ((spells.joined ", ").after " (").before ")"

end SpellsAll

/-! ## Types -/

/-- A function type without a receiver and type parameters. -/
structure Signature.IsPlain (signature : Signature) : Prop where
  receiver : signature.receiver = none
  receiverParameters : signature.receiverParameters = []
  typeParameters : signature.typeParameters = []

/-- The function types that a node itself holds. -/
def GoType.signatures : GoType → List Signature
  | .function signature => [signature]
  | .interface methods _ => methods.map (·.signature)
  | _ => []

/-- Some nodes have no function types with receivers or type parameters. -/
def PlainSignatures (nodes : List GoType) : Prop :=
  ∀ node ∈ nodes, ∀ signature ∈ node.signatures, signature.IsPlain

@[simp]
theorem plainSignatures_cons {node : GoType} {nodes : List GoType} :
    PlainSignatures (node :: nodes) ↔
      (∀ signature ∈ node.signatures, signature.IsPlain) ∧
        PlainSignatures nodes :=
  List.forall_mem_cons

@[simp]
theorem plainSignatures_append {nodes others : List GoType} :
    PlainSignatures (nodes ++ others) ↔
      PlainSignatures nodes ∧ PlainSignatures others :=
  List.forall_mem_append

@[simp]
theorem namesOf_append (nodes others : List GoType) :
    namesOf (nodes ++ others) = namesOf nodes ++ namesOf others :=
  List.filter_append ..

/-- A type that does not go by a name has only the names inside it. -/
theorem namesOf_within
    {node : GoType} (unnamed : node.ownName? = none)
    (nodes : List GoType) :
    namesOf (node :: nodes) = namesOf nodes := by
  rw [namesOf, List.filter_cons, unnamed]
  rfl

/-- The names inside a plain function type are those of its parameters and results. -/
theorem Signature.IsPlain.nodes_eq
    {signature : Signature} (plain : signature.IsPlain) :
    signature.nodes =
      variableNodes signature.parameters ++
        variableNodes signature.results := by
  rcases signature with ⟨receiver, receiverParameters, _, _, typeParameters, _⟩
  rcases plain with ⟨⟨⟩, ⟨⟩, ⟨⟩⟩
  rfl

theorem spells_declared
    {text : ImportPlan → String} {names : List GoType}
    (named : Bool) (name : String) (spells : Spells text names) :
    Spells (fun imports => Spelling.declared named name (text imports))
      names := by
  cases named with
  | true => exact spells.after _
  | false => exact spells

mutual

/-- The text of a type consists of fragments, of which the names inside the type are some. -/
theorem GoType.spells : ∀ (type : GoType), PlainSignatures type.nodes →
    Spells (fun imports => type.spell imports.qualifier)
      (namesOf type.nodes)
  | .basic type, _ => by
      simp only [GoType.spell, GoType.nodes]
      cases type <;> exact .basic _
  | .named ⟨name, package, underlying, parameters, arguments⟩, plain => by
      simp only [nodes_named, plainSignatures_cons] at plain
      simp only [spell_named, nodes_named]
      exact (Spells.reference _).append
        (spellTypes_spells arguments plain.2).bracketed
  | .pointer element, plain => by
      simp only [GoType.nodes, plainSignatures_cons] at plain
      simp only [GoType.spell, GoType.nodes]
      exact (element.spells plain.2).after "*"
  | .array length element, plain => by
      simp only [GoType.nodes, plainSignatures_cons] at plain
      simp only [GoType.spell, GoType.nodes]
      exact (element.spells plain.2).after _
  | .slice element, plain => by
      simp only [GoType.nodes, plainSignatures_cons] at plain
      simp only [GoType.spell, GoType.nodes]
      exact (element.spells plain.2).after "[]"
  | .map key value, plain => by
      simp only [GoType.nodes, plainSignatures_cons,
        plainSignatures_append] at plain
      simp only [GoType.spell, GoType.nodes]
      rw [namesOf_within rfl, namesOf_append]
      exact (((key.spells plain.2.1).after "map[").before "]").append
        (value.spells plain.2.2)
  | .channel direction element, plain => by
      simp only [GoType.nodes, plainSignatures_cons] at plain
      have inner := element.spells plain.2
      simp only [GoType.spell, GoType.nodes, Spelling.inParens]
      split
      · exact ((inner.after "(").before ")").after _
      · exact inner.after _
  | .function signature, plain => by
      simp only [GoType.nodes, plainSignatures_cons] at plain
      simp only [GoType.spell, GoType.nodes]
      exact (signature.spells (plain.1 _ List.mem_cons_self)
        plain.2).after "func"
  | .record fields, plain => by
      simp only [GoType.nodes, plainSignatures_cons] at plain
      simp only [GoType.spell, GoType.nodes]
      exact (spellFields_spells fields plain.2).braced "struct"
  | .interface methods embeds, plain => by
      simp only [GoType.nodes, plainSignatures_cons,
        plainSignatures_append] at plain
      simp only [GoType.spell, GoType.nodes]
      rw [namesOf_within rfl, namesOf_append]
      exact ((spellMethods_spells methods
        (fun method isIn =>
          plain.1 _ (List.mem_map_of_mem isIn)) plain.2.1).append
        (spellTypes_spells embeds plain.2.2)).braced "interface"
  | .union members, plain => by
      simp only [GoType.nodes, plainSignatures_cons] at plain
      simp only [GoType.spell, GoType.nodes]
      exact (spellMembers_spells members plain.2).joined " | "

theorem Signature.spells : ∀ (signature : Signature), signature.IsPlain →
    PlainSignatures signature.nodes →
      Spells (fun imports => signature.spell imports.qualifier)
        (namesOf signature.nodes)
  | ⟨receiver, receiverParameters, parameters, results, typeParameters,
      variadic⟩, isPlain, plain => by
      rw [isPlain.nodes_eq] at plain ⊢
      rw [plainSignatures_append] at plain
      simp only [Signature.spell, namesOf_append]
      exact ((((spellVariables_spells parameters _ _ plain.1).joined
        ", ").after "(").before ")").append
        ((spellVariables_spells results _ _ plain.2).results _)

theorem spellTypes_spells : ∀ (types : List GoType),
    PlainSignatures (typeNodes types) →
      SpellsAll (fun imports => spellTypes imports.qualifier types)
        (namesOf (typeNodes types))
  | [], _ => .nil
  | type :: types, plain => by
      simp only [typeNodes, plainSignatures_append] at plain
      simp only [spellTypes, typeNodes, namesOf_append]
      exact .cons (type.spells plain.1) (spellTypes_spells types plain.2)

theorem spellVariables_spells :
    ∀ (list : List Variable) (named variadic : Bool),
      PlainSignatures (variableNodes list) →
        SpellsAll
          (fun imports =>
            spellVariables imports.qualifier named variadic list)
          (namesOf (variableNodes list))
  | [], _, _, _ => .nil
  | [⟨name, type⟩], named, variadic, plain => by
      simp only [variableNodes, List.append_nil] at plain ⊢
      rw [← List.append_nil (namesOf _)]
      cases type with
      | slice element =>
          simp only [GoType.nodes, plainSignatures_cons] at plain
          simp only [spellVariables, GoType.nodes]
          exact .cons (spells_declared named name
            ((element.spells plain.2).after _)) .nil
      | _ =>
          simp only [spellVariables]
          exact .cons
            (spells_declared named name (GoType.spells _ plain)) .nil
  | ⟨name, type⟩ :: second :: rest, named, variadic, plain => by
      rw [variableNodes, plainSignatures_append] at plain
      rw [variableNodes, namesOf_append]
      simp only [spellVariables]
      exact .cons (spells_declared named name (type.spells plain.1))
        (spellVariables_spells (second :: rest) named variadic plain.2)

theorem spellFields_spells : ∀ (fields : List Field),
    PlainSignatures (fieldNodes fields) →
      SpellsAll (fun imports => spellFields imports.qualifier fields)
        (namesOf (fieldNodes fields))
  | [], _ => .nil
  | ⟨name, type, tag, embedded⟩ :: fields, plain => by
      simp only [fieldNodes, plainSignatures_append] at plain
      simp only [spellFields, fieldNodes, namesOf_append]
      exact .cons (((type.spells plain.1).after _).before _)
        (spellFields_spells fields plain.2)

theorem spellMethods_spells : ∀ (methods : List Method),
    (∀ method ∈ methods, method.signature.IsPlain) →
      PlainSignatures (methodNodes methods) →
        SpellsAll (fun imports => spellMethods imports.qualifier methods)
          (namesOf (methodNodes methods))
  | [], _, _ => .nil
  | ⟨name, signature⟩ :: methods, arePlain, plain => by
      simp only [methodNodes, plainSignatures_append] at plain
      simp only [spellMethods, methodNodes, namesOf_append]
      exact .cons
        ((signature.spells (arePlain _ List.mem_cons_self) plain.1).after
          name)
        (spellMethods_spells methods
          (fun method isIn => arePlain _ (List.mem_cons_of_mem _ isIn))
          plain.2)

theorem spellMembers_spells : ∀ (members : List UnionMember),
    PlainSignatures (memberNodes members) →
      SpellsAll (fun imports => spellMembers imports.qualifier members)
        (namesOf (memberNodes members))
  | [], _ => .nil
  | ⟨approximate, type⟩ :: members, plain => by
      simp only [memberNodes, plainSignatures_append] at plain
      simp only [spellMembers, memberNodes, namesOf_append]
      exact .cons ((type.spells plain.1).after _)
        (spellMembers_spells members plain.2)

end

end GoUnion
