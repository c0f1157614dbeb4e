import GoUnion.Proofs.Fragments
import GoUnion.Union.Generation

/-!
# Emitted names

What the declarations of a generated file take from the plan of imports.  Every
block of lines consists of fragments, and the types whose names they are all
belong to the union.  The union type has the constraints and the constructors
have the types of the variants, whatever the features are; so every name that
the union is written with occurs in the text, and every import is used.
-/

namespace GoUnion

/-! ## Lines -/

/-- Lines one after the other, each ended by a newline. -/
def linesText (lines : List String) : String :=
  String.join (lines.map (· ++ "\n"))

theorem linesText_append (lines others : List String) :
    linesText (lines ++ others) = linesText lines ++ linesText others := by
  simp [linesText]

theorem SpellsAll.linesText
    {texts : ImportPlan → List String} {names : List GoType}
    (spells : SpellsAll texts names) :
    Spells (fun imports => GoUnion.linesText (texts imports)) names := by
  induction spells with
  | nil => exact .constant ""
  | cons first later ih =>
      simp only [GoUnion.linesText, List.map_cons, String.join_cons]
      exact (first.before "\n").append ih

theorem append_subset_append
    {front back names others : List GoType}
    (inFront : front ⊆ names) (inBack : back ⊆ others) :
    front ++ back ⊆ names ++ others :=
  List.append_subset.mpr
    ⟨List.Subset.trans inFront (List.subset_append_left ..),
      List.Subset.trans inBack (List.subset_append_right ..)⟩

/-- Lines spell all of some names and none but some others. -/
def SpellsBetween
    (least most : List GoType) (texts : ImportPlan → List String) :
    Prop :=
  ∃ names, SpellsAll texts names ∧ least ⊆ names ∧ names ⊆ most

namespace SpellsBetween

variable {least least' most names : List GoType}
  {text : ImportPlan → String} {texts others : ImportPlan → List String}

theorem nil : SpellsBetween [] most (fun _ => []) :=
  ⟨[], .nil, List.nil_subset _, List.nil_subset _⟩

/-- A line with names in front of others. -/
theorem line
    (spells : Spells text names) (inside : names ⊆ most)
    (later : SpellsBetween least most texts) :
    SpellsBetween (names ++ least) most
      (fun imports => text imports :: texts imports) := by
  rcases later with ⟨others, spellsAll, lower, upper⟩
  exact ⟨names ++ others, .cons spells spellsAll,
    append_subset_append (List.Subset.refl _) lower,
    List.append_subset.mpr ⟨inside, upper⟩⟩

/-- A constant line in front of others. -/
theorem keep
    (line : String) (later : SpellsBetween least most texts) :
    SpellsBetween least most (fun imports => line :: texts imports) :=
  SpellsBetween.line (.constant line) (List.nil_subset _) later

theorem constant (lines : List String) :
    SpellsBetween [] most (fun _ => lines) := by
  induction lines with
  | nil => exact .nil
  | cons line lines ih => exact .keep line ih

theorem append
    (front : SpellsBetween least most texts)
    (back : SpellsBetween least' most others) :
    SpellsBetween (least ++ least') most
      (fun imports => texts imports ++ others imports) := by
  rcases front with ⟨names, spells, lower, upper⟩
  rcases back with ⟨names', spells', lower', upper'⟩
  exact ⟨names ++ names', spells.append spells',
    append_subset_append lower lower',
    List.append_subset.mpr ⟨upper, upper'⟩⟩

theorem weaken
    (spells : SpellsBetween least most texts) (fewer : least' ⊆ least) :
    SpellsBetween least' most texts := by
  rcases spells with ⟨names, spellsAll, lower, upper⟩
  exact ⟨names, spellsAll, List.Subset.trans fewer lower, upper⟩

/-- Lines of which only the names that they may have matter. -/
theorem within (spells : SpellsBetween least most texts) :
    SpellsBetween [] most texts :=
  spells.weaken (List.nil_subset _)

/-- Lines that depend on a condition. -/
theorem cond
    {condition : Bool}
    {decides : ImportPlan → Decidable (condition = true)}
    (yes : SpellsBetween least most texts)
    (no : SpellsBetween least most others) :
    SpellsBetween least most fun imports =>
      @ite _ (condition = true) (decides imports) (texts imports)
        (others imports) := by
  cases condition with
  | true => simpa using yes
  | false => simpa using no

theorem flatMap
    {Item : Type} {items : List Item} {least : Item → List GoType}
    {lines : Item → ImportPlan → List String}
    (each : ∀ item ∈ items,
      SpellsBetween (least item) most (lines item)) :
    SpellsBetween (items.flatMap least) most
      (fun imports => items.flatMap fun item => lines item imports) := by
  induction items with
  | nil => exact .nil
  | cons item items ih =>
      rcases List.forall_mem_cons.mp each with ⟨first, later⟩
      exact first.append (ih later)

theorem map
    {Item : Type} {items : List Item} {names : Item → List GoType}
    {text : Item → ImportPlan → String}
    (each : ∀ item ∈ items,
      Spells (text item) (names item) ∧ names item ⊆ most) :
    SpellsBetween (items.flatMap names) most
      (fun imports => items.map fun item => text item imports) := by
  induction items with
  | nil => exact .nil
  | cons item items ih =>
      rcases List.forall_mem_cons.mp each with ⟨⟨spells, inside⟩, later⟩
      exact .line spells inside (ih later)

end SpellsBetween

theorem Spells.cond
    {condition : Bool}
    {decides : ImportPlan → Decidable (condition = true)}
    {text other : ImportPlan → String} {names : List GoType}
    (yes : condition = true → Spells text names)
    (no : condition = false → Spells other names) :
    Spells
      (fun imports =>
        @ite _ (condition = true) (decides imports) (text imports)
          (other imports))
      names := by
  cases condition with
  | true => simpa using yes rfl
  | false => simpa using no rfl

theorem SpellsAll.map
    {Item : Type} {items : List Item} {names : Item → List GoType}
    {text : Item → ImportPlan → String}
    (each : ∀ item ∈ items, Spells (text item) (names item)) :
    SpellsAll (fun imports => items.map fun item => text item imports)
      (items.flatMap names) := by
  induction items with
  | nil => exact .nil
  | cons item items ih =>
      rcases List.forall_mem_cons.mp each with ⟨spells, later⟩
      exact .cons spells (ih later)

/-! ## The source under another plan -/

namespace UnionSource

/-- The same source under another plan of imports. -/
def under (source : UnionSource) (imports : ImportPlan) : UnionSource :=
  { source with imports := imports }

/-- The lines of the declarations. -/
def declarationLines (source : UnionSource) : List String :=
  source.discriminantLines ++ source.stringLines ++ source.typeLines ++
    source.variantLines ++ source.valueLines ++ source.getterBlock ++
    source.setterBlock ++ source.matchLines ++ source.constructorBlock

theorem text_eq (source : UnionSource) :
    source.text =
      linesText source.header ++ linesText source.declarationLines := by
  rw [← linesText_append]
  simp only [text, linesText, lines, declarationLines, List.append_assoc]

section Constant

variable (source : UnionSource) (imports : ImportPlan)

@[simp]
theorem under_imports : (source.under imports).imports = imports := rfl

@[simp]
theorem under_descriptor :
    (source.under imports).descriptor = source.descriptor := rfl

@[simp]
theorem under_plan : (source.under imports).plan = source.plan := rfl

@[simp]
theorem under_config : (source.under imports).config = source.config := rfl

@[simp]
theorem under_state (name : String) :
    (source.under imports).state name = source.state name := rfl

@[simp]
theorem under_discriminant :
    (source.under imports).discriminant = source.discriminant := rfl

@[simp]
theorem under_instanceType :
    (source.under imports).instanceType = source.instanceType := rfl

@[simp]
theorem under_receiver :
    (source.under imports).receiver = source.receiver := rfl

@[simp]
theorem under_isCompact :
    (source.under imports).isCompact = source.isCompact := rfl

@[simp]
theorem under_literal (variant : Field) :
    (source.under imports).literal variant = source.literal variant := rfl

@[simp]
theorem under_constructorName (variant : Field) :
    (source.under imports).constructorName variant =
      source.constructorName variant := rfl

@[simp]
theorem under_named (names : List String) :
    (source.under imports).named names = source.named names := rfl

end Constant

/-! ## Blocks -/

/-- The names of the types of the variants and of the constraints. -/
def typeNames (source : UnionSource) : List GoType :=
  namesOf source.descriptor.nodes

variable {source : UnionSource}

theorem namesOf_subset_typeNames
    {type : GoType} (isType : type ∈ source.descriptor.types) :
    namesOf type.nodes ⊆ source.typeNames := by
  intro node isNode
  rcases List.mem_filter.mp isNode with ⟨isIn, isNamed⟩
  exact List.mem_filter.mpr
    ⟨List.mem_flatMap.mpr ⟨type, isType, isIn⟩, isNamed⟩

/-- The type of a variant is one of the types of the union. -/
theorem variant_mem_types
    {variant : Field} (isVariant : variant ∈ source.descriptor.variants) :
    variant.type ∈ source.descriptor.types :=
  List.mem_append_right _ (List.mem_map_of_mem isVariant)

/-- A constraint is one of the types of the union. -/
theorem constraint_mem_types
    {parameter : TypeParameter}
    (isParameter : parameter ∈ source.descriptor.parameters) :
    parameter.constraint ∈ source.descriptor.types :=
  List.mem_append_left _ (List.mem_map_of_mem isParameter)

theorem of_mem_named
    {names : List String} {variant : Field} {name : String}
    (isIn : (variant, name) ∈ source.named names) :
    variant ∈ source.descriptor.variants :=
  (List.of_mem_zip isIn).1

/-- The names of a union whose function types are plain. -/
theorem type_spells
    (plain : PlainSignatures source.descriptor.nodes)
    {type : GoType} (isType : type ∈ source.descriptor.types) :
    Spells (fun imports => (source.under imports).spell type)
      (namesOf type.nodes) :=
  type.spells fun node isNode =>
    plain node (List.mem_flatMap.mpr ⟨type, isType, isNode⟩)

/-- The names of the constraints. -/
def constraintNames (source : UnionSource) : List GoType :=
  source.descriptor.parameters.flatMap fun parameter =>
    namesOf parameter.constraint.nodes

theorem constraintNames_subset :
    source.constraintNames ⊆ source.typeNames := by
  intro node isNode
  rcases List.mem_flatMap.mp isNode with ⟨parameter, isParameter, isIn⟩
  exact namesOf_subset_typeNames (constraint_mem_types isParameter) isIn

theorem declaredParameters_spells
    (plain : PlainSignatures source.descriptor.nodes) :
    Spells (fun imports => (source.under imports).declaredParameters)
      source.constraintNames := by
  simp only [declaredParameters, under_descriptor, under_imports]
  have each (parameter : TypeParameter)
      (isParameter : parameter ∈ source.descriptor.parameters) :=
    (type_spells plain (constraint_mem_types isParameter)).after
      (parameter.name ++ " ")
  refine .cond (fun _ =>
    (((SpellsAll.map each).joined ", ").after "[").before "]") ?_
  intro notGeneric
  have isEmpty : source.descriptor.parameters = [] := by
    simpa [UnionDescriptor.isGeneric] using notGeneric
  rw [constraintNames, isEmpty]
  exact .constant ""

section Variant

/-! The blocks of one variant, whose type spells some names of the union. -/

variable {variant : Field} {names most : List GoType}
  (spells :
    Spells (fun imports => (source.under imports).spell variant.type) names)
  (inside : names ⊆ most)

include spells inside

theorem activeLines_between :
    SpellsBetween [] most
      (fun imports => (source.under imports).activeLines variant) := by
  simp only [activeLines, under_isCompact, under_plan]
  exact .cond
    (SpellsBetween.within
      (.line ((spells.after _).before _) inside (.constant _)))
    (.constant _)

theorem getterLines_between (getter : String) :
    SpellsBetween [] most
      (fun imports => (source.under imports).getterLines variant getter) := by
  have active := activeLines_between spells inside
  simp only [getterLines, under_receiver, under_plan, under_state]
  exact SpellsBetween.within (.append (.append
    (.keep _ (.keep _ (.line ((spells.after _).before _) inside
      (.keep _ (.line (spells.after _) inside (.constant _))))))
    active) (.constant _))

theorem setterLines_between (setter : String) :
    SpellsBetween [] most
      (fun imports => (source.under imports).setterLines variant setter) := by
  simp only [setterLines, under_receiver, under_plan, under_literal]
  exact SpellsBetween.within (.keep _ (.keep _
    (.line ((spells.after _).before _) inside (.constant _))))

theorem caseLines_between (handler : String) :
    SpellsBetween [] most
      (fun imports => (source.under imports).caseLines variant handler) := by
  simp only [caseLines, under_isCompact, under_plan, under_state]
  exact .keep _ (.cond
    (SpellsBetween.within
      (.line ((spells.after _).before _) inside (.constant _)))
    (.constant _))

end Variant

/-- The width of the names of some slots. -/
def slotWidth (names : List String) : Nat :=
  (names.map String.length).foldl max 0

theorem slotLines_eq (slots : List (String × String)) :
    slotLines slots =
      slots.map fun slot =>
        "\t" ++ padded (slotWidth (slots.map (·.1))) slot.1 ++ " " ++
          slot.2 := by
  simp only [slotLines, slotWidth, List.map_map]
  rfl

theorem under_slotNames (source : UnionSource) (imports : ImportPlan) :
    (source.under imports).slots.map (·.1) = source.slots.map (·.1) := by
  by_cases compact : source.isCompact = true
  · simp [slots, compact]
  · simp [slots, compact]

section Blocks

variable (plain : PlainSignatures source.descriptor.nodes)

include plain

theorem slotLines_between :
    SpellsBetween [] source.typeNames
      (fun imports => slotLines (source.under imports).slots) := by
  simp only [slotLines_eq, under_slotNames]
  by_cases compact : source.isCompact = true
  case pos =>
    have shape imports : (source.under imports).slots = source.slots := by
      simp [slots, compact]
    simp only [shape]
    exact .constant _
  case neg =>
    have shape imports :
        (source.under imports).slots =
          (source.plan.discriminant, source.discriminant) ::
            source.descriptor.variants.map fun variant =>
              (variant.name, (source.under imports).spell variant.type) := by
      simp [slots, compact]
    simp only [shape, List.map_cons, List.map_map]
    have each (variant : Field)
        (isVariant : variant ∈ source.descriptor.variants) :=
      have isType := variant_mem_types isVariant
      And.intro ((type_spells plain isType).after
          ("\t" ++ padded (slotWidth (source.slots.map (·.1)))
            variant.name ++ " "))
        (namesOf_subset_typeNames isType)
    exact .keep _ (SpellsBetween.map each).within

theorem typeLines_between :
    SpellsBetween source.constraintNames source.typeNames
      (fun imports => (source.under imports).typeLines) := by
  simp only [typeLines, under_config, under_descriptor]
  refine (SpellsBetween.append (.append (.keep _ (.keep _
    (.line (((declaredParameters_spells plain).after _).before _)
      constraintNames_subset .nil))) (slotLines_between plain))
    (.constant _)).weaken ?_
  simp

theorem defaultValueLines_between :
    SpellsBetween [] source.typeNames
      (fun imports => (source.under imports).defaultValueLines) := by
  have each (variant : Field)
      (isVariant : variant ∈ source.descriptor.variants) :=
    type_spells plain (variant_mem_types isVariant)
  simp only [defaultValueLines, under_descriptor, under_config, under_plan,
    under_state]
  cases variants : source.descriptor.variants with
  | nil => exact .nil
  | cons first others =>
      have isVariant : first ∈ source.descriptor.variants := by
        rw [variants]
        exact List.mem_cons_self
      have inside := namesOf_subset_typeNames (variant_mem_types isVariant)
      exact .cond
        (SpellsBetween.within (.keep _
          (.line ((each first isVariant).after _) inside (.constant _))))
        .nil

theorem valueLines_between :
    SpellsBetween [] source.typeNames
      (fun imports => (source.under imports).valueLines) := by
  have defaults := defaultValueLines_between plain
  simp only [valueLines, under_plan, under_receiver]
  cases source.plan.valueMethod with
  | none => exact .nil
  | some method =>
      exact SpellsBetween.append (.append (.constant _) defaults)
        (.constant _)

theorem getterBlock_between :
    SpellsBetween [] source.typeNames
      (fun imports => (source.under imports).getterBlock) := by
  simp only [getterBlock, under_plan, under_named]
  have each (entry : Field × String)
      (isIn : entry ∈ source.named source.plan.getters) :=
    have isType := variant_mem_types (of_mem_named isIn)
    getterLines_between (type_spells plain isType)
      (namesOf_subset_typeNames isType) entry.2
  exact (SpellsBetween.flatMap each).within

theorem setterBlock_between :
    SpellsBetween [] source.typeNames
      (fun imports => (source.under imports).setterBlock) := by
  simp only [setterBlock, under_plan, under_named]
  have each (entry : Field × String)
      (isIn : entry ∈ source.named source.plan.setters) :=
    have isType := variant_mem_types (of_mem_named isIn)
    setterLines_between (type_spells plain isType)
      (namesOf_subset_typeNames isType) entry.2
  exact (SpellsBetween.flatMap each).within

theorem matchLines_between :
    SpellsBetween [] source.typeNames
      (fun imports => (source.under imports).matchLines) := by
  simp only [matchLines, under_plan, under_named, under_receiver]
  cases source.plan.matchMethod with
  | none => exact .nil
  | some method =>
      have isType {entry : Field × String}
          (isIn : entry ∈ source.named source.plan.handlers) :=
        variant_mem_types (of_mem_named isIn)
      have parameters (entry : Field × String)
          (isIn : entry ∈ source.named source.plan.handlers) :=
        And.intro
          (((type_spells plain (isType isIn)).after
            ("\t" ++ entry.2 ++ " func(")).before "),")
          (namesOf_subset_typeNames (isType isIn))
      have cases (entry : Field × String)
          (isIn : entry ∈ source.named source.plan.handlers) :=
        caseLines_between (type_spells plain (isType isIn))
          (namesOf_subset_typeNames (isType isIn)) entry.2
      exact SpellsBetween.within
        (.append (.append (.append (.append (.append (.append (.constant _)
          (.map parameters)) (.cond (.constant _) (.constant _)))
          (.constant _)) (.flatMap cases))
          (.cond (.constant _) (.constant _))) (.constant _))

/-- The names of the types of the variants. -/
theorem constructorBlock_between :
    SpellsBetween
      (source.descriptor.variants.flatMap fun variant =>
        namesOf variant.type.nodes)
      source.typeNames
      (fun imports => (source.under imports).constructorBlock) := by
  simp only [constructorBlock, under_descriptor]
  refine SpellsBetween.flatMap ?_
  intro variant isVariant
  have isType := variant_mem_types isVariant
  have type := type_spells plain isType
  have inside := namesOf_subset_typeNames isType
  have parameters := declaredParameters_spells plain
  simp only [constructorLines, under_constructorName, under_plan,
    under_config, under_instanceType, under_literal]
  refine SpellsBetween.weaken (.keep _ (.keep _ (.line
    (((((((parameters.after _).before _).before _).before _).append
      type).before _).before _)
    (List.append_subset.mpr ⟨constraintNames_subset, inside⟩)
    (.constant _)))) ?_
  simp

end Blocks

theorem typeNames_eq :
    source.typeNames =
      source.constraintNames ++
        source.descriptor.variants.flatMap fun variant =>
          namesOf variant.type.nodes := by
  simp only [typeNames, constraintNames, namesOf, UnionDescriptor.nodes,
    UnionDescriptor.types, List.flatMap_append, List.filter_append,
    List.flatMap_map, List.filter_flatMap]

/-- The declarations consist of fragments under every plan of imports, and the names among them
are those inside the types of the union. -/
theorem declarations_spell
    (plain : PlainSignatures source.descriptor.nodes) :
    ∃ fragments : List Fragment,
      (∀ imports,
        linesText (source.under imports).declarationLines =
          renderAll imports fragments) ∧
        ∀ node,
          node ∈ fragments.filterMap Fragment.named? ↔
            node ∈ source.typeNames := by
  have between :
      SpellsBetween source.typeNames source.typeNames
        (fun imports => (source.under imports).declarationLines) := by
    refine SpellsBetween.weaken
      (.append (.append (.append (.append (.append (.append (.append
        (.append (.constant source.discriminantLines)
          (.constant source.stringLines))
        (typeLines_between plain)) (.constant source.variantLines))
        (valueLines_between plain)) (getterBlock_between plain))
        (setterBlock_between plain)) (matchLines_between plain))
        (constructorBlock_between plain)) ?_
    simp [typeNames_eq]
  rcases between with ⟨names, spells, lower, upper⟩
  rcases spells.linesText with ⟨fragments, renders, rfl⟩
  exact ⟨fragments, renders, fun node => ⟨@upper node, @lower node⟩⟩

end UnionSource

/-! ## Imports and their use -/

/-- The path of the package that a fragment names a type of. -/
def Fragment.package? : Fragment → Option String
  | .constant _ => none
  | .basic type =>
    if type.needsUnsafe then some ImportPlan.unsafePath else none
  | .named reference => some reference.package

/-- What a plan of imports is for the types of a union and for the text of every generated file. -/
structure UnionDescriptor.ImportsExactly
    (descriptor : UnionDescriptor) (destination : String)
    (imports : ImportPlan) : Prop where
  paths :
    ∀ path, path ∈ imports.names.map (·.1) ↔
      (∃ reference ∈ descriptor.references,
        descriptor.isForeign destination reference = true ∧
          reference.package = path) ∨
      (path = ImportPlan.unsafePath ∧
        .basic .unsafePointer ∈ descriptor.nodes)
  paths_nodup : (imports.names.map (·.1)).Nodup
  names_nodup : (imports.names.map (·.2)).Nodup
  names_fresh :
    ∀ path name, (path, name) ∈ imports.names →
      path ≠ ImportPlan.unsafePath →
        name ∉ descriptor.parameterNames ∧
          ∀ node ∈ descriptor.nodes,
            name ∉ ImportPlan.bareOf (descriptor.isForeign destination) node
  text :
    ∀ plan config, ∃ fragments : List Fragment,
      (∀ others,
        (UnionSource.mk descriptor plan others config).text =
          linesText (UnionSource.mk descriptor plan others config).header ++
            renderAll others fragments) ∧
      (∀ node, node ∈ fragments.filterMap Fragment.named? ↔
        node ∈ namesOf descriptor.nodes) ∧
      (∀ reference, .named reference ∈ fragments →
        descriptor.isForeign destination reference = true →
          ∃ name, (reference.package, name) ∈ imports.names ∧
            (Fragment.named reference).render imports =
              name ++ "." ++ reference.name) ∧
      ∀ path name, (path, name) ∈ imports.names →
        ∃ fragment ∈ fragments, fragment.package? = some path ∧
          ∃ type, fragment.render imports = name ++ "." ++ type

namespace ImportPlan

variable {descriptor : UnionDescriptor} {destination : String}

/-- A foreign reference is written with the local name of its package in front. -/
theorem render_foreign
    {reference : NamedType}
    (isReference : reference ∈ descriptor.references)
    (foreign : descriptor.isForeign destination reference = true) :
    ∃ name,
      (reference.package, name) ∈
          (planned descriptor destination).names ∧
        (Fragment.named reference).render (planned descriptor destination) =
          name ++ "." ++ reference.name := by
  rcases qualifier_foreign isReference foreign with ⟨name, found, isIn⟩
  refine ⟨name, isIn, ?_⟩
  rw [Fragment.render, found]
  rfl

theorem named_mem_fragments
    {fragments : List Fragment} {reference : NamedType} :
    .named reference ∈ fragments.filterMap Fragment.named? ↔
      .named reference ∈ fragments := by
  rw [List.mem_filterMap]
  constructor
  · rintro ⟨fragment, isIn, named⟩
    cases fragment <;> cases named
    exact isIn
  · exact fun isIn => ⟨_, isIn, rfl⟩

theorem basic_mem_fragments
    {fragments : List Fragment} {type : BasicType} :
    .basic type ∈ fragments.filterMap Fragment.named? ↔
      .basic type ∈ fragments := by
  rw [List.mem_filterMap]
  constructor
  · rintro ⟨fragment, isIn, named⟩
    cases fragment <;> cases named
    exact isIn
  · exact fun isIn => ⟨_, isIn, rfl⟩

theorem named_mem_namesOf {nodes : List GoType} {reference : NamedType} :
    .named reference ∈ namesOf nodes ↔ .named reference ∈ nodes := by
  rw [namesOf, List.mem_filter]
  exact and_iff_left rfl

theorem unsafePointer_mem_namesOf {nodes : List GoType} :
    .basic .unsafePointer ∈ namesOf nodes ↔
      .basic .unsafePointer ∈ nodes := by
  rw [namesOf, List.mem_filter]
  exact and_iff_left rfl

/--
No plan of imports is made exactly if a foreign reference is not exported.  A
plan that is made has the packages of the foreign references, and `unsafe` if
its pointer occurs; it keeps all names apart, and every generated file
qualifies the foreign references by it and uses all of it.
-/
theorem collect_importsExactly
    (descriptor : UnionDescriptor) (destination : String)
    (plain : PlainSignatures descriptor.nodes) :
    ((∃ hidden, collect descriptor destination = .error hidden) ↔
        ∃ reference ∈ descriptor.references,
          descriptor.isForeign destination reference = true ∧
            reference.isExported = false) ∧
      ∀ imports, collect descriptor destination = .ok imports →
        descriptor.ImportsExactly destination imports := by
  refine ⟨collect_eq_error_iff, ?_⟩
  intro imports made
  obtain rfl := eq_planned made
  refine ⟨fun _ => mem_planned_paths, planned_paths_nodup,
    planned_names_nodup, ?_, ?_⟩
  · intro path name isIn notUnsafe
    have fresh := planned_fresh isIn notUnsafe
    rw [UnionDescriptor.bare, mem_ordered, List.mem_append, not_or] at fresh
    exact ⟨fresh.2, fun node isNode isBare =>
      fresh.1 (List.mem_flatMap.mpr ⟨node, isNode, isBare⟩)⟩
  · intro plan config
    let source : UnionSource :=
      ⟨descriptor, plan, planned descriptor destination, config⟩
    rcases source.declarations_spell plain with ⟨fragments, renders, isName⟩
    refine ⟨fragments, ?_, isName, ?_, ?_⟩
    · intro others
      rw [← renders others]
      exact (source.under others).text_eq
    · intro reference isIn foreign
      have isNode := (isName _).mp (named_mem_fragments.mpr isIn)
      exact render_foreign
        (UnionDescriptor.mem_references.mpr (named_mem_namesOf.mp isNode))
        foreign
    · intro path name isIn
      rcases mem_planned_paths.mp (List.mem_map.mpr ⟨_, isIn, rfl⟩) with
        ⟨reference, isReference, foreign, rfl⟩ | ⟨rfl, isPointer⟩
      · have isNode := UnionDescriptor.mem_references.mp isReference
        refine ⟨.named reference, named_mem_fragments.mp
          ((isName _).mpr (named_mem_namesOf.mpr isNode)), rfl,
          reference.name, ?_⟩
        rcases render_foreign isReference foreign with
          ⟨other, isOther, render⟩
        exact planned_local_unique isOther isIn ▸ render
      · refine ⟨.basic .unsafePointer, basic_mem_fragments.mp
          ((isName _).mpr (unsafePointer_mem_namesOf.mpr isPointer)), rfl,
          "Pointer", ?_⟩
        rw [planned_unsafePath isIn]
        rfl

/-- Two packages of the same name and `unsafe`, imported for a generic union in another package. -/
theorem collect_importsExactly_shapes :
    let descriptor : UnionDescriptor :=
      ⟨"Bag", "example/bags", [⟨"T", .named (.predeclared "any")⟩],
        [⟨"shape", .pointer (.named (.reference "Shape" "example/shapes")),
            none, false⟩,
          ⟨"raw", .basic .unsafePointer, none, false⟩,
          ⟨"visit", .function (.plain [⟨"", .named ⟨"Box", "other/shapes",
            none, [], [.named (.reference "T" "example/bags")]⟩⟩] []
            false), none, false⟩]⟩
    ∃ imports,
      PlainSignatures descriptor.nodes ∧
        collect descriptor "example/out" = .ok imports ∧
        imports.names =
          [("example/shapes", "shapes"), ("other/shapes", "shapes2"),
            ("unsafe", "unsafe")] ∧
        descriptor.ImportsExactly "example/out" imports := by
  intro descriptor
  have plain : PlainSignatures descriptor.nodes := by
    simp only [descriptor, UnionDescriptor.nodes, UnionDescriptor.types,
      PlainSignatures]
    simp [GoType.nodes, NamedType.argumentNodes, Signature.nodes,
      Signature.plain, NamedType.reference, NamedType.predeclared,
      typeNodes, variableNodes, parameterNodes, receiverNodes,
      GoType.signatures]
    exact ⟨rfl, rfl, rfl⟩
  have made :
      collect descriptor "example/out" =
        .ok ⟨"example/out", "example/bags", ["T"],
          [("example/shapes", "shapes"), ("other/shapes", "shapes2"),
            ("unsafe", "unsafe")], ["T", "any"]⟩ := by
    decide +kernel
  exact ⟨_, plain, made, rfl,
    (collect_importsExactly descriptor "example/out" plain).2 _ made⟩

end ImportPlan

end GoUnion
