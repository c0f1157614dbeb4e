import GoUnion.Proofs.NameRoles
import GoUnion.Proofs.Regeneration

/-!
# The package-level names of a generated file

A file declares the union, the type of its discriminants, a constant for each
state and a constructor for each variant.  All but the constructors start with
the name of the union, and a constructor is a constant behind a fixed word.  If
a name that starts with the name of the union were a constructor, the word
would be a period of it; so what follows the name of the union would start with
a letter of the word, which neither the type of discriminants nor a constant
does.
-/

namespace GoUnion

/-- If a word can move to the front of a list, what follows the list starts with an element of
the word. -/
theorem head?_of_period
    {α : Type} {word list front back : List α} (isWord : word ≠ [])
    (moves : word ++ (list ++ front) = list ++ back) :
    ∃ first ∈ word, back.head? = some first := by
  rcases List.append_eq_append_iff.mp moves with
    ⟨rest, isPeriodic, movesRest⟩ | ⟨rest, isPart, rfl⟩
  · -- The list starts with the word; without it, the word still moves.
    have shorter : rest.length < list.length := by
      rw [isPeriodic, List.length_append]
      have := List.length_pos_of_ne_nil isWord
      omega
    rw [isPeriodic, List.append_assoc] at movesRest
    exact head?_of_period isWord movesRest
  · -- The list is shorter than the word, whose elements come next.
    cases rest with
    | cons first rest =>
        exact ⟨first, isPart ▸ List.mem_append_right _ List.mem_cons_self,
          rfl⟩
    | nil =>
        rw [List.append_nil] at isPart
        subst isPart
        cases word with
        | nil => exact absurd rfl isWord
        | cons first word => exact ⟨first, List.mem_cons_self, rfl⟩
  termination_by list.length

namespace UnionSource

/-- What follows the name of the union in the names of the types and constants. -/
def endings (source : UnionSource) : List String :=
  "" :: "Variant" :: source.states.map ("_" ++ ·)

/-- The names of the constructors. -/
def constructors (source : UnionSource) : List String :=
  source.descriptor.variants.map source.constructorName

/-- The names that a file declares in its package, those of functions among them. -/
def packageNames (source : UnionSource) : List String :=
  source.declaredNames ++ source.constructors

/-- The lines that declare a name of the package. -/
inductive DeclarationLine (name : String) : String → Prop where
  | type (rest : String) : DeclarationLine name ("type " ++ name ++ rest)
  | constant (rest : String) : DeclarationLine name ("\t" ++ name ++ rest)
  | constructor (rest : String) : DeclarationLine name ("func " ++ name ++ rest)

/-- A line of the block of constants declares each of them. -/
theorem exists_constantLine
    {source : UnionSource} {name : String}
    (isConstant : name ∈ source.constants) :
    ∃ line ∈ source.stateLines, DeclarationLine name line := by
  rw [constants] at isConstant
  rw [stateLines]
  generalize source.states = states at isConstant ⊢
  cases states with
  | nil => cases isConstant
  | cons first others =>
      rcases List.mem_cons.mp isConstant with rfl | isOther
      · refine ⟨_, List.mem_cons_self, ?_⟩
        simpa [toString, String.append_assoc] using
          DeclarationLine.constant (" " ++ source.discriminant ++ " = iota")
      · rcases List.mem_map.mp isOther with ⟨other, isIn, rfl⟩
        refine ⟨_, List.mem_cons_of_mem _ (List.mem_map_of_mem isIn), ?_⟩
        have declares : DeclarationLine (source.state other) _ := .constant ""
        simpa [toString] using declares

/-- A line of the file declares each of the names. -/
theorem exists_declarationLine
    {source : UnionSource} {name : String}
    (isDeclared : name ∈ source.packageNames) :
    ∃ line ∈ source.lines, DeclarationLine name line := by
  simp only [packageNames, declaredNames, List.mem_append, List.mem_cons]
    at isDeclared
  rcases isDeclared with (rfl | rfl | isConstant) | isConstructor
  · refine ⟨_, ?_, .type (source.declaredParameters ++ " struct \x7b")⟩
    simp [lines, typeLines, toString, String.append_assoc]
  · refine ⟨_, ?_, .type " int"⟩
    simp [lines, discriminantLines, toString]
  · rcases exists_constantLine isConstant with
      ⟨line, isLine, declares⟩
    refine ⟨line, ?_, declares⟩
    simp [lines, discriminantLines, isLine]
  · rcases List.mem_map.mp isConstructor with ⟨variant, isVariant, rfl⟩
    refine ⟨_, ?_, .constructor
      (source.declaredParameters ++ "(" ++ source.plan.valueParameter ++
        " " ++ source.spell variant.type ++ ") " ++ source.instanceType ++
        " \x7b")⟩
    simp only [lines, List.mem_append, constructorBlock, List.mem_flatMap]
    refine .inr ⟨variant, isVariant, ?_⟩
    simp [constructorLines, toString, String.append_assoc]

theorem state_eq (source : UnionSource) (name : String) :
    source.state name = source.config.typeName ++ ("_" ++ name) :=
  String.append_assoc ..

theorem packageNames_eq (source : UnionSource) :
    source.packageNames =
      source.endings.map (source.config.typeName ++ ·) ++
        source.descriptor.variantNames.map ("New" ++ source.state ·) := by
  have constants :
      source.constants =
        source.states.map fun name =>
          source.config.typeName ++ ("_" ++ name) :=
    List.map_congr_left fun name _ => source.state_eq name
  simp only [packageNames, declaredNames, constants, endings, List.map_cons, List.map_map,
    Function.comp_def, String.append_empty, List.cons_append,
    UnionDescriptor.variantNames]
  rfl

/-- A name that starts with the name of the union is no constructor, if what follows starts with
no letter of the word in front of a constructor. -/
theorem ne_constructor
    {typeName ending back : String}
    (starts : ∀ first ∈ "New".toList, ending.toList.head? ≠ some first) :
    typeName ++ ending ≠ "New" ++ (typeName ++ back) := by
  intro same
  have moves :
      "New".toList ++ (typeName.toList ++ back.toList) =
        typeName.toList ++ ending.toList := by
    simpa only [String.toList_append] using
      congrArg String.toList same.symm
  rcases head?_of_period (by decide) moves with ⟨first, isLetter, isFirst⟩
  exact starts first isLetter isFirst

theorem head?_stateEnding (state : String) :
    ("_" ++ state).toList.head? = some '_' := by
  rw [String.toList_append]
  rfl

/-- No ending starts with a letter of the word in front of a constructor. -/
theorem head?_endings
    {source : UnionSource} {ending : String}
    (isEnding : ending ∈ source.endings) :
    ∀ first ∈ "New".toList, ending.toList.head? ≠ some first := by
  intro first isLetter
  simp only [endings, List.mem_cons, List.mem_map] at isEnding
  rcases isEnding with rfl | rfl | ⟨state, -, rfl⟩
  · simp
  · rintro ⟨⟩
    revert isLetter
    decide
  · rw [head?_stateEnding]
    rintro ⟨⟩
    revert isLetter
    decide

/-- Distinct states have distinct endings. -/
theorem nodup_endings
    {source : UnionSource} (distinct : source.states.Nodup) :
    source.endings.Nodup := by
  have isNoState {ending : String}
      (starts : ending.toList.head? ≠ some '_') :
      ending ∉ source.states.map ("_" ++ ·) := by
    intro isState
    rcases List.mem_map.mp isState with ⟨state, -, rfl⟩
    exact starts (head?_stateEnding state)
  refine List.nodup_cons.mpr ⟨?_, List.nodup_cons.mpr ⟨?_, ?_⟩⟩
  · rw [List.mem_cons, not_or]
    exact ⟨by decide, isNoState (by decide)⟩
  · exact isNoState (by decide)
  · exact distinct.map fun _ _ => (String.append_right_inj "_").mp

/-- A file declares distinct names if its states and its variants are distinct. -/
theorem nodup_packageNames
    {source : UnionSource} (states : source.states.Nodup)
    (variants : source.descriptor.variantNames.Nodup) :
    source.packageNames.Nodup := by
  rw [packageNames_eq]
  refine List.nodup_append'.mpr ⟨?_, ?_, ?_⟩
  · exact (nodup_endings states).map fun _ _ =>
      (String.append_right_inj _).mp
  · refine variants.map fun variant other same => ?_
    simpa only [state_eq, String.append_right_inj] using same
  · intro name startsLikeUnion isConstructor
    rcases List.mem_map.mp startsLikeUnion with ⟨ending, isEnding, rfl⟩
    rcases List.mem_map.mp isConstructor with ⟨variant, -, same⟩
    rw [state_eq] at same
    exact ne_constructor (head?_endings isEnding) same.symm

end UnionSource

/-- The states of a source are distinct: the invalid one is no variant. -/
theorem UnionDescriptor.source_states_nodup
    {descriptor : UnionDescriptor} {config : OutputConfig}
    {source : UnionSource}
    (made : descriptor.source config = .ok source) :
    source.states.Nodup ∧ source.descriptor.variantNames.Nodup := by
  rcases source_eq_ok made with ⟨imports, checks, -, rfl⟩
  have variants := check_nodup checks
  refine ⟨?_, variants⟩
  rw [UnionSource.states, NamePlan.resolve_eq_byRole variants]
  simp only [NamePlan.byRole]
  split
  case isTrue =>
    exact List.nodup_cons.mpr ⟨freeName_not_mem _ _, variants⟩
  case isFalse => exact variants

/--
The names that a generated file declares in its package are distinct: the
union, the type of its discriminants, the constants of its states and the
constructors of its variants.
-/
theorem NamedType.generate_packageNames
    {type : NamedType} {config : OutputConfig} {text : String}
    (generates : type.generate config = .ok text) :
    ∃ descriptor source,
      UnionDescriptor.ofNamed type = .ok descriptor ∧
        descriptor.source config = .ok source ∧ source.text = text ∧
        (∀ name ∈ source.packageNames,
          ∃ line ∈ source.lines, UnionSource.DeclarationLine name line) ∧
        source.packageNames.Nodup := by
  rcases generate_eq_ok generates with
    ⟨descriptor, source, describes, made, written⟩
  rcases UnionDescriptor.source_states_nodup made with ⟨states, variants⟩
  exact ⟨descriptor, source, describes, made, written,
    fun _ => UnionSource.exists_declarationLine,
    UnionSource.nodup_packageNames states variants⟩

/-- A union whose name is made of the word in front of a constructor. -/
theorem NamedType.generate_packageNames_repeated :
    let type : NamedType :=
      ⟨"D", "example/d", some (.record
        [⟨"New_Invalid", .basic .int, none, false⟩,
          ⟨"Invalid", .basic .string, none, false⟩]), [], []⟩
    let config : OutputConfig :=
      ⟨"NewNew", "u.go", "d", none, none, .standard⟩
    ∃ source : UnionSource,
      type.generate config = .ok source.text ∧
        source.packageNames =
          ["NewNew", "NewNewVariant", "NewNew__Invalid",
            "NewNew_New_Invalid", "NewNew_Invalid",
            "NewNewNew_New_Invalid", "NewNewNew_Invalid"] ∧
        source.packageNames.Nodup := by
  intro type config
  have seen :
      ((⟨"D", "example/d", [],
          [⟨"New_Invalid", .basic .int, none, false⟩,
            ⟨"Invalid", .basic .string, none, false⟩]⟩ :
          UnionDescriptor).source config).toOption.map
        (fun source => source.packageNames) =
        some ["NewNew", "NewNewVariant", "NewNew__Invalid",
          "NewNew_New_Invalid", "NewNew_Invalid",
          "NewNewNew_New_Invalid", "NewNewNew_Invalid"] := by
    decide +kernel
  rcases exists_generated type rfl seen with
    ⟨source, made, generates, seen⟩
  rcases generate_packageNames generates with
    ⟨descriptor, source', describes, made', -, -, distinct⟩
  cases describes
  cases made.symm.trans made'
  exact ⟨source, generates, seen, distinct⟩

end GoUnion
