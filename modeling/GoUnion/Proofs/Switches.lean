import GoUnion.Proofs.NameRoles
import GoUnion.Proofs.Shadowing

/-!
# Features are switched off one by one

Getters, setters and matching each own a block of functions in a generated file.
A feature that is switched off takes the names of its functions out of the plan,
and since every role is named by itself no other name moves.  The lines of all
other declarations read nothing of the feature; so the file loses the block and
keeps every other line.
-/

namespace GoUnion

/-- The features that own a block of functions. -/
inductive Switch where
  | getters
  | setters
  | matching
  deriving DecidableEq, Repr

/-- The features without one of them. -/
def Features.without (features : Features) : Switch → Features
  | .getters => { features with getters := false }
  | .setters => { features with setters := false }
  | .matching => { features with matching := false }

/-- Whether a feature is on. -/
def Features.has (features : Features) : Switch → Bool
  | .getters => features.getters
  | .setters => features.setters
  | .matching => features.matching

/-- How many functions a feature owns that is on. -/
def Switch.functionCount
    (variants : List String) : Switch → Nat
  | .getters => variants.length
  | .setters => variants.length
  | .matching => 1

/-- A configuration without one of its features. -/
def OutputConfig.without
    (config : OutputConfig) (switch : Switch) : OutputConfig :=
  { config with features := config.features.without switch }

namespace NamePlan

/-- The names of the functions of a feature. -/
def functionNames (plan : NamePlan) : Switch → List String
  | .getters => plan.getters
  | .setters => plan.setters
  | .matching => plan.matchMethod.toList

/-- A plan without the names of the functions of a feature. -/
def without (plan : NamePlan) : Switch → NamePlan
  | .getters => { plan with getters := [] }
  | .setters => { plan with setters := [] }
  | .matching => { plan with matchMethod := none }

/-- Switching a feature off takes the names of its functions out of the plan, and nothing else. -/
theorem resolve_without
    {variants : List String} (distinct : variants.Nodup)
    (features : Features) (reserved : List String) (switch : Switch) :
    resolve variants (features.without switch) reserved =
      (resolve variants features reserved).without switch := by
  rw [resolve_eq_byRole distinct, resolve_eq_byRole distinct]
  cases switch with
  | getters => rfl
  | setters => rfl
  | matching => rfl

/-- A feature that is on owns a function for each variant, or one for all. -/
theorem length_functionNames_resolve
    {variants : List String} (distinct : variants.Nodup)
    (features : Features) (reserved : List String) (switch : Switch) :
    ((resolve variants features reserved).functionNames switch).length =
      if features.has switch then switch.functionCount variants else 0 := by
  rw [resolve_eq_byRole distinct]
  cases switch <;>
    simp only [functionNames, byRole, variantBases, Features.has,
      Switch.functionCount, List.length_map] <;>
    split <;> simp [*]

end NamePlan

namespace UnionSource

/-- A source without one of its features. -/
def without (source : UnionSource) (switch : Switch) : UnionSource :=
  { source with
    plan := source.plan.without switch
    config := source.config.without switch }

/-- The lines of the functions of a feature. -/
def functionLines (source : UnionSource) : Switch → List String
  | .getters => source.getterBlock
  | .setters => source.setterBlock
  | .matching => source.matchLines

/-- The lines in front of the functions of a feature. -/
def linesBefore (source : UnionSource) (switch : Switch) : List String :=
  source.header ++ source.discriminantLines ++ source.stringLines ++
    source.typeLines ++ source.variantLines ++ source.valueLines ++
    match switch with
    | .getters => []
    | .setters => source.getterBlock
    | .matching => source.getterBlock ++ source.setterBlock

/-- The lines behind the functions of a feature. -/
def linesAfter (source : UnionSource) (switch : Switch) : List String :=
  (match switch with
    | .getters => source.setterBlock ++ source.matchLines
    | .setters => source.matchLines
    | .matching => []) ++
  source.constructorBlock

/-- The functions of a feature stand together. -/
theorem lines_eq (source : UnionSource) (switch : Switch) :
    source.lines =
      source.linesBefore switch ++ source.functionLines switch ++
        source.linesAfter switch := by
  cases switch <;>
    simp only [lines, linesBefore, linesAfter, functionLines,
      List.append_assoc, List.nil_append]

/-- The lines of all other declarations read nothing of a feature. -/
theorem lines_without (source : UnionSource) (switch : Switch) :
    (source.without switch).lines =
      source.linesBefore switch ++ source.linesAfter switch := by
  have noFunctions : (source.without switch).functionLines switch = [] := by
    cases switch with
    | getters => exact congrArg (List.flatMap _) List.zip_nil_right
    | setters => exact congrArg (List.flatMap _) List.zip_nil_right
    | matching => rfl
  have sameBefore :
      (source.without switch).linesBefore switch =
        source.linesBefore switch := by
    cases switch <;> rfl
  have sameAfter :
      (source.without switch).linesAfter switch =
        source.linesAfter switch := by
    cases switch <;> rfl
  rw [lines_eq _ switch, noFunctions, sameBefore, sameAfter,
    List.append_nil]

/-! ## The functions of a feature -/

/-- Whether a line stands inside a function: it is indented, or it closes parameters that have lines
of their own.  No declaration starts with such a line. -/
def IsInner (line : String) : Prop :=
  line.toList.head? = some '\t' ∨ line = ") \x7b"

/-- The lines of a method with its comment, after an empty line. -/
def IsMethod
    (receiver name : String) (lines : List String) : Prop :=
  ∃ purpose signature body,
    lines =
      ["", "// " ++ name ++ purpose,
        "func " ++ receiver ++ " " ++ name ++ "(" ++ signature] ++
      body ++ ["\x7d"] ∧
    ∀ line ∈ body, IsInner line

theorem activeLines_inner (source : UnionSource) (variant : Field) :
    ∀ line ∈ source.activeLines variant, IsInner line := by
  unfold activeLines
  dsimp only
  split
  · simp [IsInner, toString]
  · simp [IsInner, toString]

theorem getterLines_isMethod
    (source : UnionSource) (variant : Field) (getter : String) :
    IsMethod source.receiver getter
      (source.getterLines variant getter) := by
  refine ⟨" returns the value of " ++ variant.name ++
      " and whether it is the active variant.",
    ") (" ++ source.spell variant.type ++ ", bool) \x7b",
    [s!"\tif {source.plan.receiver}.{source.plan.discriminant} != " ++
        s!"{source.state variant.name} \x7b",
      s!"\t\tvar {source.plan.zero} {source.spell variant.type}",
      s!"\t\treturn {source.plan.zero}, false", "\t\x7d"] ++
      source.activeLines variant, ?_, ?_⟩
  · have opening (rest : String) :
        "() (" ++ rest = "(" ++ (") (" ++ rest) := by
      rw [← String.append_assoc]
      rfl
    simp [getterLines, toString, String.append_assoc, opening]
  · refine List.forall_mem_append.mpr ⟨?_, activeLines_inner _ _⟩
    simp [IsInner, toString]

theorem setterLines_isMethod
    (source : UnionSource) (variant : Field) (setter : String) :
    IsMethod source.receiver setter
      (source.setterLines variant setter) := by
  refine ⟨" makes " ++ variant.name ++ " the active variant, holding " ++
      source.plan.valueParameter ++ ".",
    source.plan.valueParameter ++ " " ++ source.spell variant.type ++
      ") \x7b",
    [s!"\t*{source.plan.receiver} = {source.literal variant}"], ?_, ?_⟩
  · simp [setterLines, toString, String.append_assoc]
  · simp [IsInner, toString]

theorem caseLines_inner
    (source : UnionSource) (variant : Field) (handler : String) :
    ∀ line ∈ source.caseLines variant handler, IsInner line := by
  unfold caseLines
  dsimp only
  split
  · simp [IsInner, toString]
  · simp [IsInner, toString]

/-- The parameters of the matching method, one on each line. -/
def matchParameters (source : UnionSource) : List String :=
  ((source.named source.plan.handlers).map fun entry =>
    s!"\t{entry.2} func({source.spell entry.1.type}),") ++
  if source.plan.invalid.isSome then
    [s!"\t{source.plan.invalidHandler} func(),"]
  else []

/-- The cases of the matching method. -/
def matchCases (source : UnionSource) : List String :=
  ((source.named source.plan.handlers).flatMap fun entry =>
    source.caseLines entry.1 entry.2) ++
  if source.plan.invalid.isSome then
    ["\tdefault:", s!"\t\t{source.plan.invalidHandler}()"]
  else []

theorem matchParameters_inner (source : UnionSource) :
    ∀ line ∈ source.matchParameters, IsInner line := by
  refine List.forall_mem_append.mpr ⟨?_, ?_⟩
  · intro line isIn
    rcases List.mem_map.mp isIn with ⟨entry, -, rfl⟩
    simp [IsInner, toString]
  · split <;> simp [IsInner, toString]

theorem matchCases_inner (source : UnionSource) :
    ∀ line ∈ source.matchCases, IsInner line := by
  refine List.forall_mem_append.mpr ⟨?_, ?_⟩
  · intro line isIn
    rcases List.mem_flatMap.mp isIn with ⟨entry, -, isIn⟩
    exact caseLines_inner _ _ _ line isIn
  · split <;> simp [IsInner, toString]

theorem matchLines_isMethod
    {source : UnionSource} {method : String}
    (isMatch : source.plan.matchMethod = some method) :
    IsMethod source.receiver method source.matchLines := by
  refine ⟨" calls the handler of the active variant with its value.", "",
    source.matchParameters ++ ([") \x7b",
      s!"\tswitch {source.plan.receiver}.{source.plan.discriminant} \x7b"] ++
      (source.matchCases ++ ["\t\x7d"])), ?_, ?_⟩
  · simp [matchLines, isMatch, toString, String.append_assoc,
      matchParameters, matchCases]
  · refine List.forall_mem_append.mpr ⟨matchParameters_inner _,
      List.forall_mem_append.mpr ⟨?_,
        List.forall_mem_append.mpr ⟨matchCases_inner _, ?_⟩⟩⟩
    · simp [IsInner, toString]
    · simp [IsInner]

/-- Methods that are made of the variants, one for each name. -/
theorem named_methods
    {source : UnionSource} {names : List String}
    {linesOf : Field → String → List String}
    (areMethods : ∀ variant name,
      IsMethod source.receiver name (linesOf variant name))
    (suffice : names.length ≤ source.descriptor.variants.length) :
    ∃ methods,
      ((source.named names).flatMap fun (variant, name) =>
          linesOf variant name) = methods.flatten ∧
        List.Forall₂ (IsMethod source.receiver) names methods := by
  refine ⟨(source.named names).map fun (variant, name) =>
    linesOf variant name, List.flatMap_def .., ?_⟩
  have eachName : (source.named names).map Prod.snd = names :=
    List.map_snd_zip suffice
  nth_rewrite 1 [← eachName]
  rw [List.forall₂_map_left_iff, List.forall₂_map_right_iff,
    List.forall₂_same]
  exact fun entry _ => areMethods entry.1 entry.2

/-- The functions of a feature are methods with the names that the plan gives them. -/
theorem functionLines_methods
    {source : UnionSource}
    (counts : ∀ switch, (source.plan.functionNames switch).length ≤
      switch.functionCount source.descriptor.variantNames)
    (switch : Switch) :
    ∃ methods,
      source.functionLines switch = methods.flatten ∧
        List.Forall₂ (IsMethod source.receiver)
          (source.plan.functionNames switch) methods := by
  have perVariant :
      source.descriptor.variantNames.length =
        source.descriptor.variants.length :=
    List.length_map _
  cases switch with
  | getters =>
      exact named_methods source.getterLines_isMethod
        (perVariant ▸ counts .getters)
  | setters =>
      exact named_methods source.setterLines_isMethod
        (perVariant ▸ counts .setters)
  | matching =>
      cases isMatch : source.plan.matchMethod with
      | none =>
          refine ⟨[], ?_, ?_⟩
          · rw [functionLines, matchLines, isMatch]
            rfl
          · rw [NamePlan.functionNames, isMatch]
            exact .nil
      | some method =>
          refine ⟨[source.matchLines], by simp [functionLines], ?_⟩
          rw [NamePlan.functionNames, isMatch]
          exact .cons (matchLines_isMethod isMatch) .nil

end UnionSource

/-! ## Switching a feature off -/

/-- A source is made of a plan of the imports and a plan of the names. -/
theorem UnionDescriptor.source_of_checks
    {descriptor : UnionDescriptor} {config : OutputConfig}
    {imports : ImportPlan}
    (checks : descriptor.check config = .ok ())
    (collects :
      ImportPlan.collect descriptor (descriptor.destination config) =
        .ok imports) :
    descriptor.source config =
      .ok ⟨descriptor,
        NamePlan.resolve descriptor.variantNames config.features
          (reservedNames imports config),
        imports, config⟩ := by
  rw [UnionDescriptor.source, checks]
  simp only [Reader.ok_bind, collects]
  rfl

/-- A source that is made is made without a feature as well. -/
theorem UnionDescriptor.source_without
    {descriptor : UnionDescriptor} {config : OutputConfig}
    {source : UnionSource}
    (made : descriptor.source config = .ok source) (switch : Switch) :
    descriptor.source (config.without switch) =
      .ok (source.without switch) := by
  rcases source_eq_ok made with ⟨imports, checks, collects, rfl⟩
  have sameCheck :
      descriptor.check (config.without switch) = descriptor.check config := by
    cases switch <;> rfl
  have plan := NamePlan.resolve_without (check_nodup checks)
    config.features (reservedNames imports config) switch
  rw [source_of_checks (sameCheck.trans checks) collects]
  exact congrArg
    (fun plan => Except.ok
      (UnionSource.mk descriptor plan imports (config.without switch)))
    plan

/-- A feature that is on owns a function for each variant, or one for all. -/
theorem UnionDescriptor.source_functionNames
    {descriptor : UnionDescriptor} {config : OutputConfig}
    {source : UnionSource}
    (made : descriptor.source config = .ok source) :
    source.descriptor = descriptor ∧
      ∀ switch, (source.plan.functionNames switch).length =
        if config.features.has switch then
          switch.functionCount descriptor.variantNames
        else 0 := by
  rcases source_eq_ok made with ⟨imports, checks, -, rfl⟩
  exact ⟨rfl, fun switch =>
    NamePlan.length_functionNames_resolve (check_nodup checks) ..⟩

/--
Without a feature a file is generated as well, and it is the file with the
functions of the feature cut out: they stand together, each is a method with
its comment, and they bear the names that the plan gives to the feature, one
for each variant or one for all.  Nothing else is cut out with them, since no
other declaration starts inside a method.  The source is the same one without
the feature, so no other name and no import changes.
-/
theorem NamedType.generate_without
    {type : NamedType} {config : OutputConfig} {text : String}
    (generates : type.generate config = .ok text) (switch : Switch) :
    ∃ descriptor source front methods back,
      UnionDescriptor.ofNamed type = .ok descriptor ∧
        descriptor.source config = .ok source ∧
        descriptor.source (config.without switch) =
          .ok (source.without switch) ∧
        text = front ++ linesText methods.flatten ++ back ∧
        type.generate (config.without switch) = .ok (front ++ back) ∧
        methods.flatten = source.functionLines switch ∧
        List.Forall₂ (UnionSource.IsMethod source.receiver)
          (source.plan.functionNames switch) methods ∧
        (source.plan.functionNames switch).length =
          if config.features.has switch then
            switch.functionCount descriptor.variantNames
          else 0 := by
  rcases generate_eq_ok generates with
    ⟨descriptor, source, describes, made, rfl⟩
  have madeWithout := UnionDescriptor.source_without made switch
  rcases UnionDescriptor.source_functionNames made with ⟨same, counts⟩
  have atMost (other : Switch) :
      (source.plan.functionNames other).length ≤
        other.functionCount source.descriptor.variantNames := by
    rw [counts, same]
    split <;> simp
  rcases UnionSource.functionLines_methods atMost switch with
    ⟨methods, flatten, areMethods⟩
  refine ⟨descriptor, source, linesText (source.linesBefore switch),
    methods, linesText (source.linesAfter switch), describes, made,
    madeWithout, ?_, ?_, flatten.symm, areMethods, counts switch⟩
  · rw [← flatten, ← linesText_append, ← linesText_append,
      ← source.lines_eq switch]
    rfl
  · rw [generate, describes, ← linesText_append, ← source.lines_without]
    simp only [madeWithout]
    rfl

/-- A field that is named like the getter of another one, without the getters. -/
theorem NamedType.generate_without_getters :
    let type : NamedType :=
      ⟨"D", "example/d", some (.record
        [⟨"Get_a", .basic .int, none, false⟩,
          ⟨"a", .basic .string, none, false⟩]), [], []⟩
    let config : OutputConfig :=
      ⟨"U", "u.go", "d", none, none, .standard⟩
    ∃ text front methods back,
      type.generate config = .ok text ∧
        text = front ++ linesText methods.flatten ++ back ∧
        type.generate (config.without .getters) = .ok (front ++ back) ∧
        List.Forall₂ (UnionSource.IsMethod "(u *U)")
          ["Get_Get_a", "_Get_a"] methods := by
  intro type config
  have seen :
      ((⟨"D", "example/d", [],
          [⟨"Get_a", .basic .int, none, false⟩,
            ⟨"a", .basic .string, none, false⟩]⟩ :
          UnionDescriptor).source config).toOption.map
        (fun source =>
          (source.receiver, source.plan.functionNames .getters)) =
        some ("(u *U)", ["Get_Get_a", "_Get_a"]) := by
    decide +kernel
  rcases exists_generated type rfl seen with
    ⟨source, made, generates, seen⟩
  simp only [Prod.mk.injEq] at seen
  rcases generate_without generates .getters with
    ⟨descriptor, source', front, methods, back, describes, made', -, split,
      without, -, areMethods, -⟩
  cases describes
  cases made.symm.trans made'
  rw [seen.1, seen.2] at areMethods
  exact ⟨source.text, front, methods, back, generates, split, without,
    areMethods⟩

end GoUnion
