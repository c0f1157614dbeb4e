import GoUnion.Proofs.Output.Header
import GoUnion.Proofs.Shadowing

/-!
# Generated files are read back

What is generated for a struct of a loaded package is a source file that the
reader of files accepts.  It has the package clause and the imports that were
planned, it declares two types, and its constants number the states of the union.
-/

namespace GoUnion

open Lexeme (IsName)
open Reader (Declaration ReadsFile)
open Token
open Text (byteLength)

/-! ## The file of a source -/

/-- What a source file has to hold to present a union. -/
structure SourceFile.Presents
    (file : SourceFile) (source : UnionSource) : Prop where
  package : file.package.name = source.config.package
  imports : file.imports.map (·.path) = source.imports.names.map (·.1)
  types : ∃ discriminant union, file.types = [discriminant, union] ∧
    discriminant.identifier.name = source.config.typeName ++ "Variant" ∧
      union.identifier.name = source.config.typeName ∧
        (source.descriptor.parameters = [] → source.HasSlots union.type)
  constants : file.constants.map (·.binding) =
    (source.plan.invalid.toList ++
        source.descriptor.variantNames).mapIdx fun index state =>
      (source.config.typeName ++ "_" ++ state,
        .integer (UInt64.ofNat index))

/-- What is passed over adds nothing to a file. -/
theorem flatMap_skipped
    {skipped : List Declaration}
    (each : ∀ declaration ∈ skipped, declaration = .skipped)
    {α : Type} {kept : Declaration → List α} (none : kept .skipped = []) :
    skipped.flatMap kept = [] := by
  refine List.flatMap_eq_nil_iff.mpr ?_
  intro declaration isIn
  rw [each declaration isIn, none]

theorem ofDeclarations_skipped
    (package : Identifier) (imports : List ImportSpec)
    (discriminant union : TypeDeclaration)
    (constants : List ConstantDeclaration)
    {skipped skipped' : List Declaration}
    (each : ∀ declaration ∈ skipped, declaration = .skipped)
    (each' : ∀ declaration ∈ skipped', declaration = .skipped) :
    SourceFile.ofDeclarations package imports
        ([.types [discriminant], .constants constants] ++ skipped ++
          ([.types [union]] ++ skipped')) =
      ⟨package, imports, [discriminant, union], constants⟩ := by
  simp only [SourceFile.ofDeclarations, List.flatMap_append,
    flatMap_skipped each, flatMap_skipped each']
  simp

namespace UnionSource.Legible

variable {source : UnionSource} (legible : source.Legible)

include legible

/-- All declarations but two types and the constants are passed over. -/
theorem declares_declarationLines :
    Declares source.declarationLines fun _ declared =>
      ∃ discriminant union : TypeDeclaration, ∃ constants skipped skipped',
        declared = [.types [discriminant], .constants constants] ++ skipped ++
            ([.types [union]] ++ skipped') ∧
          (∀ declaration ∈ skipped, declaration = .skipped) ∧
          (∀ declaration ∈ skipped', declaration = .skipped) ∧
          discriminant.identifier.name = source.discriminant ∧
          constants.map (·.binding) = source.stateBindings ∧
          union.identifier.name = source.config.typeName ∧
          (source.descriptor.parameters = [] →
            source.HasSlots union.type) := by
  have functions : Skips (source.variantLines ++ source.valueLines ++
      source.getterBlock ++ source.setterBlock ++ source.matchLines ++
        source.constructorBlock) :=
    ((((legible.skips_variantLines.append legible.skips_valueLines).append
      legible.skips_getterBlock).append legible.skips_setterBlock).append
        legible.skips_matchLines).append legible.skips_constructorBlock
  have declares :=
    (legible.declares_discriminantLines.append
      legible.skips_stringLines).append
      (legible.declares_typeLines.append functions)
  have sameLines :
      source.discriminantLines ++ source.stringLines ++
          (source.typeLines ++ (source.variantLines ++ source.valueLines ++
            source.getterBlock ++ source.setterBlock ++ source.matchLines ++
              source.constructorBlock)) =
        source.declarationLines := by
    simp [declarationLines]
  rw [sameLines] at declares
  apply declares.imp
  rintro text _ ⟨_, _, rfl, ⟨_, skipped, rfl, ⟨discriminant, constants, rfl,
    isDiscriminant, bindings⟩, each⟩, ⟨_, skipped', rfl, ⟨_, rfl, union, rfl,
      isUnion, hasSlots⟩, each'⟩⟩
  exact ⟨discriminant, union, constants, skipped, skipped', rfl, each, each',
    isDiscriminant, bindings, isUnion, hasSlots⟩

/-- The text of a legible source is read as a file that presents the union. -/
theorem reads :
    ∃ file, SourceFile.ofSource source.text.toList = .ok file ∧
      file.Presents source := by
  let clause := [source.marker, "", s!"package {source.config.package}"]
  let importLines :=
    if source.imports.isEmpty then [] else "" :: source.imports.lines
  let declarations := (linesText source.declarationLines).toList
  have same :
      source.text.toList =
        ((linesText clause).toList ++ (linesText importLines).toList) ++
          declarations := by
    rw [text_eq, header, linesText_append, String.toList_append,
      String.toList_append]
  rcases legible.scans_clause 0
    ((linesText importLines).toList ++ (declarations ++ [])) with
    ⟨word, name, stop, scans, isPackage, isName, named⟩
  rcases legible.importsAll source.text.toList
    (0 + byteLength (linesText clause).toList) (declarations ++ []) with
    ⟨importTokens, imports, scansImports, paths, readsImports⟩
  rcases legible.declares_declarationLines source.text.toList
    (0 + byteLength ((linesText clause).toList ++
      (linesText importLines).toList)) [] with
    ⟨tokens, _, scansTokens, ⟨discriminant, union, constants, skipped,
      skipped', rfl, each, each', isDiscriminant, bindings, isUnion,
      hasSlots⟩, reads⟩
  have scansAll := (scans.append scansImports).append scansTokens
  rw [← same] at scansAll
  have noSemicolons : Reader.Semicolons [] := by simp [Reader.Semicolons]
  have isEnd : (lineEnd stop).kind = .symbol .semicolon := rfl
  have readsFile := ReadsFile.file noSemicolons isPackage isName
    (.semicolon isEnd)
    (readsImports _ _ (reads [] [] (.done noSemicolons)))
  rw [List.append_nil, List.append_nil,
    ofDeclarations_skipped _ _ _ _ _ each each'] at readsFile
  refine ⟨⟨Reader.identifierOf name, imports, [discriminant, union],
    constants⟩, ?_, named, paths,
    ⟨discriminant, union, rfl, isDiscriminant, isUnion, hasSlots⟩,
    bindings⟩
  rw [SourceFile.ofSource, scansAll.ofSource]
  exact Reader.ofTokens_append readsFile rfl

end UnionSource.Legible

/-! ## Unions of loaded packages -/

/-- A union whose names are names and whose types are well formed. -/
structure UnionDescriptor.WellFormedParts
    (descriptor : UnionDescriptor) : Prop where
  name : IsName descriptor.name
  parameters : ∀ parameter ∈ descriptor.parameters,
    IsName parameter.name ∧
      WellFormed false .typeSet parameter.constraint
  variants : ∀ variant ∈ descriptor.variants,
    IsName variant.name ∧ WellFormed false .plain variant.type

/-- What is expanded is a declaration with what its parts denote. -/
theorem Package.expand_eq_ok
    {package : Package} {name : String} {root : NamedType}
    (expands : package.expand name = .ok root) :
    ∃ declared ∈ package.declared, declared.name = name ∧
      ∃ parameters type,
        denoteParameters (Scope.ofDeclared package declared)
            declared.declaration.parameters = .ok parameters ∧
          package.underlying package.typeCount declared = .ok type ∧
            root = ⟨name, package.path, some type, parameters, []⟩ := by
  rw [Package.expand] at expands
  split at expands
  case h_1 => cases expands
  case h_2 declared found =>
    rcases Reader.bind_eq_ok expands with ⟨parameters, denotes, expands⟩
    rcases Reader.bind_eq_ok expands with ⟨type, follows, expands⟩
    cases expands
    exact ⟨declared, List.mem_of_find?_eq_some found,
      by simpa using List.find?_some found, parameters, type, denotes,
      follows, rfl⟩

/-- The union of a struct of a loaded package is well formed. -/
theorem Package.descriptor_wellFormed
    {directory path name : String} {texts : List (String × List Char)}
    {package : Package} {root : NamedType} {descriptor : UnionDescriptor}
    (loads : Package.ofTexts directory path texts = .ok package)
    (expands : package.expand name = .ok root)
    (describes : UnionDescriptor.ofNamed root = .ok descriptor) :
    descriptor.WellFormedParts := by
  have grammatical : package.Grammatical := ofTexts_occurs loads
  rcases expand_eq_ok expands with ⟨declared, isDeclared, rfl, parameters,
    type, denotes, follows, rfl⟩
  rcases grammatical declared isDeclared with ⟨tokens, haveNames, occurs⟩
  have wellFormed := underlying_wellFormed grammatical isDeclared follows
  have each := denoteParameters_wellFormed
    (ofDeclared_carriesWell grammatical declared) haveNames occurs.parameters
    denotes
  rw [UnionDescriptor.ofNamed] at describes
  split at describes
  case h_2 => cases describes
  case h_1 fields isRecord =>
    cases describes
    cases type with
    | record list =>
        cases isRecord
        cases wellFormed with
        | record names inner embedded =>
            refine ⟨?_, each, fun variant isVariant =>
              ⟨names variant isVariant, inner variant isVariant⟩⟩
            rcases occurs.named with ⟨token, isIn, isName, same⟩
            show IsName declared.declaration.identifier.name
            rw [same]
            exact haveNames token isIn isName
    | _ => cases isRecord

namespace UnionDescriptor

variable {descriptor : UnionDescriptor} {config : OutputConfig}
  {source : UnionSource}

/-- The local names of the imports of a well-formed union are names. -/
theorem imports_legible
    {destination : String}
    (arePlain : ∀ path ∈ descriptor.paths destination,
      ∀ c ∈ path.toList, Literal.isPlainText c = true) :
    ∀ entry ∈ (ImportPlan.planned descriptor destination).names,
      IsName entry.2 ∧
        ∀ c ∈ entry.1.toList, Literal.isPlainText c = true := by
  intro entry isEntry
  refine ⟨ImportPlan.isName_nameAll arePlain entry isEntry, ?_⟩
  refine arePlain entry.1 ?_
  rw [← ImportPlan.planned_paths]
  exact List.mem_map_of_mem isEntry

/-- The source of a well-formed union is legible. -/
theorem WellFormedParts.legible
    (wellFormed : descriptor.WellFormedParts)
    (made : descriptor.source config = .ok source)
    (isTypeName : IsName config.typeName)
    (isPackageName : IsName config.package)
    (arePlain : ∀ path ∈ source.imports.names.map (·.1),
      ∀ c ∈ path.toList, Literal.isPlainText c = true) :
    source.Legible := by
  rcases source_eq_ok made with ⟨imports, -, collects, rfl⟩
  have isPlanned := ImportPlan.eq_planned collects
  subst isPlanned
  rw [ImportPlan.planned_paths] at arePlain
  have areImports := imports_legible arePlain
  have qualifies :
      QualifiesBy (ImportPlan.planned descriptor
        (descriptor.destination config)).qualifier descriptor.nodes := by
    intro reference _ name qualified
    rw [ImportPlan.qualifier] at qualified
    split at qualified
    case isTrue =>
      rcases List.lookup_eq_some_iff.mp qualified with
        ⟨front, back, split, -⟩
      exact (areImports (reference.package, name)
        (by rw [split]; simp)).1
    case isFalse => cases qualified
  have within {type : GoType} (isType : type ∈ descriptor.types) :
      type.nodes ⊆ descriptor.nodes := by
    intro node isNode
    exact List.mem_flatMap.mpr ⟨type, isType, isNode⟩
  exact {
    typeName := isTypeName
    packageName := isPackageName
    recordName := wellFormed.name
    plan := by
      refine NamePlan.allNames_resolve ?_
      intro name isVariant
      rcases List.mem_map.mp isVariant with ⟨variant, isIn, rfl⟩
      exact (wellFormed.variants variant isIn).1
    variants := fun variant isIn => (wellFormed.variants variant isIn).1
    types := by
      intro variant isIn
      have isType : variant.type ∈ descriptor.types :=
        List.mem_append_right _ (List.mem_map_of_mem isIn)
      exact ((wellFormed.variants variant isIn).2.spelledBack
        (qualifies.subset (within isType))).plain rfl
    parameters := fun parameter isIn =>
      (wellFormed.parameters parameter isIn).1
    constraints := by
      intro parameter isIn
      have isType : parameter.constraint ∈ descriptor.types :=
        List.mem_append_left _ (List.mem_map_of_mem isIn)
      exact ((wellFormed.parameters parameter isIn).2.spelledBack
        (qualifies.subset (within isType))).constraint
    imports := areImports
  }

end UnionDescriptor

/-- There is an invalid state exactly if the first variant is not the default. -/
theorem NamePlan.isSome_invalid_resolve
    (variants : List String) (features : Features)
    (reserved : List String) :
    (NamePlan.resolve variants features reserved).invalid.isSome =
      !features.defaulting := by
  rw [NamePlan.resolve]
  cases features.defaulting with
  | true => rfl
  | false => rfl

/--
What is generated for a struct of a loaded package is accepted as a source
file.  It has the planned package clause and imports, the paths of which ascend;
it declares the type of discriminants and the union type; and its constants
number the states, the invalid one first if there is one.
-/
theorem Package.generate_readable
    {directory path name text : String}
    {texts : List (String × List Char)} {package : Package}
    {root : NamedType} {config : OutputConfig}
    (loads : Package.ofTexts directory path texts = .ok package)
    (expands : package.expand name = .ok root)
    (generates : root.generate config = .ok text)
    (isTypeName : IsName config.typeName)
    (isPackageName : IsName config.package) :
    ∃ descriptor source,
      UnionDescriptor.ofNamed root = .ok descriptor ∧
        descriptor.source config = .ok source ∧
        (source.imports.names.map (·.1)).Pairwise (· < ·) ∧
        source.plan.invalid.isSome = !config.features.defaulting ∧
        ((∀ path ∈ source.imports.names.map (·.1),
            ∀ c ∈ path.toList, Literal.isPlainText c = true) →
          ∃ file, SourceFile.ofSource text.toList = .ok file ∧
            file.Presents source) := by
  rcases NamedType.generate_eq_ok generates with
    ⟨descriptor, source, describes, made, rfl⟩
  refine ⟨descriptor, source, describes, made, ?_, ?_, ?_⟩
  · rcases UnionDescriptor.source_eq_ok made with
      ⟨imports, -, collects, rfl⟩
    rw [ImportPlan.eq_planned collects, ImportPlan.planned_paths]
    exact ascending_ordered _
  · rcases UnionDescriptor.source_eq_ok made with
      ⟨imports, -, -, rfl⟩
    exact NamePlan.isSome_invalid_resolve _ _ _
  · intro arePlain
    exact ((Package.descriptor_wellFormed loads expands describes).legible
      made isTypeName isPackageName arePlain).reads

/-- A struct with an embedded imported type, a channel and a raw pointer, whose union goes to
another package under a command of two lines. -/
theorem Package.generate_readable_box :
    let config : OutputConfig :=
      ⟨"U", "u.go", "out", some "example/out", some "gunion\nBox",
        .standard⟩
    ∃ package root text file,
      Package.ofTexts "boxes" "example/boxes"
          [("box.go", ("package boxes\n" ++
            "import sh \"example/shapes\"\nimport \"unsafe\"\n" ++
            "type Box struct \x7b\n\tkey, Invalid string\n" ++
            "\t*sh.Shape\n\tnext chan (<-chan error)\n" ++
            "\traw unsafe.Pointer\n\x7d\n").toList)] = .ok package ∧
        package.expand "Box" = .ok root ∧
        root.generate config = .ok text ∧
        SourceFile.ofSource text.toList = .ok file ∧
        file.package.name = "out" ∧
        file.imports.map (·.path) = ["example/shapes", "unsafe"] ∧
        file.types.map (·.identifier.name) = ["UVariant", "U"] ∧
        file.constants.map (·.binding) =
          [("U__Invalid", .integer 0), ("U_key", .integer 1),
            ("U_Invalid", .integer 2), ("U_Shape", .integer 3),
            ("U_next", .integer 4), ("U_raw", .integer 5)] ∧
        ∃ union ∈ file.types, ∃ span fields,
          union.type = .record span fields ∧
            fields.map (·.identifier.name) =
              ["_variant", "key", "Invalid", "Shape", "next", "raw"] := by
  intro config
  generalize shape :
    Package.ofTexts "boxes" "example/boxes" _ = result
  have seen :
      (result.toOption.bind fun package =>
        (package.type? "Box").bind fun _ =>
          (package.expand "Box").toOption.map fun root =>
            (UnionDescriptor.ofNamed root).toOption.bind fun descriptor =>
              (descriptor.source config).toOption.map fun source =>
                decide <|
                  source.imports.names.map (·.1) =
                      ["example/shapes", "unsafe"] ∧
                    source.plan.invalid = some "_Invalid" ∧
                    source.plan.discriminant = "_variant" ∧
                    source.config = config ∧
                    source.descriptor.parameters.isEmpty = true ∧
                    source.descriptor.variantNames =
                      ["key", "Invalid", "Shape", "next", "raw"]) =
        some (some true) := by
    rw [← shape]
    decide +kernel
  rcases exists_expanded seen with
    ⟨package, declared, root, rfl, found, expands, seen⟩
  rcases Option.bind_eq_some_iff.mp seen with
    ⟨descriptor, describes, seen⟩
  rcases exists_generated root (eq_ok_of_toOption describes) seen with
    ⟨source, made, generates, seen⟩
  rcases of_decide_eq_true seen with
    ⟨paths, invalid, discriminant, isConfig, isPlain, variants⟩
  have isTypeName : IsName "U" := by decide
  have isPackageName : IsName "out" := by decide
  rcases Package.generate_readable shape expands generates isTypeName
    isPackageName with
    ⟨descriptor', source', describes', made', -, -, readable⟩
  cases (eq_ok_of_toOption describes).symm.trans describes'
  cases made.symm.trans made'
  have arePlain : ∀ path ∈ ["example/shapes", "unsafe"],
      ∀ c ∈ path.toList, Literal.isPlainText c = true := by
    have checked : ["example/shapes", "unsafe"].all (fun path =>
        path.toList.all Literal.isPlainText) = true := by
      decide
    simpa only [List.all_eq_true] using checked
  rcases readable (paths.symm ▸ arePlain) with ⟨file, reads, presents⟩
  rcases presents.types with
    ⟨first, second, types, isFirst, isSecond, hasSlots⟩
  rcases hasSlots (List.isEmpty_iff.mp isPlain) with
    ⟨span, fields, isRecord, names, -⟩
  have isPackage := presents.package
  have bindings := presents.constants
  rw [isConfig] at isPackage isFirst isSecond bindings names
  rw [invalid, variants] at bindings
  rw [discriminant, variants] at names
  refine ⟨package, root, source.text, file, rfl, expands, generates, reads,
    isPackage, presents.imports.trans paths, ?_, bindings,
    second, ?_, span, fields, isRecord, names⟩
  · rw [types, List.map_cons, List.map_cons, isFirst, isSecond]
    rfl
  · simp [types]

end GoUnion
