import GoUnion.Proofs.Extension
import GoUnion.Proofs.Output
import GoUnion.Proofs.Reload
import GoUnion.Request

/-!
# Regeneration

A directory that a union was generated into holds the generated file next to the
files that it was made from.  The generated file joins their package; it declares
names that are free there, so the package with it extends the package without it,
and the same struct gives the same text again.
-/

namespace GoUnion

open Lexeme (IsName)
open Reader (bind_eq_ok ok_bind)

/-! ## Loading files -/

/-- Names that are distinct and unseen hold no repetition. -/
theorem firstRepeated?_eq_none
    {seen : List String} {list : List Declared}
    (nodup : (list.map (·.name)).Nodup)
    (unseen : ∀ declared ∈ list, declared.name ∉ seen) :
    Declared.firstRepeated? seen list = none := by
  induction list generalizing seen with
  | nil => rfl
  | cons declared list ih =>
      rw [List.map_cons, List.nodup_cons] at nodup
      rcases List.forall_mem_cons.mp unseen with ⟨isNew, areNew⟩
      rw [Declared.firstRepeated?, List.contains_eq_mem,
        if_neg (by simpa using isNew)]
      refine ih nodup.2 ?_
      intro other isOther isSeen
      rcases List.mem_cons.mp isSeen with same | isSeen
      · exact nodup.1 (same ▸ List.mem_map_of_mem isOther)
      · exact areNew other isOther isSeen

theorem commonName_eq_ok
    {directory name : String} {first : PackageFile}
    {files : List PackageFile} :
    Package.commonName directory first files = .ok name ↔
      name = first.syntaxTree.package.name ∧
        ∀ file ∈ files, file.syntaxTree.package.name = name := by
  rw [Package.commonName]
  constructor
  · intro common
    split at common
    case h_1 isNone =>
      cases common
      refine ⟨rfl, fun file isIn => ?_⟩
      simpa using List.find?_eq_none.mp isNone file isIn
    case h_2 => cases common
  · rintro ⟨rfl, same⟩
    have isNone :
        files.find? (fun file => file.syntaxTree.package.name ≠
          first.syntaxTree.package.name) = none := by
      simpa [List.find?_eq_none] using same
    rw [isNone]

/-- Files make a package if there are some, if they name the same package, and if no type is
declared twice. -/
theorem ofFiles_eq_ok
    {directory path : String} {files : List PackageFile}
    {package : Package} :
    Package.ofFiles directory path files = .ok package ↔
      files ≠ [] ∧ package = ⟨package.name, path, files⟩ ∧
        (∀ file ∈ files, file.syntaxTree.package.name = package.name) ∧
        (package.declared.map (·.name)).Nodup := by
  constructor
  · intro loads
    have nodup := Package.ofFiles_nodup loads
    cases files with
    | nil => cases loads
    | cons first others =>
        rcases bind_eq_ok loads with ⟨name, common, loads⟩
        dsimp only at loads
        split at loads
        case h_1 =>
          cases loads
          exact ⟨by simp, rfl, (commonName_eq_ok.mp common).2, nodup⟩
        case h_2 => cases loads
  · rintro ⟨isSome, isPackage, same, nodup⟩
    cases files with
    | nil => exact absurd rfl isSome
    | cons first others =>
        have common :
            Package.commonName directory first (first :: others) =
              .ok package.name :=
          commonName_eq_ok.mpr
            ⟨(same first List.mem_cons_self).symm, same⟩
        have unique :
            Declared.firstRepeated? []
              (Package.mk package.name path (first :: others)).declared =
              none := by
          rw [← isPackage]
          exact firstRepeated?_eq_none nodup (by simp)
        rw [Package.ofFiles]
        dsimp only
        rw [common, ok_bind, unique, ← isPackage]
        rfl

/-! ## A further file -/

theorem find?_insert
    {α : Type} {test : α → Bool} {middle : List α}
    (fails : ∀ item ∈ middle, test item = false) (front back : List α) :
    (front ++ (middle ++ back)).find? test = (front ++ back).find? test := by
  have isNone : middle.find? test = none :=
    List.find?_eq_none.mpr fun item isIn => by simp [fails item isIn]
  rw [List.find?_append, List.find?_append, List.find?_append, isNone,
    Option.none_or]

section Insertion

variable {name path : String} {before after : List PackageFile}
  {file : PackageFile}

theorem declared_insert :
    (Package.mk name path (before ++ file :: after)).declared =
      before.flatMap (·.declared) ++
        (file.declared ++ after.flatMap (·.declared)) := by
  rw [Package.declared, List.flatMap_append, List.flatMap_cons]

theorem declared_append :
    (Package.mk name path (before ++ after)).declared =
      before.flatMap (·.declared) ++ after.flatMap (·.declared) := by
  rw [Package.declared, List.flatMap_append]

/-- A name that a further file does not declare stands for the type that it stood for. -/
theorem type?_insert
    {wanted : String}
    (undeclared : ∀ declared ∈ file.declared, declared.name ≠ wanted) :
    (Package.mk name path (before ++ file :: after)).type? wanted =
      (Package.mk name path (before ++ after)).type? wanted := by
  rw [Package.type?, Package.type?, declared_insert, declared_append]
  apply find?_insert
  simpa using undeclared

/-- A name that a further file gives to no constant has the value that it had. -/
theorem constant?_insert
    {wanted : String}
    (undeclared : ∀ constant ∈ file.constants,
      constant.identifier.name ≠ wanted) :
    (Package.mk name path (before ++ file :: after)).constant? wanted =
      (Package.mk name path (before ++ after)).constant? wanted := by
  rw [Package.constant?, Package.constant?, List.flatMap_append,
    List.flatMap_cons, List.flatMap_append, List.reverse_append,
    List.reverse_append, List.reverse_append, List.append_assoc,
    find?_insert]
  simpa using undeclared

/-- A file whose names are free extends the package that it joins. -/
theorem extendedBy_insert
    (freeTypes : ∀ declared ∈ file.declared,
      (Package.mk name path (before ++ after)).type? declared.name = none ∧
        Scope.universal? declared.name = none)
    (freeConstants : ∀ constant ∈ file.constants,
      (Package.mk name path (before ++ after)).constant?
        constant.identifier.name = none) :
    (Package.mk name path (before ++ after)).ExtendedBy
      (.mk name path (before ++ file :: after)) where
  path := rfl
  type? wanted declared found := by
    rw [type?_insert, found]
    rintro other isOther rfl
    rw [(freeTypes other isOther).1] at found
    cases found
  universal wanted type undeclared isUniversal := by
    rw [type?_insert, undeclared]
    rintro other isOther rfl
    rw [(freeTypes other isOther).2] at isUniversal
    cases isUniversal
  constant? wanted value found := by
    rw [constant?_insert, found]
    rintro constant isConstant rfl
    rw [freeConstants constant isConstant] at found
    cases found
  typeCount := by
    rw [Package.typeCount, Package.typeCount, declared_insert,
      declared_append]
    simp only [List.length_append]
    omega

/-- A file with free names of the package's name makes a package with the other files. -/
theorem ofFiles_insert
    {directory : String} {package : Package}
    (loads : Package.ofFiles directory path (before ++ after) = .ok package)
    (sameName : file.syntaxTree.package.name = package.name)
    (nodup : (file.declared.map (·.name)).Nodup)
    (free : ∀ declared ∈ file.declared,
      package.type? declared.name = none) :
    Package.ofFiles directory path (before ++ file :: after) =
      .ok ⟨package.name, path, before ++ file :: after⟩ := by
  rcases ofFiles_eq_ok.mp loads with ⟨-, isPackage, same, nodupOthers⟩
  refine ofFiles_eq_ok.mpr ⟨by simp, rfl, ?_, ?_⟩
  · intro other isOther
    rcases List.mem_append.mp isOther with isBefore | isOther
    · exact same other (List.mem_append_left _ isBefore)
    · rcases List.mem_cons.mp isOther with rfl | isAfter
      · exact sameName
      · exact same other (List.mem_append_right _ isAfter)
  · rw [isPackage, declared_append] at nodupOthers
    have swap :=
      List.perm_append_comm_assoc (before.flatMap (·.declared))
        file.declared (after.flatMap (·.declared))
    rw [declared_insert, (swap.map (·.name)).nodup_iff, List.map_append]
    refine nodup.append nodupOthers ?_
    intro name isNew isOld
    rcases List.mem_map.mp isNew with ⟨other, isOther, rfl⟩
    rcases List.mem_map.mp isOld with ⟨declared, isDeclared, sameName⟩
    rw [← declared_append, ← isPackage] at isDeclared
    exact List.find?_eq_none.mp (free other isOther) declared isDeclared
      (decide_eq_true sameName)

end Insertion

/-- Texts with a further one make the package of their files with a further one. -/
theorem ofTexts_insert
    {directory path : String} {before after : List (String × List Char)}
    {package : Package}
    (loads : Package.ofTexts directory path (before ++ after) =
      .ok package) :
    ∃ filesBefore filesAfter,
      Package.ofFiles directory path (filesBefore ++ filesAfter) =
          .ok package ∧
        ∀ other text file, PackageFile.ofText other text = .ok file →
          Package.ofTexts directory path
              (before ++ (other, text) :: after) =
            Package.ofFiles directory path
              (filesBefore ++ file :: filesAfter) := by
  rcases bind_eq_ok loads with ⟨files, reads, loadsFiles⟩
  rw [List.mapM_append] at reads
  rcases bind_eq_ok reads with ⟨filesBefore, readsBefore, reads⟩
  rcases bind_eq_ok reads with ⟨filesAfter, readsAfter, yields⟩
  cases yields
  refine ⟨filesBefore, filesAfter, loadsFiles, ?_⟩
  intro other text file readsFile
  rw [Package.ofTexts, mapM_of_forall₂ (List.rel_append
    (mapM_eq_ok readsBefore) (.cons readsFile (mapM_eq_ok readsAfter))),
    ok_bind]

/-! ## Imports of the generated file -/

section Imports

variable {package : Package}

/-- Every reference in the structure of a declaration is one of some declaration of the
package. -/
theorem underlying_refers
    {steps : Nat} {declared : Declared} {type : GoType}
    (isDeclared : declared ∈ package.declared)
    (succeeds : package.underlying steps declared = .ok type) :
    ∀ reference ∈ type.references, ∃ other ∈ package.declared,
      ∃ kind, other.Refers package reference kind := by
  induction steps using Nat.strongRecOn generalizing declared with
  | ind steps ih =>
      intro reference isIn
      cases underlying_eq_ok succeeds with
      | pointer | anything | failure => cases isIn
      | denoted denotes =>
          exact ⟨declared, isDeclared, Declared.exists_refers
            (TypeExpr.denote_namesAll _ denotes) isIn⟩
      | record shape denotes =>
          have names :
              (Scope.ofDeclared package declared).NamesAll
                (GoType.record _).nodes :=
            .within rfl
              (denoteFields_namesAll _ (rootFields_eq_ok.mp denotes))
          exact ⟨declared, isDeclared, Declared.exists_refers names isIn⟩
      | follows _ isTarget follows =>
          -- From here on the references are those of another declaration.
          exact ih _ (Nat.lt_succ_self _) isTarget follows reference isIn

/-- A type inside the type of a field is inside the struct. -/
theorem mem_fieldNodes
    {fields : List Field} {field : Field} {node : GoType}
    (isField : field ∈ fields) (isNode : node ∈ field.type.nodes) :
    node ∈ fieldNodes fields := by
  induction fields with
  | nil => cases isField
  | cons first others ih =>
      rcases first with ⟨name, type, tag, embedded⟩
      rw [fieldNodes]
      rcases List.mem_cons.mp isField with rfl | isOther
      · exact List.mem_append_left _ isNode
      · exact List.mem_append_right _ (ih isOther)

/-- Every reference that a union is written with is one of some declaration of the package. -/
theorem Package.descriptor_refers
    {name : String} {root : NamedType} {descriptor : UnionDescriptor}
    (expands : package.expand name = .ok root)
    (describes : UnionDescriptor.ofNamed root = .ok descriptor) :
    ∀ reference ∈ descriptor.references, ∃ declared ∈ package.declared,
      ∃ kind, declared.Refers package reference kind := by
  rcases expand_eq_ok expands with ⟨declared, isDeclared, rfl, parameters,
    type, denotes, follows, rfl⟩
  rw [UnionDescriptor.ofNamed] at describes
  split at describes
  case h_2 => cases describes
  case h_1 fields isRecord =>
    cases describes
    intro reference isReference
    rcases List.mem_flatMap.mp isReference with ⟨part, isPart, isIn⟩
    rcases List.mem_append.mp isPart with isConstraint | isVariant
    · rcases List.mem_map.mp isConstraint with ⟨parameter, inList, rfl⟩
      rcases exists_of_forall₂ (mapM_eq_ok denotes) inList with
        ⟨expression, -, denotes⟩
      rcases bind_eq_ok denotes with ⟨constraint, succeeds, yields⟩
      cases yields
      exact ⟨declared, isDeclared, Declared.exists_refers
        (TypeExpr.denote_namesAll _ succeeds) isIn⟩
    · rcases List.mem_map.mp isVariant with ⟨field, isField, rfl⟩
      refine underlying_refers isDeclared follows reference ?_
      cases type with
      | record list =>
          cases isRecord
          exact mem_references.mpr (List.mem_cons_of_mem _
            (mem_fieldNodes isField (mem_references.mp isIn)))
      | _ => cases isRecord

/-- In the package of the struct, a union imports nothing but `unsafe` and what a file of the
package imports. -/
theorem Package.planned_imported
    {name path : String} {root : NamedType} {descriptor : UnionDescriptor}
    (expands : package.expand name = .ok root)
    (describes : UnionDescriptor.ofNamed root = .ok descriptor)
    (isPlanned : path ∈
      (ImportPlan.planned descriptor package.path).names.map (·.1)) :
    path = ImportPlan.unsafePath ∨
      ∃ file ∈ package.files,
        path ∈ file.syntaxTree.imports.map (·.path) := by
  rcases ImportPlan.mem_planned_paths.mp isPlanned with
    ⟨reference, isReference, isForeign, rfl⟩ | ⟨isUnsafe, -⟩
  · rcases descriptor_refers expands describes reference isReference with
      ⟨declared, isDeclared, kind, refers⟩
    rw [UnionDescriptor.isForeign, ImportPlan.isForeign] at isForeign
    simp only [NamedType.isPredeclared, Bool.not_eq_true',
      Bool.or_eq_false_iff, decide_eq_false_iff_not] at isForeign
    rcases isForeign with ⟨⟨notPredeclared, notOwn⟩, -⟩
    cases kind with
    | parameter | declared => exact absurd refers.1 notOwn
    | universal => exact absurd refers.1 notPredeclared
    | imported =>
        rcases refers with ⟨-, -, name, bound⟩
        rcases List.mem_flatMap.mp isDeclared with ⟨file, isFile, inFile⟩
        rcases List.mem_map.mp inFile with ⟨declaration, -, rfl⟩
        exact .inr ⟨file, isFile, PackageFile.path_of_importPath? bound⟩
  · exact .inl isUnsafe

/-- Where the imports of the files are plain, those of a union in their package are. -/
theorem Package.imports_plain
    {name : String} {root : NamedType} {descriptor : UnionDescriptor}
    {config : OutputConfig} {source : UnionSource}
    (expands : package.expand name = .ok root)
    (describes : UnionDescriptor.ofNamed root = .ok descriptor)
    (made : descriptor.source config = .ok source)
    (isPath : ∀ other ∈ config.packagePath, other = package.path)
    (arePlain : ∀ file ∈ package.files,
      ∀ path ∈ file.syntaxTree.imports.map (·.path),
        path ∈ source.imports.names.map (·.1) →
          ∀ c ∈ path.toList, Literal.isPlainText c = true) :
    ∀ path ∈ source.imports.names.map (·.1),
      ∀ c ∈ path.toList, Literal.isPlainText c = true := by
  intro path isImported
  have destination : descriptor.destination config = package.path := by
    rcases expand_eq_ok expands with ⟨_, -, -, _, type, -, -, rfl⟩
    rw [UnionDescriptor.ofNamed] at describes
    split at describes
    case h_2 => cases describes
    case h_1 =>
      cases describes
      rw [UnionDescriptor.destination]
      cases own : config.packagePath with
      | none => rfl
      | some other => exact isPath other own
  have isPlanned := isImported
  rcases UnionDescriptor.source_eq_ok made with ⟨imports, -, collects, rfl⟩
  rw [ImportPlan.eq_planned collects, destination] at isPlanned
  rcases planned_imported expands describes isPlanned with
    rfl | ⟨file, isFile, inFile⟩
  · have isPlain :
        ImportPlan.unsafePath.toList.all Literal.isPlainText = true := by
      decide
    exact List.all_eq_true.mp isPlain
  · exact arePlain file isFile path inFile isImported

end Imports

/-! ## The generated file -/

/-- The names that a generated file declares. -/
def UnionSource.declaredNames (source : UnionSource) : List String :=
  source.config.typeName :: source.discriminant :: source.constants

/-- A name that a package declares neither for a type nor for a constant, and that is not one of
the universe. -/
structure Package.LeavesFree (package : Package) (name : String) : Prop where
  type : package.type? name = none
  constant : package.constant? name = none
  universal : Scope.universal? name = none

instance (package : Package) (name : String) :
    Decidable (package.LeavesFree name) :=
  decidable_of_iff
    ((package.type? name).isNone = true ∧
      (package.constant? name).isNone = true ∧
      (Scope.universal? name).isNone = true)
    ⟨fun ⟨type, constant, universal⟩ =>
        ⟨Option.isNone_iff_eq_none.mp type,
          Option.isNone_iff_eq_none.mp constant,
          Option.isNone_iff_eq_none.mp universal⟩,
      fun ⟨type, constant, universal⟩ =>
        ⟨Option.isNone_iff_eq_none.mpr type,
          Option.isNone_iff_eq_none.mpr constant,
          Option.isNone_iff_eq_none.mpr universal⟩⟩

namespace SourceFile.Presents

variable {syntaxTree : SourceFile} {source : UnionSource}
  {path : String} {text : List Char}

/-- A generated file declares the discriminants and the union, at most. -/
theorem declared_sublist (presents : syntaxTree.Presents source) :
    ((PackageFile.mk path text syntaxTree).declared.map
      (·.name)).Sublist [source.discriminant, source.config.typeName] := by
  rcases presents.types with
    ⟨discriminant, union, types, isDiscriminant, isUnion, -⟩
  have names :
      syntaxTree.types.map (·.identifier.name) =
        [source.discriminant, source.config.typeName] := by
    rw [types, List.map_cons, List.map_cons, isDiscriminant, isUnion]
    rfl
  rw [PackageFile.declared, List.map_map, ← names]
  exact List.filter_sublist.map _

/-- The types of a generated file have different names. -/
theorem declared_nodup (presents : syntaxTree.Presents source) :
    ((PackageFile.mk path text syntaxTree).declared.map
      (·.name)).Nodup := by
  refine presents.declared_sublist.nodup ?_
  have differ : source.discriminant ≠ source.config.typeName := by
    intro same
    have length := congrArg String.length same
    rw [UnionSource.discriminant, UnionSource.discriminantType,
      String.length_append] at length
    have positive : 0 < "Variant".length := by decide
    omega
  simpa using differ

theorem declared_mem (presents : syntaxTree.Presents source) :
    ∀ declared ∈ (PackageFile.mk path text syntaxTree).declared,
      declared.name ∈ source.declaredNames := by
  intro declared isDeclared
  have isName :=
    presents.declared_sublist.subset (List.mem_map_of_mem isDeclared)
  rcases List.mem_cons.mp isName with same | isUnion
  · rw [same]
    exact List.mem_cons_of_mem _ List.mem_cons_self
  · rw [List.mem_singleton.mp isUnion]
    exact List.mem_cons_self

theorem constants_mem (presents : syntaxTree.Presents source) :
    ∀ constant ∈ (PackageFile.mk path text syntaxTree).constants,
      constant.identifier.name ∈ source.declaredNames := by
  intro constant isNamed
  have isConstant : constant ∈ syntaxTree.constants :=
    List.mem_of_mem_filter isNamed
  have isBinding :
      constant.binding ∈ syntaxTree.constants.map (·.binding) :=
    List.mem_map_of_mem isConstant
  rw [presents.constants] at isBinding
  rcases List.mem_mapIdx.mp isBinding with ⟨index, bound, binding⟩
  have isState : constant.identifier.name ∈ source.constants :=
    List.mem_map.mpr ⟨_, List.getElem_mem bound,
      congrArg Prod.fst binding⟩
  exact List.mem_cons_of_mem _ (List.mem_cons_of_mem _ isState)

end SourceFile.Presents

/--
Regeneration is stable.  Let a text be generated for a struct into the package
of the struct, and let the names that the text declares be free there.  With the
text among its files, anywhere, the package loads again, and the same text is
generated for the same struct.
-/
theorem Package.generate_stable
    {directory path name text generated : String}
    {before after : List (String × List Char)} {package : Package}
    {root : NamedType} {config : OutputConfig}
    {descriptor : UnionDescriptor} {source : UnionSource}
    (loads : Package.ofTexts directory path (before ++ after) = .ok package)
    (loadsRecord : package.loadRecord name = .ok root)
    (generates : root.generate config = .ok text)
    (describes : UnionDescriptor.ofNamed root = .ok descriptor)
    (made : descriptor.source config = .ok source)
    (isPackage : config.package = package.name)
    (isPath : ∀ other ∈ config.packagePath, other = package.path)
    (isTypeName : IsName config.typeName)
    (isPackageName : IsName config.package)
    (arePlain : ∀ file ∈ package.files,
      ∀ imported ∈ file.syntaxTree.imports.map (·.path),
        imported ∈ source.imports.names.map (·.1) →
          ∀ c ∈ imported.toList, Literal.isPlainText c = true)
    (free : ∀ declared ∈ source.declaredNames,
      package.LeavesFree declared) :
    ∃ package',
      Package.ofTexts directory path
          (before ++ (generated, text.toList) :: after) = .ok package' ∧
        package'.loadRecord name = .ok root ∧
        FileTree.unionText config (package'.loadRecord name) =
          .ok text := by
  rcases NamedType.generate_eq_ok generates with
    ⟨descriptor', source', describes', made', rfl⟩
  cases describes.symm.trans describes'
  cases made.symm.trans made'
  have expands := expand_of_loadRecord loadsRecord
  have legible :=
    (descriptor_wellFormed loads expands describes).legible made isTypeName
      isPackageName (imports_plain expands describes made isPath arePlain)
  -- What the generated file declares is known from the source it was written from.
  rcases legible.reads with ⟨syntaxTree, parses, presents⟩
  rcases ofTexts_insert loads with
    ⟨filesBefore, filesAfter, loadsFiles, inserts⟩
  let file : PackageFile := ⟨generated, source.text.toList, syntaxTree⟩
  have reads' :
      PackageFile.ofText generated source.text.toList = .ok file := by
    rw [PackageFile.ofText, parses]
  have freeTypes : ∀ declared ∈ file.declared,
      package.LeavesFree declared.name :=
    fun declared isDeclared => free _ (presents.declared_mem _ isDeclared)
  have freeConstants : ∀ constant ∈ file.constants,
      package.LeavesFree constant.identifier.name :=
    fun constant isConstant => free _ (presents.constants_mem _ isConstant)
  have samePackage : syntaxTree.package.name = package.name := by
    rw [presents.package, ← isPackage]
    rcases UnionDescriptor.source_eq_ok made with ⟨imports, -, -, rfl⟩
    rfl
  have loads' := ofFiles_insert loadsFiles samePackage
    presents.declared_nodup fun declared isDeclared =>
      (freeTypes declared isDeclared).type
  -- With the new file the package is an extension, so the struct is expanded to the same.
  rcases ofFiles_eq_ok.mp loadsFiles with ⟨-, isWhole, -, -⟩
  rcases package with ⟨packageName, packagePath, packageFiles⟩
  cases isWhole
  have extended := extendedBy_insert
    (fun declared isDeclared => ⟨(freeTypes declared isDeclared).type,
      (freeTypes declared isDeclared).universal⟩)
    (fun constant isConstant => (freeConstants constant isConstant).constant)
  have loadsRecord' := extended.loadRecord loadsRecord
  have inserted := inserts generated source.text.toList file reads'
  refine ⟨_, inserted.trans loads', loadsRecord', ?_⟩
  rw [loadsRecord']
  exact generates

/-- A struct with an array whose length another file declares, and an imported type; the generated
file is put between the two files. -/
theorem Package.generate_stable_box :
    let config : OutputConfig :=
      ⟨"U", "u.go", "boxes", some "example/boxes", none, .standard⟩
    let box := ("box.go", ("package boxes\n" ++
      "import sh \"example/shapes\"\n" ++
      "type Box struct \x7b\n\tkey [size]string\n" ++
      "\tshape *sh.Shape\n\x7d\n").toList)
    let size := ("size.go", "package boxes\nconst size = 4\n".toList)
    ∃ package package' root text,
      Package.ofTexts "boxes" "example/boxes" [box, size] = .ok package ∧
        package.loadRecord "Box" = .ok root ∧
        root.generate config = .ok text ∧
        Package.ofTexts "boxes" "example/boxes"
            [box, ("u.go", text.toList), size] = .ok package' ∧
        FileTree.unionText config (package'.loadRecord "Box") =
          .ok text := by
  intro config box size
  generalize shape :
    Package.ofTexts "boxes" "example/boxes" [box, size] = result
  have seen :
      (result.toOption.bind fun package =>
        (package.loadRecord "Box").toOption.bind fun root =>
          (UnionDescriptor.ofNamed root).toOption.bind fun descriptor =>
            (descriptor.source config).toOption.map fun source =>
              (package.name, package.path,
                package.files.all (fun file =>
                  (file.syntaxTree.imports.map (·.path)).all fun path =>
                    path.toList.all Literal.isPlainText),
                source.declaredNames.all fun name =>
                  decide (package.LeavesFree name))) =
        some ("boxes", "example/boxes", true, true) := by
    rw [← shape]
    decide +kernel
  rcases Option.bind_eq_some_iff.mp seen with ⟨package, isLoaded, seen⟩
  rcases Option.bind_eq_some_iff.mp seen with ⟨root, isRecord, seen⟩
  rcases Option.bind_eq_some_iff.mp seen with
    ⟨descriptor, isDescriptor, seen⟩
  have describes := eq_ok_of_toOption isDescriptor
  rcases exists_generated root describes seen with
    ⟨source, made, generates, seen⟩
  simp only [Prod.mk.injEq, List.all_eq_true, decide_eq_true_eq] at seen
  rcases seen with ⟨isName, isPath, arePlain, free⟩
  have loads :
      Package.ofTexts "boxes" "example/boxes" ([box] ++ [size]) =
        .ok package :=
    shape.trans (eq_ok_of_toOption isLoaded)
  have loadsRecord := eq_ok_of_toOption isRecord
  have isOwnPath : ∀ other ∈ config.packagePath, other = package.path := by
    intro other isOther
    cases isOther
    exact isPath.symm
  have isTypeName : IsName "U" := by decide
  have isPackageName : IsName "boxes" := by decide
  rcases Package.generate_stable loads loadsRecord generates describes made
    isName.symm isOwnPath isTypeName isPackageName
    (fun file isFile imported isImported _ =>
      arePlain file isFile imported isImported) free with
    ⟨package', loads', -, again⟩
  exact ⟨package, package', root, source.text, eq_ok_of_toOption isLoaded,
    loadsRecord, generates, loads', again⟩

end GoUnion
