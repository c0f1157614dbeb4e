import GoUnion.Proofs.FileGrammar.Completeness
import GoUnion.Proofs.Lexing.Replace
import GoUnion.Proofs.Places.Packages
import GoUnion.Proofs.Places.Slots
import GoUnion.Proofs.Scoping
import GoUnion.Proofs.Spelling.RoundTrip

/-!
# Structs are loaded again

The spelling of a struct may be put back in the place of the struct.  The file
is parsed again, and it declares what it declared before, apart from places and
from the struct, which is now the one that was spelled.  The package is loaded
again, and its scopes give the same answers about names.  Every name in the
struct came from a name of the scope, and it is spelled by a name that stands
for the same; so the struct that is read denotes what the first one did.
-/

namespace GoUnion

open Lexeme (IsName)
open Reader
open Text (Span)
open Token

/-! ## The extent of a struct -/

namespace Reader

theorem Enclosed.exists_closing
    {closing : TokenKind} {pieces : List (List Token)}
    {tokens : List Token} (enclosed : Enclosed closing pieces tokens) :
    ∃ middle mark, tokens = middle ++ [mark] ∧ mark.kind = closing := by
  induction enclosed with
  | close leading isClosing => exact ⟨_, _, rfl, isClosing⟩
  | @last semicolons piece mark leading isClosing =>
      exact ⟨semicolons ++ piece, mark, by simp, isClosing⟩
  | @cons semicolons piece mark pieces tokens leading isMark _ ih =>
      rcases ih with ⟨middle, closing, rfl, isClosing⟩
      exact ⟨semicolons ++ (piece ++ mark :: middle), closing, by simp,
        isClosing⟩

/-- The tokens of a struct start with its keyword and end with its closing brace. -/
theorem FormsRecord.extent
    {source : List Char} {tokens : List Token} {span : Span}
    {fields : List FieldExpr}
    (forms : FormsRecord source tokens (.record span fields)) :
    ∃ word middle closing, tokens = word :: (middle ++ [closing]) ∧
      word.kind = .keyword .struct ∧
        closing.kind = .symbol .rightBrace ∧
          span = ⟨word.span.start,
            closing.span.stop.max word.span.start⟩ := by
  rcases forms with ⟨isStruct, reads⟩
  generalize shape : Phrase.type (.record span fields) = phrase at reads
  cases reads with
  | named reads =>
      cases shape
      cases reads
  | parens opens => simp [opens] at isStruct
  | @record word opening tokens parts isWord opens enclosed reads =>
      cases shape
      rcases enclosed.exists_closing with ⟨middle, mark, rfl, isClosing⟩
      refine ⟨word, opening :: middle, mark, by simp, isWord, isClosing, ?_⟩
      have last :
          (word :: opening :: (middle ++ [mark])).getLast? = some mark :=
        List.getLast?_concat (l := word :: opening :: middle)
      rw [spanTo, List.length_nil, Nat.sub_zero, List.take_length, last]
      rfl
  | _ => cases shape

end Reader

/-! ## Files -/

/-- A text has a declared struct with another one in its place, and declares the same otherwise. -/
structure SourceFile.Redeclared
    (file : SourceFile) (declaration : TypeDeclaration)
    (record' : TypeExpr) (file' : SourceFile) : Prop where
  types : ∃ first later, file.types = first ++ declaration :: later ∧
    file'.types.map (·.unplaced) =
      (Redeclare first declaration later record').map (·.unplaced)
  name : file'.package.name = file.package.name
  imports :
    file'.imports.map (·.unplaced) = file.imports.map (·.unplaced)
  constants :
    file'.constants.map (·.unplaced) = file.constants.map (·.unplaced)

/-- A text that forms a struct may stand in the place of one that is declared. -/
theorem ofSource_redeclared
    {text replacement : List Char} {file : SourceFile}
    {declaration : TypeDeclaration} {span : Span}
    {fields : List FieldExpr} {Means : TypeExpr → Prop}
    (parses : SourceFile.ofSource text = .ok file)
    (isDeclared : declaration ∈ file.types)
    (isRecord : declaration.type = .record span fields)
    (opens :
      ∃ more, replacement = Keyword.struct.spelling.toList ++ more)
    (forms : ∀ source offset pending rest, ∃ tokens,
      Scans rest offset pending replacement tokens true ∧
        ∃ record', FormsRecord source tokens record' ∧ Means record') :
    ∃ file' record',
      SourceFile.ofSource (span.replace replacement text) = .ok file' ∧
        Means record' ∧ file.Redeclared declaration record' file' := by
  rcases bind_eq_ok parses with ⟨tokens, scanned, succeeds⟩
  rcases ofTokens_consumes succeeds with
    ⟨used, final, rfl, isEnd, readsFile⟩
  let source' := span.replace replacement text
  rcases readsFile.hasSlot source' isDeclared isRecord with
    ⟨first, later, split, front, piece, back, rfl, record, fits⟩
  rcases record.extent with
    ⟨word, middle, closing, rfl, isWord, isClosing, isSpan⟩
  have shape :
      (front ++ (word :: (middle ++ [closing]) ++ back)) ++ final =
        front ++ word :: (middle ++ closing :: (back ++ final)) := by
    simp
  rw [shape] at scanned
  rcases ofSource_replace scanned isWord (by decide)
    (by rw [isClosing]; rfl) opens (forms source') with
    ⟨ordered, inner, back', scanned', sameBack, record', forms', means⟩
  have isSpan' : span = ⟨word.span.start, closing.span.stop⟩ := by
    rw [isSpan]
    exact congrArg (Span.mk _) (Nat.max_eq_left ordered)
  rw [← isSpan'] at scanned'
  rcases exists_append_of_words sameBack with
    ⟨later', final', rfl, sameLater, sameFinal⟩
  rcases fits front inner later' record' rfl sameLater forms' with
    ⟨file', readsFile', same⟩
  have isEnd' : kind final' = .endOfFile :=
    (kind_moved sameFinal).trans isEnd
  refine ⟨file', record', ?_, means, ?_⟩
  · rw [SourceFile.ofSource, scanned', ok_bind, ← List.append_assoc inner,
      ← List.append_assoc front]
    exact ofTokens_append readsFile' isEnd'
  · exact {
      types := ⟨first, later, split, congrArg SourceFile.types same⟩
      name := congrArg (·.package.name) same
      imports := congrArg SourceFile.imports same
      constants := congrArg SourceFile.constants same }

namespace SourceFile.Redeclared

variable {file file' : SourceFile} {declaration : TypeDeclaration}
  {record' : TypeExpr}

/-- Both texts declare the same names. -/
theorem alike
    (same : file.Redeclared declaration record' file')
    (path : String) (text text' : List Char) :
    PackageFile.Alike ⟨path, text, file⟩ ⟨path, text', file'⟩ := by
  rcases same.types with ⟨first, later, split, types⟩
  refine ⟨same.name.symm, same.imports.symm, ?_, same.constants.symm⟩
  have view (list : List TypeDeclaration) :
      list.map (·.heading) =
        (list.map (·.unplaced)).map fun declaration =>
          (declaration.identifier.name, declaration.parameters) := by
    rw [List.map_map]
    rfl
  show file.types.map (·.heading) = file'.types.map (·.heading)
  rw [view file'.types, types, ← view, split, Redeclare, List.map_append,
    List.map_append]
  rfl

/-- The second text declares the struct that stands in the place of the first one. -/
theorem exists_declaration
    (same : file.Redeclared declaration record' file') :
    ∃ declaration' ∈ file'.types,
      declaration'.unplaced =
        (declaration.withType record').unplaced := by
  rcases same.types with ⟨first, later, -, types⟩
  have isIn :
      (declaration.withType record').unplaced ∈
        file'.types.map (·.unplaced) := by
    rw [types]
    exact List.mem_map_of_mem
      (List.mem_append_right _ List.mem_cons_self)
  exact List.mem_map.mp isIn

end SourceFile.Redeclared

/-! ## Packages -/

theorem mapM_of_forall₂
    {ε α β : Type} {next : α → Except ε β} {list : List α}
    {results : List β}
    (each : List.Forall₂ (fun value result => next value = .ok result)
      list results) :
    list.mapM next = .ok results := by
  induction each with
  | nil => rfl
  | cons first _ ih =>
      rw [List.mapM_cons, first, ok_bind, ih]
      rfl

/-- Related items are split where the items on the other side are. -/
theorem exists_split_of_forall₂
    {α β : Type} {Related : α → β → Prop} {items : List α}
    {front back : List β} {other : β}
    (each : List.Forall₂ Related items (front ++ other :: back)) :
    ∃ before item after, items = before ++ item :: after ∧
      List.Forall₂ Related before front ∧ Related item other ∧
        List.Forall₂ Related after back := by
  induction front generalizing items with
  | nil =>
      rcases List.forall₂_cons_right_iff.mp each with
        ⟨item, after, related, later, rfl⟩
      exact ⟨[], item, after, rfl, .nil, related, later⟩
  | cons first front ih =>
      rcases List.forall₂_cons_right_iff.mp each with
        ⟨head, items, relatedHead, later, rfl⟩
      rcases ih later with
        ⟨before, item, after, rfl, relatedBefore, related, relatedAfter⟩
      exact ⟨head :: before, item, after, rfl,
        .cons relatedHead relatedBefore, related, relatedAfter⟩

/-- Names without a repetition are distinct, and none of them was seen before. -/
theorem nodup_of_firstRepeated?
    {seen : List String} {list : List Declared}
    (unique : Declared.firstRepeated? seen list = none) :
    (list.map (·.name)).Nodup ∧ ∀ declared ∈ list, declared.name ∉ seen := by
  induction list generalizing seen with
  | nil => simp
  | cons declared list ih =>
      rw [Declared.firstRepeated?] at unique
      split at unique
      case isTrue => cases unique
      case isFalse isNew =>
        rcases ih unique with ⟨nodup, unseen⟩
        rw [List.contains_iff_mem] at isNew
        constructor
        · refine List.nodup_cons.mpr ⟨?_, nodup⟩
          intro isIn
          rcases List.mem_map.mp isIn with ⟨other, inList, sameName⟩
          exact unseen other inList (sameName ▸ List.mem_cons_self)
        · intro other isIn
          rcases List.mem_cons.mp isIn with rfl | inList
          · exact isNew
          · exact fun isSeen => unseen other inList
              (List.mem_cons_of_mem _ isSeen)

namespace Package

variable {directory path : String} {files : List PackageFile}
  {package : Package}

/-- A loaded package declares no name twice. -/
theorem ofFiles_nodup
    (loads : ofFiles directory path files = .ok package) :
    (package.declared.map (·.name)).Nodup := by
  cases files with
  | nil => cases loads
  | cons first others =>
      rcases bind_eq_ok loads with ⟨name, -, loads⟩
      dsimp only at loads
      split at loads
      case h_1 unique =>
        cases loads
        exact (nodup_of_firstRepeated? unique).1
      case h_2 => cases loads

/-- A declaration is found by its name. -/
theorem type?_of_mem
    (nodup : (package.declared.map (·.name)).Nodup) {declared : Declared}
    (isDeclared : declared ∈ package.declared) :
    package.type? declared.name = some declared := by
  cases found : package.type? declared.name with
  | none =>
      have different := List.find?_eq_none.mp found declared isDeclared
      simp at different
  | some other =>
      have sameName : other.name = declared.name := by
        simpa using List.find?_some found
      exact congrArg some (List.inj_on_of_nodup_map nodup
        (List.mem_of_find?_eq_some found) isDeclared sameName)

end Package

/-- A package is loaded again with a struct in the place of a declared one. -/
theorem ofTexts_redeclared
    {directory path name : String} {texts : List (String × List Char)}
    {package : Package} {declared : Declared} {replacement : List Char}
    {span : Span} {fields : List FieldExpr} {Means : TypeExpr → Prop}
    (loads : Package.ofTexts directory path texts = .ok package)
    (found : package.type? name = some declared)
    (isRecord : declared.declaration.type = .record span fields)
    (opens :
      ∃ more, replacement = Keyword.struct.spelling.toList ++ more)
    (forms : ∀ source offset pending rest, ∃ tokens,
      Scans rest offset pending replacement tokens true ∧
        ∃ record', FormsRecord source tokens record' ∧ Means record') :
    ∃ before after package' declared' record',
      texts =
          before ++ (declared.file.path, declared.file.text) :: after ∧
        Package.ofTexts directory path
            (before ++ (declared.file.path,
              span.replace replacement declared.file.text) :: after) =
          .ok package' ∧
        package.Alike package' ∧ package'.type? name = some declared' ∧
        Declared.Alike declared declared' ∧
        declared'.declaration.unplaced =
          (declared.declaration.withType record').unplaced ∧
        Means record' := by
  have isDeclared := List.mem_of_find?_eq_some found
  have isNamed : declared.name = name := by
    simpa using List.find?_some found
  rcases List.mem_flatMap.mp isDeclared with ⟨file, isFile, inFile⟩
  rcases List.mem_map.mp inFile with ⟨declaration, inTypes, rfl⟩
  rcases List.mem_filter.mp inTypes with ⟨inTypes, hasName⟩
  rcases bind_eq_ok loads with ⟨files, scanned, loadsFiles⟩
  have same (files : List PackageFile) :
      List.Forall₂ PackageFile.Alike files files :=
    List.forall₂_same.mpr fun file _ => .refl file
  rcases ofFiles_alike loadsFiles (same files) with ⟨-, isPackage⟩
  rw [isPackage] at isFile
  rcases List.append_of_mem isFile with ⟨filesBefore, filesAfter, rfl⟩
  rcases exists_split_of_forall₂ (mapM_eq_ok scanned) with
    ⟨before, ⟨path', text⟩, after, rfl, relatedBefore, reads,
      relatedAfter⟩
  rcases ofText_eq_ok reads with ⟨syntaxTree, parses, rfl⟩
  rcases ofSource_redeclared parses inTypes isRecord opens forms with
    ⟨syntaxTree', record', parses', means, redeclared⟩
  let file' : PackageFile :=
    ⟨path', span.replace replacement text, syntaxTree'⟩
  have alikeFile : PackageFile.Alike ⟨path', text, syntaxTree⟩ file' :=
    redeclared.alike path' text file'.text
  have reads' :
      PackageFile.ofText path' (span.replace replacement text) =
        .ok file' := by
    rw [PackageFile.ofText, parses']
  have alikeFiles :
      List.Forall₂ PackageFile.Alike
        (filesBefore ++ ⟨path', text, syntaxTree⟩ :: filesAfter)
        (filesBefore ++ file' :: filesAfter) :=
    List.rel_append (same filesBefore) (.cons alikeFile (same filesAfter))
  rcases ofFiles_alike loadsFiles alikeFiles with ⟨loadsFiles', -⟩
  let package' : Package :=
    ⟨package.name, path, filesBefore ++ file' :: filesAfter⟩
  have loads' :
      Package.ofTexts directory path
          (before ++ (path', span.replace replacement text) :: after) =
        .ok package' := by
    rw [Package.ofTexts, mapM_of_forall₂ (List.rel_append relatedBefore
      (.cons reads' relatedAfter)), ok_bind, loadsFiles']
  rcases redeclared.exists_declaration with
    ⟨declaration', inTypes', sameDeclaration⟩
  let declared' : Declared := ⟨file', declaration'⟩
  have alikeDeclared :
      Declared.Alike ⟨⟨path', text, syntaxTree⟩, declaration⟩ declared' :=
    ⟨alikeFile, congrArg
      (fun declaration => (declaration.identifier.name,
        declaration.parameters)) sameDeclaration.symm⟩
  have isDeclared' : declared' ∈ package'.declared := by
    refine List.mem_flatMap.mpr ⟨file',
      List.mem_append_right _ List.mem_cons_self,
      List.mem_map_of_mem (List.mem_filter.mpr ⟨inTypes', ?_⟩)⟩
    have sameName :
        declaration.identifier.name = declaration'.identifier.name :=
      alikeDeclared.name
    rwa [sameName] at hasName
  have found' := Package.type?_of_mem (Package.ofFiles_nodup loadsFiles')
    isDeclared'
  rw [← alikeDeclared.name, isNamed] at found'
  refine ⟨before, after, package', declared', record', rfl, loads', ?_,
    found', alikeDeclared, sameDeclaration, means⟩
  rw [isPackage]
  exact ⟨rfl, alikeFiles⟩

/-! ## Names that are read back -/

/-- A qualifier writes the references of a type as the file of a declaration does: those to the
package and to the universe bare, the others with a name that the file binds to their package. -/
structure Declared.Qualifies
    (package : Package) (declared : Declared) (qualify : Qualifier)
    (type : GoType) : Prop where
  own : ∀ reference ∈ type.references,
    reference.package = package.path ∨ reference.package = "" →
      qualify reference = none
  foreign : ∀ reference ∈ type.references,
    reference.package ≠ package.path → reference.package ≠ "" →
      ∃ name, qualify reference = some name ∧ IsName name ∧
        declared.file.importPath? name = some reference.package

/-- What the imports of a file have to be for a type of the file to be read back: `unsafe` is
bound to itself where its pointer occurs, and no name is bound to the universe or to the package
itself. -/
structure Declared.ImportsApart
    (package : Package) (declared : Declared) (type : GoType) : Prop where
  bindsUnsafe : .basic .unsafePointer ∈ type.nodes →
    declared.file.importPath? "unsafe" = some "unsafe"
  others : ∀ name path, declared.file.importPath? name = some path →
    path ≠ "" ∧ path ≠ package.path

namespace Scope

variable {scope scope' : Scope} {qualify : Qualifier}

theorem Finds.ofLocal
    {name : String} {arguments : List GoType} {type : GoType}
    (resolves : ∀ identifier span, identifier.name = name →
      (do
        let resolved ←
          scope.resolveLocal identifier arguments.length span
        resolved arguments) = .ok type) :
    scope.Finds none name arguments type := by
  intro owner identifier span unqualified sameName
  cases Option.map_eq_none_iff.mp unqualified
  exact resolves identifier span sameName

theorem Finds.ofImported
    {qualifier name : String} {arguments : List GoType} {type : GoType}
    (resolves : ∀ owner identifier, owner.name = qualifier →
      identifier.name = name →
      (do
        let resolved ←
          scope.resolveImported owner identifier arguments.length
        resolved arguments) = .ok type) :
    scope.Finds (some qualifier) name arguments type := by
  intro owner identifier span qualified sameName
  rcases Option.map_eq_some_iff.mp qualified with ⟨owner, rfl, sameOwner⟩
  exact resolves owner identifier sameOwner sameName

theorem Finds.parameter
    {name : String} (isParameter : scope.isParameter name = true) :
    scope.Finds none name []
      (.named (.reference name scope.package.path)) := by
  refine Finds.ofLocal ?_
  rintro identifier span rfl
  rw [resolveLocal, if_pos isParameter, if_pos List.length_nil]
  rfl

theorem Finds.declared
    {name : String} {declared : Declared} {parameters : List TypeParameter}
    {arguments : List GoType}
    (notParameter : scope.isParameter name = false)
    (found : scope.package.type? name = some declared)
    (arity : arguments.length = declared.declaration.parameters.length)
    (carried : scope.carried declared = .ok parameters) :
    scope.Finds none name arguments
      (.named ⟨declared.name, scope.package.path, none, parameters,
        arguments⟩) := by
  refine Finds.ofLocal ?_
  rintro identifier span rfl
  rw [resolveLocal, notParameter, found]
  dsimp only
  rw [resolveDeclared, if_pos arity.symm]
  show (scope.carried _ >>= _) = _
  rw [carried]
  rfl

theorem Finds.universal
    {name : String} {type : GoType}
    (notParameter : scope.isParameter name = false)
    (undeclared : scope.package.type? name = none)
    (isUniversal : universal? name = some type) :
    scope.Finds none name [] type := by
  refine Finds.ofLocal ?_
  rintro identifier span rfl
  rw [resolveLocal, notParameter, undeclared]
  dsimp only
  rw [isUniversal]
  rfl

theorem Finds.unsafePointer
    {qualifier : String}
    (bound : scope.file.importPath? qualifier = some "unsafe") :
    scope.Finds (some qualifier) "Pointer" [] (.basic .unsafePointer) := by
  refine Finds.ofImported ?_
  rintro owner identifier rfl sameName
  rw [resolveImported, bound]
  dsimp only
  rw [if_pos rfl, if_pos ⟨sameName, rfl⟩]
  rfl

theorem Finds.imported
    {qualifier name path : String} {arguments : List GoType}
    (bound : scope.file.importPath? qualifier = some path)
    (notUnsafe : path ≠ "unsafe")
    (isExported : Name.isExported name = true) :
    scope.Finds (some qualifier) name arguments
      (.named ⟨name, path, none, [], arguments⟩) := by
  refine Finds.ofImported ?_
  rintro owner identifier rfl rfl
  rw [resolveImported, bound]
  dsimp only
  rw [if_neg notUnsafe, if_pos isExported]
  rfl

/-- A basic type of the universe is read back where nothing hides its name. -/
theorem readsBack_basic
    {name : String} {type : BasicType}
    (notParameter : scope.isParameter name = false)
    (undeclared : scope.package.type? name = none)
    (found : BasicType.ofName? name = some type) :
    scope.ReadsBack qualify (.basic type) := by
  obtain rfl : type.name = name := by simpa using List.find?_some found
  have finds : scope.Finds none type.name [] (.basic type) := by
    refine Finds.universal notParameter undeclared ?_
    rw [universal?, found]
  cases type with
  | unsafePointer =>
      exact absurd (List.mem_of_find?_eq_some found) (by decide)
  | _ => exact finds

theorem universal?_predeclared
    {name : String} (notBasic : BasicType.ofName? name = none)
    (found : name ∈ predeclaredNames) :
    universal? name = some (.named (.predeclared name)) := by
  rw [universal?, notBasic, if_pos (List.contains_iff_mem.mpr found)]

/-- A name of a scope without type parameters is read back. -/
theorem Names.readsBack
    {node : GoType} (names : scope.Names node)
    (noParameters : ∀ name, scope.isParameter name = false)
    (own : ∀ reference, node = .named reference →
      reference.package = scope.package.path ∨ reference.package = "" →
        qualify reference = none)
    (foreign : ∀ reference, node = .named reference →
      reference.package ≠ scope.package.path → reference.package ≠ "" →
        ∃ name, qualify reference = some name ∧
          scope.file.importPath? name = some reference.package)
    (bindsUnsafe : node = .basic .unsafePointer →
      scope.file.importPath? "unsafe" = some "unsafe")
    (others : ∀ name path, scope.file.importPath? name = some path →
      path ≠ "" ∧ path ≠ scope.package.path) :
    scope.ReadsBack qualify node := by
  cases names with
  | parameter isParameter =>
      rw [noParameters] at isParameter
      cases isParameter
  | declared notParameter found arity carried =>
      rw [ReadsBack, own _ rfl (.inl rfl)]
      exact .declared notParameter found arity carried
  | basic notParameter undeclared found =>
      exact readsBack_basic notParameter undeclared found
  | predeclared notParameter undeclared notBasic found =>
      rw [ReadsBack, own _ rfl (.inr rfl)]
      exact .universal notParameter undeclared
        (universal?_predeclared notBasic found)
  | unsafePointer bound =>
      rw [ReadsBack]
      exact .unsafePointer (bindsUnsafe rfl)
  | imported bound notUnsafe isExported =>
      rcases others _ _ bound with ⟨notUniverse, notOwn⟩
      rcases foreign _ rfl notOwn notUniverse with
        ⟨name, qualified, bound'⟩
      rw [ReadsBack, qualified]
      exact .imported bound' notUnsafe isExported

/-- What is read back in a scope is so in one that agrees with it. -/
theorem Agrees.readsBack
    (agrees : scope.Agrees scope') {node : GoType}
    (readsBack : scope.ReadsBack qualify node) :
    scope'.ReadsBack qualify node := by
  refine readsBack.mono ?_
  intro qualifier name arguments type found owner identifier span
    qualified sameName
  exact (sameResult_resolve agrees rfl rfl arguments.length span span
    arguments).eq_ok (found owner identifier span qualified sameName)

end Scope

/-! ## Expanding a struct -/

section Expansion

variable {package : Package} {declared : Declared} {name : String}
  {root : NamedType} {span : Span} {fields : List FieldExpr}

/-- The structure of a declared struct is that of its fields. -/
theorem Package.underlying_record
    (isRecord : declared.declaration.type = .record span fields)
    (steps : Nat) :
    package.underlying steps declared = do
      return .record
        (← (Scope.ofDeclared package declared).rootFields 0 fields) := by
  unfold Package.underlying
  simp only [isRecord]

/-- A declared struct without type parameters denotes its fields. -/
theorem Package.expand_record
    (found : package.type? name = some declared)
    (plain : declared.declaration.parameters = [])
    (isRecord : declared.declaration.type = .record span fields) :
    package.expand name = .ok root ↔
      ∃ list,
        denoteFields (Scope.ofDeclared package declared) fields =
            .ok list ∧
          root = ⟨name, package.path, some (.record list), [], []⟩ := by
  rw [Package.expand, found]
  dsimp only
  rw [plain, denoteParameters, List.mapM_nil, underlying_record isRecord]
  constructor
  · intro succeeds
    rcases bind_eq_ok succeeds with ⟨_, yields, succeeds⟩
    cases yields
    rcases bind_eq_ok succeeds with ⟨type, follows, succeeds⟩
    rcases bind_eq_ok follows with ⟨list, denotes, yields⟩
    cases yields
    cases succeeds
    exact ⟨list, rootFields_eq_ok.mp denotes, rfl⟩
  · rintro ⟨list, denotes, rfl⟩
    rw [rootFields_eq_ok.mpr denotes]
    rfl

theorem TypeExpr.denote_record {scope : Scope} {list : List Field} :
    (TypeExpr.record span fields).denote scope = .ok (.record list) ↔
      denoteFields scope fields = .ok list := by
  rw [TypeExpr.denote]
  constructor
  · intro succeeds
    rcases bind_eq_ok succeeds with ⟨_, denotes, yields⟩
    cases yields
    exact denotes
  · intro denotes
    rw [denotes]
    rfl

/-- An expression that is a struct apart from places is one. -/
theorem TypeExpr.exists_record
    {expression : TypeExpr}
    (same : expression.unplaced = (TypeExpr.record span fields).unplaced) :
    ∃ span' fields', expression = .record span' fields' := by
  cases expression with
  | record span' fields' => exact ⟨span', fields', rfl⟩
  | _ => simp [TypeExpr.unplaced] at same

end Expansion

/-! ## Reloading -/

theorem Declared.Qualifies.qualifiesBy
    {package : Package} {declared : Declared} {qualify : Qualifier}
    {type : GoType} (qualifies : declared.Qualifies package qualify type) :
    QualifiesBy qualify type.nodes := by
  intro reference isNode name qualified
  have isReference := mem_references.mpr isNode
  by_cases isOwn : reference.package = package.path
  · rw [qualifies.own reference isReference (.inl isOwn)] at qualified
    cases qualified
  · by_cases isUniverse : reference.package = ""
    · rw [qualifies.own reference isReference (.inr isUniverse)]
        at qualified
      cases qualified
    · rcases qualifies.foreign reference isReference isOwn isUniverse with
        ⟨other, qualified', isName, -⟩
      cases qualified'.symm.trans qualified
      exact isName

/-- The spelling of a well-formed struct forms a struct that denotes it. -/
theorem WellFormed.forms_struct
    {qualify : Qualifier} {list : List Field}
    (wellFormed : WellFormed false .plain (.record list))
    (qualifies : QualifiesBy qualify (GoType.record list).nodes) :
    ∀ source offset pending rest, ∃ tokens,
      Scans rest offset pending
          ((GoType.record list).spell qualify).toList tokens true ∧
        ∃ record', FormsRecord source tokens record' ∧
          ∃ span' fields', record' = .record span' fields' ∧
            ∀ scope : Scope,
              scope.ReadsAll qualify (GoType.record list).nodes →
                denoteFields scope fields' = .ok list := by
  intro source offset pending rest
  cases wellFormed with
  | record names inner embedded =>
      have innerForms (field : Field) (isIn : field ∈ list) :
          FormsType qualify field.type := by
        refine ((inner field isIn).spelledBack
          (qualifies.subset ?_)).plain rfl
        rw [GoType.nodes]
        exact List.Subset.trans (nodes_subset_fieldNodes isIn)
          (List.subset_cons_self _ _)
      rcases (forms_fields names innerForms embedded source).scans offset
        pending rest with
        ⟨tokens, scans, span', fields', isStruct, reads, denotes⟩
      refine ⟨tokens, scans, _, ⟨isStruct, reads⟩, span', fields', rfl, ?_⟩
      intro scope readsAll
      rw [GoType.nodes, Scope.readsAll_cons] at readsAll
      exact denotes scope readsAll.2

/-- All names of a type that a declaration without type parameters denotes are read back. -/
theorem Declared.Qualifies.readsAll
    {package : Package} {declared : Declared} {qualify : Qualifier}
    {type : GoType} (qualifies : declared.Qualifies package qualify type)
    (apart : declared.ImportsApart package type)
    (plain : declared.declaration.parameters = [])
    (namesAll :
      (Scope.ofDeclared package declared).NamesAll type.nodes) :
    (Scope.ofDeclared package declared).ReadsAll qualify type.nodes := by
  intro node isNode
  cases named : node.ownName? with
  | none =>
      cases node with
      | basic basic => cases basic <;> cases named
      | named => cases named
      | _ => trivial
  | some name =>
      refine (namesAll node isNode (by rw [named]; rfl)).readsBack ?_ ?_ ?_
        ?_ apart.others
      · intro name
        rw [Scope.isParameter]
        show declared.declaration.parameters.any _ = false
        rw [plain]
        rfl
      · rintro reference rfl
        exact qualifies.own reference (mem_references.mpr isNode)
      · rintro reference rfl notOwn notUniverse
        rcases qualifies.foreign reference (mem_references.mpr isNode)
          notOwn notUniverse with ⟨name, qualified, -, bound⟩
        exact ⟨name, qualified, bound⟩
      · rintro rfl
        exact apart.bindsUnsafe isNode

/--
A struct that a package declares without type parameters may be replaced by the
spelling of what it denotes: the package is loaded again, and the declaration
denotes the same as before.
-/
theorem Package.expand_reloaded
    {directory path name : String} {texts : List (String × List Char)}
    {package : Package} {declared : Declared} {root : NamedType}
    {type : GoType} {span : Span} {fields : List FieldExpr}
    {qualify : Qualifier}
    (loads : Package.ofTexts directory path texts = .ok package)
    (found : package.type? name = some declared)
    (plain : declared.declaration.parameters = [])
    (isRecord : declared.declaration.type = .record span fields)
    (expands : package.expand name = .ok root)
    (structured : root.underlying = some type)
    (qualifies : declared.Qualifies package qualify type)
    (apart : declared.ImportsApart package type) :
    ∃ before after package',
      texts =
          before ++ (declared.file.path, declared.file.text) :: after ∧
        Package.ofTexts directory path
            (before ++ (declared.file.path,
              span.replace (type.spell qualify).toList
                declared.file.text) :: after) =
          .ok package' ∧
        package'.expand name = .ok root := by
  rcases (expand_record found plain isRecord).mp expands with
    ⟨list, denotes, rfl⟩
  cases structured
  have denotesType :
      declared.declaration.type.denote (Scope.ofDeclared package declared) =
        .ok (.record list) := by
    rw [isRecord]
    exact TypeExpr.denote_record.mpr denotes
  have wellFormed : WellFormed false .plain (.record list) := by
    have follows :
        package.underlying package.typeCount declared =
          .ok (.record list) := by
      rw [underlying_record isRecord, rootFields_eq_ok.mpr denotes]
      rfl
    exact underlying_wellFormed (ofTexts_occurs loads)
      (List.mem_of_find?_eq_some found) follows
  have namesAll := TypeExpr.denote_namesAll _ denotesType
  have readsAll := qualifies.readsAll apart plain namesAll
  have opens :
      ∃ more, ((GoType.record list).spell qualify).toList =
        Keyword.struct.spelling.toList ++ more := by
    rw [GoType.spell, Spelling.braced]
    split
    · exact ⟨_, String.toList_append⟩
    · rw [String.append_assoc, String.append_assoc]
      exact ⟨_, String.toList_append⟩
  rcases ofTexts_redeclared loads found isRecord opens
    (wellFormed.forms_struct qualifies.qualifiesBy) with
    ⟨before, after, package', declared', record', split, loads', alike,
      found', alikeDeclared, same, span', fields', rfl, denotes'⟩
  have sameType :
      declared'.declaration.type.unplaced =
        (TypeExpr.record span' fields').unplaced :=
    congrArg TypeDeclaration.type same
  rcases TypeExpr.exists_record sameType with ⟨_, _, isRecord'⟩
  have plain' : declared'.declaration.parameters = [] := by
    have none := alikeDeclared.parameters
    rw [plain] at none
    exact List.map_eq_nil_iff.mp none.symm
  refine ⟨before, after, package', split, loads',
    (expand_record found' plain' isRecord').mpr ⟨list, ?_, ?_⟩⟩
  · have agrees := ofDeclared_agrees alike alikeDeclared
    have again := denotes' (Scope.ofDeclared package' declared')
      fun node isNode => agrees.readsBack (readsAll node isNode)
    have sameResult := TypeExpr.denote_of_unplaced
      (.refl (Scope.ofDeclared package' declared')) sameType
    rw [isRecord'] at sameResult
    exact TypeExpr.denote_record.mp
      (sameResult.symm.eq_ok (TypeExpr.denote_record.mpr again))
  · rw [alike.path]

/-- A struct with an embedded imported type, an applied generic type, a channel of channels and a
variadic function is read back with its package under another name. -/
theorem Package.expand_reloaded_box :
    let text := ("package boxes\n" ++
      "import sh \"example/shapes\"\nimport \"unsafe\"\n" ++
      "type Key string\ntype Pair[A any] struct \x7b a A \x7d\n" ++
      "type Box struct \x7b\n\tkey Key \"json\"\n\t*sh.Shape\n" ++
      "\tpair Pair[int]\n\tnext chan (<-chan error)\n" ++
      "\traw unsafe.Pointer\n" ++
      "\tvisit func(a, b int, rest ...string) (ok bool)\n\x7d\n").toList
    let qualify : Qualifier := fun reference =>
      if reference.package = "example/shapes" then some "sh" else none
    ∃ package declared root type package',
      Package.ofTexts "boxes" "example/boxes" [("box.go", text)] =
          .ok package ∧
        package.type? "Box" = some declared ∧
        declared.declaration.parameters = [] ∧
        package.expand "Box" = .ok root ∧
        root.underlying = some type ∧
        declared.Qualifies package qualify type ∧
        declared.ImportsApart package type ∧
        Package.ofTexts "boxes" "example/boxes"
            [("box.go", declared.declaration.type.span.replace
              (type.spell qualify).toList text)] = .ok package' ∧
        package'.expand "Box" = .ok root := by
  intro text qualify
  generalize shape :
    Package.ofTexts "boxes" "example/boxes" [("box.go", text)] = result
  have seen :
      (result.toOption.bind fun package =>
        (package.type? "Box").bind fun declared =>
          (package.expand "Box").toOption.map fun root => decide <|
            (declared.declaration.type matches .record ..) = true ∧
            declared.declaration.parameters.isEmpty = true ∧
            root.underlying.map (fun type =>
                type.references.map fun reference =>
                  (reference.name, reference.package)) =
              some [("Key", "example/boxes"), ("Shape", "example/shapes"),
                ("Pair", "example/boxes"), ("error", "")] ∧
            declared.file.syntaxTree.imports.map (·.path) =
              ["example/shapes", "unsafe"] ∧
            declared.file.importPath? "sh" = some "example/shapes" ∧
            declared.file.importPath? "unsafe" = some "unsafe" ∧
            package.path = "example/boxes") =
        some true := by
    rw [← shape]
    decide +kernel
  rcases exists_expanded seen with
    ⟨package, declared, root, rfl, found, expands, seen⟩
  rcases of_decide_eq_true seen with
    ⟨isRecord, isPlain, references, imports, bindsShapes, bindsUnsafe,
      path⟩
  have plain := List.isEmpty_iff.mp isPlain
  rcases Option.map_eq_some_iff.mp references with
    ⟨type, structured, references⟩
  have isOneOf (reference : NamedType)
      (isReference : reference ∈ type.references) :
      reference.package = "example/boxes" ∨
        reference.package = "example/shapes" ∨
          reference.package = "" := by
    have isIn := List.mem_map_of_mem
      (f := fun reference => (reference.name, reference.package))
      isReference
    rw [references] at isIn
    simp only [List.mem_cons, Prod.mk.injEq, List.not_mem_nil,
      or_false] at isIn
    rcases isIn with isIn | isIn | isIn | isIn
    all_goals simp [isIn.2]
  have qualifies : declared.Qualifies package qualify type := by
    constructor
    · intro reference _ isOwn
      rw [path] at isOwn
      rcases isOwn with isOwn | isUniverse
      · simp [qualify, isOwn]
      · simp [qualify, isUniverse]
    · intro reference isReference notOwn notUniverse
      rw [path] at notOwn
      rcases isOneOf reference isReference with isOwn | isShapes | none
      · exact absurd isOwn notOwn
      · refine ⟨"sh", by simp [qualify, isShapes], by decide, ?_⟩
        rw [bindsShapes, isShapes]
      · exact absurd none notUniverse
  have apart : declared.ImportsApart package type := by
    refine ⟨fun _ => bindsUnsafe, ?_⟩
    intro name imported bound
    have isIn := PackageFile.path_of_importPath? bound
    rw [imports] at isIn
    rw [path]
    rcases List.mem_pair.mp isIn with rfl | rfl
    all_goals decide
  cases isType : declared.declaration.type with
  | record span fields =>
      rcases Package.expand_reloaded shape found plain isType expands
          structured qualifies apart with
        ⟨before, after, package', split, loads', expands'⟩
      rcases List.singleton_eq_append_iff.mp split with
        ⟨rfl, only⟩ | ⟨-, none⟩
      · simp only [List.cons.injEq, Prod.mk.injEq] at only
        rcases only with ⟨⟨isPath, isText⟩, rfl⟩
        rw [isPath, isText] at loads'
        refine ⟨package, declared, root, type, package', rfl, found, plain,
          expands, structured, qualifies, apart, ?_, expands'⟩
        rw [isType]
        exact loads'
      · cases none
  | _ =>
      rw [isType] at isRecord
      cases isRecord

end GoUnion
