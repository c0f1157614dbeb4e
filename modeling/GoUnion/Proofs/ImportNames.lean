import GoUnion.Proofs.Regeneration
import Mathlib.Data.Set.Finite.List
import Mathlib.Order.WellFoundedSet

/-!
# Local names of imports

The local name of an import is guessed from its path, and it gets a number where
the guess is taken.  The guess is an identifier whatever the path is, and so is
the numbered name.

A guess is taken if it is written bare or if it is the local name of another
path.  The names that the generated file declares, the predeclared names that it
mentions by itself and the blank are not taken.  The import of a path hides such
a name, or does not bind anything, exactly if the path gives the name: all the
candidates before it are taken.
-/

namespace GoUnion

/-! ## Identifiers -/

namespace Name

/-- Whether a text starts and continues like a name. -/
def isWord : List Char → Bool
  | [] => false
  | c :: tail => startsName c && tail.all continuesName

theorem isWord_cons {c : Char} {tail : List Char} :
    isWord (c :: tail) = true ↔
      startsName c = true ∧ ∀ d ∈ tail, continuesName d = true := by
  rw [isWord, Bool.and_eq_true, List.all_eq_true]

/-- An identifier is a word that is not reserved. -/
theorem isIdentifier_iff {name : String} :
    isIdentifier name = true ↔
      isWord name.toList = true ∧ Keyword.ofString? name = none := by
  have notReserved :
      (!isKeyword name) = true ↔ Keyword.ofString? name = none := by
    rw [isKeyword, Bool.not_eq_true', Option.isSome_eq_false_iff,
      Option.isNone_iff_eq_none]
  rw [isIdentifier]
  cases name.toList with
  | nil => simp [isWord]
  | cons c tail =>
      dsimp only [isWord]
      rw [Bool.and_eq_true, notReserved]

/-- A word with something behind it that continues it and has no small letters. -/
theorem isIdentifier_append
    {front back : String} (isFront : isWord front.toList = true)
    (continues : ∀ c ∈ back.toList,
      continuesName c = true ∧ c.isLower = false)
    (notEmpty : back.toList ≠ []) :
    isIdentifier (front ++ back) = true := by
  rcases List.exists_mem_of_ne_nil _ notEmpty with ⟨c, isIn⟩
  have isLast : c ∈ (front ++ back).toList := by
    rw [String.toList_append]
    exact List.mem_append_right _ isIn
  refine isIdentifier_iff.mpr
    ⟨?_, ofString?_of_not_isLower isLast (continues c isIn).2⟩
  rw [String.toList_append]
  cases shape : front.toList with
  | nil =>
      rw [shape] at isFront
      cases isFront
  | cons d tail =>
      rw [shape] at isFront
      rcases isWord_cons.mp isFront with ⟨starts, others⟩
      refine isWord_cons.mpr ⟨starts, ?_⟩
      intro e isTail
      rcases List.mem_append.mp isTail with inFront | inBack
      · exact others e inFront
      · exact (continues e inBack).1

/-- A word with an underscore behind it if it is reserved. -/
theorem isIdentifier_unreserved
    {text : List Char} (word : isWord text = true) :
    isIdentifier (if isKeyword (String.ofList text) then
      String.ofList text ++ "_" else String.ofList text) = true := by
  rw [← String.toList_ofList (l := text)] at word
  split
  case isTrue =>
    exact isIdentifier_append word
      (List.forall_iff_forall_mem.mp (by decide)) (by decide)
  case isFalse notReserved =>
    rw [isKeyword, Bool.not_eq_true, Option.isSome_eq_false_iff,
      Option.isNone_iff_eq_none] at notReserved
    exact isIdentifier_iff.mpr ⟨word, notReserved⟩

/-- Any text is made an identifier. -/
theorem isIdentifier_ofStem (text : List Char) :
    isIdentifier (ofStem text) = true := by
  have continues :
      ∀ c ∈ text.map fun c => if continuesName c then c else '_',
        continuesName c = true := by
    intro c isIn
    rcases List.mem_map.mp isIn with ⟨d, -, rfl⟩
    split
    case isTrue continues => exact continues
    case isFalse => decide
  rw [ofStem]
  generalize text.map _ = letters at continues
  cases letters with
  | nil =>
      have word : isWord ['_'] = true := by decide
      exact isIdentifier_unreserved word
  | cons c letters =>
      rcases List.forall_mem_cons.mp continues with ⟨first, others⟩
      dsimp only
      split
      case isTrue =>
        exact isIdentifier_unreserved
          (isWord_cons.mpr ⟨by decide, continues⟩)
      case isFalse noDigit =>
        -- What continues a name and is no digit starts one.
        rw [continuesName, Text.isAlphanumeric,
          Bool.eq_false_iff.mpr noDigit, Bool.or_false] at first
        exact isIdentifier_unreserved (isWord_cons.mpr ⟨first, others⟩)

/-- The guess for any path is an identifier, with a number behind it or not. -/
theorem isIdentifier_numbered (path : String) (index : Nat) :
    isIdentifier (numbered (ofImportPath path) index) = true := by
  have isBase : isIdentifier (ofImportPath path) = true :=
    isIdentifier_ofStem _
  cases index with
  | zero => exact isBase
  | succ index =>
      have digits : ∀ c ∈ Literal.decimals,
          continuesName c = true ∧ c.isLower = false :=
        List.forall_iff_forall_mem.mp (by decide)
      have shape : (toString (index + 2)).toList =
          Nat.toDigits 10 (index + 2) := by
        rw [Nat.toString_eq_repr, Nat.toList_repr]
      refine isIdentifier_append (isIdentifier_iff.mp isBase).1 ?_ ?_
      · rw [shape]
        exact fun c isIn =>
          digits c (Literal.mem_decimals_of_toDigits c isIn)
      · rw [shape]
        exact Nat.toDigits_ne_nil

end Name

/-! ## Names that paths give -/

namespace ImportPlan

/-- The names that are taken from the start: those that are written bare, and that of package
`unsafe` where it is imported. -/
def kept (bare paths : List String) : List String :=
  if paths.contains unsafePath then unsafePath :: bare else bare

/-- A path gives a name if that is a candidate for it that is not taken from the start, and every
candidate before it is taken from the start or given by a path before it. -/
inductive Gives (bare paths : List String) : String → String → Prop
  | candidate {path : String} {index : Nat} (giver : Nat → String)
      (isPath : path ∈ paths) (notUnsafe : path ≠ unsafePath)
      (isFree :
        numbered (Name.ofImportPath path) index ∉ kept bare paths)
      (isBefore : ∀ earlier < index,
        numbered (Name.ofImportPath path) earlier ∉ kept bare paths →
          giver earlier < path)
      (given : ∀ earlier < index,
        numbered (Name.ofImportPath path) earlier ∉ kept bare paths →
          Gives bare paths (giver earlier)
            (numbered (Name.ofImportPath path) earlier)) :
      Gives bare paths path (numbered (Name.ofImportPath path) index)

/-- A name is reached if it is that of package `unsafe`, which is imported, or if a path gives
it. -/
def Reaches (bare paths : List String) (name : String) : Prop :=
  (name = unsafePath ∧ unsafePath ∈ paths) ∨
    ∃ path, Gives bare paths path name

/-- The candidates that a path passes over are taken at the start or by paths before it. -/
theorem nameAll_passes
    {taken paths : List String} (ascending : paths.Pairwise (· < ·))
    {path name : String} (isIn : (path, name) ∈ nameAll taken paths)
    (notUnsafe : path ≠ unsafePath) :
    ∃ index,
      name = numbered (Name.ofImportPath path) index ∧
        ∀ earlier < index,
          numbered (Name.ofImportPath path) earlier ∈ taken ∨
            ∃ other, other < path ∧
              (other, numbered (Name.ofImportPath path) earlier) ∈
                nameAll taken paths := by
  induction paths generalizing taken with
  | nil => cases isIn
  | cons first paths ih =>
      rcases List.pairwise_cons.mp ascending with ⟨below, ascending⟩
      rw [nameAll] at isIn ⊢
      split
      case isTrue isUnsafe =>
        rw [if_pos isUnsafe] at isIn
        rcases List.mem_cons.mp isIn with same | later
        · cases same
          exact absurd isUnsafe notUnsafe
        · rcases ih ascending later with ⟨index, same, passed⟩
          refine ⟨index, same, fun earlier before => ?_⟩
          rcases passed earlier before with isTaken | ⟨other, less, named⟩
          · exact .inl isTaken
          · exact .inr ⟨other, less, List.mem_cons_of_mem _ named⟩
      case isFalse isOther =>
        rw [if_neg isOther] at isIn
        rcases List.mem_cons.mp isIn with same | later
        · cases same
          exact ⟨_, rfl, fun earlier before =>
            .inl (mem_of_lt_firstFree (Nat.zero_le _) before)⟩
        · have isPath : path ∈ paths := by
            rw [← nameAll_paths _ paths]
            exact List.mem_map_of_mem later
          rcases ih ascending later with ⟨index, same, passed⟩
          refine ⟨index, same, fun earlier before => ?_⟩
          rcases passed earlier before with isTaken | ⟨other, less, named⟩
          · rcases List.mem_cons.mp isTaken with isFirst | isTaken
            · exact .inr ⟨first, below path isPath,
                List.mem_cons.mpr (.inl (by rw [isFirst]))⟩
            · exact .inl isTaken
          · exact .inr ⟨other, less, List.mem_cons_of_mem _ named⟩

section Kept

variable {bare paths : List String} (ascending : paths.Pairwise (· < ·))

/-- The local names of some paths, of which the bare ones are none. -/
abbrev localNames (bare paths : List String) : List (String × String) :=
  nameAll (kept bare paths) paths

theorem mem_paths_of_mem_localNames
    {path name : String} (isIn : (path, name) ∈ localNames bare paths) :
    path ∈ paths := by
  rw [← nameAll_paths (kept bare paths) paths]
  exact List.mem_map_of_mem isIn

theorem exists_localName
    (bare : List String) {path : String} (isPath : path ∈ paths) :
    ∃ name, (path, name) ∈ localNames bare paths := by
  rcases lookup_nameAll isPath with ⟨name, -, isIn⟩
  exact ⟨name, isIn⟩

/-- A local name is not taken from the start, unless it is that of package `unsafe`. -/
theorem free_of_mem_localNames
    {path name : String} (isIn : (path, name) ∈ localNames bare paths)
    (notUnsafe : path ≠ unsafePath) :
    name ∉ kept bare paths := by
  rcases nameAll_cases isIn with ⟨isUnsafe, -⟩ | ⟨-, isFree⟩
  · exact absurd isUnsafe notUnsafe
  · exact isFree

/-- A local name that is not taken from the start is not that of package `unsafe`. -/
theorem notUnsafe_of_mem_localNames
    {path name : String} (isIn : (path, name) ∈ localNames bare paths)
    (isFree : name ∉ kept bare paths) :
    path ≠ unsafePath := by
  intro isUnsafe
  have isPath := mem_paths_of_mem_localNames isIn
  rcases nameAll_cases isIn with ⟨-, keeps⟩ | ⟨notUnsafe, -⟩
  · rw [isUnsafe] at isPath
    rw [kept, if_pos (List.contains_iff_mem.mpr isPath), keeps] at isFree
    exact isFree List.mem_cons_self
  · exact notUnsafe isUnsafe

include ascending

/-- A local name is a numbered guess. -/
theorem numbered_of_mem_localNames
    {path name : String} (isIn : (path, name) ∈ localNames bare paths) :
    ∃ index, name = numbered (Name.ofImportPath path) index := by
  rcases nameAll_cases isIn with ⟨rfl, rfl⟩ | ⟨notUnsafe, -⟩
  · exact ⟨0, by decide +kernel⟩
  · rcases nameAll_passes ascending isIn notUnsafe with ⟨index, same, -⟩
    exact ⟨index, same⟩

/-- A path gives its local name.  The paths before it do so, of which there are finitely many. -/
theorem gives_of_mem_localNames
    {path name : String} (isIn : (path, name) ∈ localNames bare paths)
    (notUnsafe : path ≠ unsafePath) :
    Gives bare paths path name := by
  have wellFounded :
      Set.WellFoundedOn {path | path ∈ paths} (· < ·) :=
    (List.finite_toSet paths).wellFoundedOn
  refine wellFounded.induction
    (P := fun path => ∀ name, (path, name) ∈ localNames bare paths →
      path ≠ unsafePath → Gives bare paths path name)
    (mem_paths_of_mem_localNames isIn) ?_ name isIn notUnsafe
  intro path isPath before name isIn notUnsafe
  rcases nameAll_passes ascending isIn notUnsafe with ⟨index, rfl, passed⟩
  have byOther (earlier : Nat) (less : earlier < index)
      (notKept : numbered (Name.ofImportPath path) earlier ∉
        kept bare paths) :=
    (passed earlier less).resolve_left notKept
  choose! giver isBefore named using byOther
  refine .candidate giver isPath notUnsafe
    (free_of_mem_localNames isIn notUnsafe) isBefore ?_
  intro earlier less notKept
  have isNamed := named earlier less notKept
  exact before (giver earlier) (mem_paths_of_mem_localNames isNamed)
    (isBefore earlier less notKept) _ isNamed
    (notUnsafe_of_mem_localNames isNamed notKept)

/-- A name that a path gives is the local name of it, or of a path before it. -/
theorem Gives.mem_localNames
    {path name : String} (gives : Gives bare paths path name) :
    ∃ other, other ≤ path ∧ (other, name) ∈ localNames bare paths := by
  induction gives with
  | @candidate path index giver isPath notUnsafe isFree isBefore given ih =>
      rcases exists_localName bare isPath with ⟨name, isIn⟩
      rcases nameAll_passes ascending isIn notUnsafe with
        ⟨chosen, rfl, passed⟩
      -- What one of two candidates passes over cannot be the other one.
      rcases Nat.lt_trichotomy chosen index with less | rfl | more
      · have notKept := free_of_mem_localNames isIn notUnsafe
        rcases ih chosen less notKept with ⟨other, le, named⟩
        have distinct : ((localNames bare paths).map (·.2)).Nodup := by
          refine nameAll_nodup (ascending.imp ne_of_lt) fun isIn => ?_
          rw [kept, if_pos (List.contains_iff_mem.mpr isIn)]
          exact List.mem_cons_self
        have same : other = path := congrArg Prod.fst
          (List.inj_on_of_nodup_map distinct named isIn rfl)
        have isBelow := isBefore chosen less notKept
        exact absurd (same ▸ le) (not_le_of_gt isBelow)
      · exact ⟨path, le_refl path, isIn⟩
      · rcases passed index more with isKept | ⟨other, isBelow, named⟩
        · exact absurd isKept isFree
        · exact ⟨other, le_of_lt isBelow, named⟩

/-- The local names are the names that are reached. -/
theorem mem_localNames {name : String} :
    name ∈ (localNames bare paths).map (·.2) ↔
      Reaches bare paths name := by
  constructor
  · intro isLocal
    rcases List.mem_map.mp isLocal with ⟨⟨path, name⟩, isIn, rfl⟩
    rcases nameAll_cases isIn with ⟨isUnsafe, keeps⟩ | ⟨notUnsafe, -⟩
    · exact .inl ⟨keeps, isUnsafe ▸ mem_paths_of_mem_localNames isIn⟩
    · exact .inr ⟨path, gives_of_mem_localNames ascending isIn notUnsafe⟩
  · rintro (⟨rfl, isPath⟩ | ⟨path, gives⟩)
    · rcases exists_localName bare isPath with ⟨name, isIn⟩
      rcases nameAll_cases isIn with ⟨-, keeps⟩ | ⟨notUnsafe, -⟩
      · exact List.mem_map.mpr ⟨_, isIn, keeps⟩
      · exact absurd rfl notUnsafe
    · rcases gives.mem_localNames ascending with ⟨other, -, named⟩
      exact List.mem_map_of_mem named

end Kept

end ImportPlan

/-! ## Names of the generated file -/

namespace UnionSource

/-- The predeclared names that a generated file may mention by itself. -/
def mentioned : List String :=
  ["int", "string", "bool", "any", "iota", "nil", "true", "false"]

/-- The names that a generated file declares or mentions whatever its variants are spelled like. -/
def fixedNames (source : UnionSource) : List String :=
  source.declaredNames ++
    source.descriptor.variants.map source.constructorName ++ mentioned

end UnionSource

/--
The local name of every import of a generated file is an identifier.  None is
the blank or a name that the file declares or mentions by itself, exactly if no
such name is reached.
-/
theorem NamedType.generate_importNames
    {type : NamedType} {config : OutputConfig} {text : String}
    (generates : type.generate config = .ok text) :
    ∃ descriptor source,
      UnionDescriptor.ofNamed type = .ok descriptor ∧
        descriptor.source config = .ok source ∧ source.text = text ∧
        (∀ name ∈ source.imports.names.map (·.2),
          Name.isIdentifier name = true) ∧
        ((∀ name ∈ source.imports.names.map (·.2),
            name ≠ "_" ∧ name ∉ source.fixedNames) ↔
          ∀ name ∈ "_" :: source.fixedNames,
            ¬ ImportPlan.Reaches
              (descriptor.bare (descriptor.destination config))
              (descriptor.paths (descriptor.destination config)) name) := by
  rcases generate_eq_ok generates with
    ⟨descriptor, source, describes, made, written⟩
  refine ⟨descriptor, source, describes, made, written, ?_⟩
  rcases UnionDescriptor.source_eq_ok made with
    ⟨imports, -, collects, isSource⟩
  have areLocal : source.imports.names =
      ImportPlan.localNames
        (descriptor.bare (descriptor.destination config))
        (descriptor.paths (descriptor.destination config)) := by
    rw [isSource, ImportPlan.eq_planned collects]
    rfl
  have ascending :
      (descriptor.paths (descriptor.destination config)).Pairwise (· < ·) :=
    ascending_ordered _
  rw [areLocal]
  constructor
  · intro name isLocal
    rcases List.mem_map.mp isLocal with ⟨⟨path, name⟩, isIn, rfl⟩
    rcases ImportPlan.numbered_of_mem_localNames ascending isIn with
      ⟨index, rfl⟩
    exact Name.isIdentifier_numbered path index
  · constructor
    · intro apart name isFixed reached
      have different := apart name
        ((ImportPlan.mem_localNames ascending).mpr reached)
      rcases List.mem_cons.mp isFixed with isBlank | isFixed
      · exact different.1 isBlank
      · exact different.2 isFixed
    · intro unreached name isLocal
      have reached := (ImportPlan.mem_localNames ascending).mp isLocal
      exact ⟨fun isBlank =>
          unreached name (isBlank ▸ List.mem_cons_self) reached,
        fun isFixed =>
          unreached name (List.mem_cons_of_mem _ isFixed) reached⟩

/-- A guess that is written bare, a guess that another path has, and a reserved word. -/
theorem NamedType.generate_importNames_guesses :
    let descriptor : UnionDescriptor :=
      ⟨"D", "example/d", [],
        [⟨"a", .named (.reference "T" "a/yaml.v3"), none, false⟩,
          ⟨"b", .named (.reference "T" "b/go-yaml/v2"), none, false⟩,
          ⟨"c", .named (.reference "T" "c/type"), none, false⟩,
          ⟨"d", .named (.reference "T" "d/int"), none, false⟩,
          ⟨"e", .basic .int, none, false⟩]⟩
    let type : NamedType :=
      ⟨"D", "example/d", some (.record descriptor.variants), [], []⟩
    let config : OutputConfig :=
      ⟨"U", "u.go", "d", none, none, .standard⟩
    ∃ source : UnionSource,
      type.generate config = .ok source.text ∧
        source.imports.names.map (·.2) =
          ["yaml", "yaml2", "type_", "int2"] ∧
        (∀ name ∈ ["yaml", "yaml2", "type_", "int2"],
          Name.isIdentifier name = true) ∧
        ∀ name ∈ "_" :: source.fixedNames,
          ¬ ImportPlan.Reaches (descriptor.bare "example/d")
            (descriptor.paths "example/d") name := by
  intro descriptor type config
  have seen :
      (descriptor.source config).toOption.map
        (fun source =>
          (source.imports.names.map (·.2),
            decide (∀ name ∈ ["yaml", "yaml2", "type_", "int2"],
              name ∉ source.fixedNames))) =
        some (["yaml", "yaml2", "type_", "int2"], true) := by
    decide +kernel
  rcases exists_generated type rfl seen with
    ⟨source, made, generates, seen⟩
  simp only [Prod.mk.injEq, decide_eq_true_eq] at seen
  rcases seen with ⟨locals, apart⟩
  rcases generate_importNames generates with
    ⟨descriptor, source', describes, made', -, identifiers, reached⟩
  cases describes
  cases made.symm.trans made'
  rw [locals] at identifiers reached
  have noBlank : ∀ name ∈ ["yaml", "yaml2", "type_", "int2"],
      name ≠ "_" := by
    decide
  exact ⟨source, generates, locals, identifiers,
    reached.mp fun name isIn => ⟨noBlank name isIn, apart name isIn⟩⟩

/-- Three packages whose local names are the blank, the name of the union and a predeclared name
that the union is declared with. -/
theorem NamedType.generate_importNames_fixed :
    let type : NamedType :=
      ⟨"D", "example/d", some (.record
        [⟨"a", .named (.reference "T" "example/!"), none, false⟩,
          ⟨"b", .named (.reference "T" "example/U"), none, false⟩,
          ⟨"c", .named (.reference "T" "example/int"), none, false⟩]),
        [], []⟩
    let config : OutputConfig :=
      ⟨"U", "u.go", "d", none, none, .standard⟩
    ∃ source : UnionSource,
      type.generate config = .ok source.text ∧
        source.imports.names =
          [("example/!", "_"), ("example/U", "U"),
            ("example/int", "int")] ∧
        "type UVariant int" ∈ source.lines ∧
        ¬ ∀ name ∈ source.imports.names.map (·.2),
          name ≠ "_" ∧ name ∉ source.fixedNames := by
  intro type config
  have seen :
      ((⟨"D", "example/d", [],
          [⟨"a", .named (.reference "T" "example/!"), none, false⟩,
            ⟨"b", .named (.reference "T" "example/U"), none, false⟩,
            ⟨"c", .named (.reference "T" "example/int"), none, false⟩]⟩ :
          UnionDescriptor).source config).toOption.map
        (fun source =>
          (source.imports.names,
            decide ("type UVariant int" ∈ source.lines ∧
              "U" ∈ source.fixedNames))) =
        some ([("example/!", "_"), ("example/U", "U"),
          ("example/int", "int")], true) := by
    decide +kernel
  rcases exists_generated type rfl seen with
    ⟨source, -, generates, seen⟩
  simp only [Prod.mk.injEq, decide_eq_true_eq] at seen
  rcases seen with ⟨names, isLine, isFixed⟩
  refine ⟨source, generates, names, isLine, ?_⟩
  intro apart
  have isLocal : "U" ∈ source.imports.names.map (·.2) :=
    names ▸ by decide
  exact (apart "U" isLocal).2 isFixed

end GoUnion
