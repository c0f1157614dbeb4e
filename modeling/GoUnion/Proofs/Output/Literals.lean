import GoUnion.Proofs.Literal.Quoted
import GoUnion.Proofs.Output

/-!
# String literals of a generated file

A generated file has a literal for the path of each import, and one for the name
of each variant, which its method returns.  A name is made of letters, decimal
digits and underscores, and nearly all of these are shown.  The exceptions are
the four Hangul fillers: they are letters to the scanner and have no shape.  So
the literal of a variant stands for its name exactly if the name has no filler,
and that of a path stands for the path exactly if the path is quotable.
-/

namespace GoUnion

open Lexeme (IsName startsName continuesName)

/-! ## Ranges in common -/

namespace Text.CharSet

/-- The ranges that two ascending lists of ranges have in common, by a number of steps.  Each
step leaves the range that ends first. -/
def commonRanges :
    Nat → List (Nat × Nat) → List (Nat × Nat) → List (Nat × Nat)
  | steps + 1, (first, last) :: later, (first', last') :: later' =>
    let others :=
      if last ≤ last' then
        commonRanges steps later ((first', last') :: later')
      else commonRanges steps ((first, last) :: later) later'
    if max first first' ≤ min last last' then
      (max first first', min last last') :: others
    else others
  | _, _, _ => []

/-- The ranges that two sets have in common. -/
def common (set other : CharSet) : List (Nat × Nat) :=
  commonRanges (set.ranges.length + other.ranges.length) set.ranges
    other.ranges

/-- A search that hits does not hit before the first range. -/
theorem search_cons
    {first last code : Nat} {later : List (Nat × Nat)}
    (found : search ((first, last) :: later) code = true) :
    first ≤ code ∧ (last < code → search later code = true) := by
  rw [search] at found
  split at found
  case isTrue => cases found
  case isFalse notBefore =>
    refine ⟨Nat.le_of_not_lt notBefore, ?_⟩
    intro behind
    rwa [if_neg (Nat.not_le_of_lt behind)] at found

/-- With a step for each range, what is found in both lists lies in a range that they have in
common. -/
theorem exists_mem_commonRanges
    {steps code : Nat} {ranges others : List (Nat × Nat)}
    (enough : ranges.length + others.length ≤ steps)
    (found : search ranges code = true)
    (found' : search others code = true) :
    ∃ range ∈ commonRanges steps ranges others,
      range.1 ≤ code ∧ code ≤ range.2 := by
  induction steps generalizing ranges others with
  | zero =>
      have isEmpty : ranges = [] :=
        List.length_eq_zero_iff.mp (by omega)
      subst isEmpty
      cases found
  | succ steps ih =>
      rcases ranges with _ | ⟨⟨first, last⟩, later⟩
      · cases found
      rcases others with _ | ⟨⟨first', last'⟩, later'⟩
      · cases found'
      rcases search_cons found with ⟨reached, behind⟩
      rcases search_cons found' with ⟨reached', behind'⟩
      rw [List.length_cons, List.length_cons] at enough
      rw [commonRanges]
      by_cases inside : code ≤ min last last'
      case pos =>
        rw [if_pos (by omega)]
        exact ⟨_, List.mem_cons_self, by omega, inside⟩
      case neg =>
        -- The character lies behind the range that is left.
        have later :
            ∃ range ∈
              if last ≤ last' then
                commonRanges steps later ((first', last') :: later')
              else commonRanges steps ((first, last) :: later) later',
              range.1 ≤ code ∧ code ≤ range.2 := by
          split
          case isTrue =>
            refine ih ?_ (behind (by omega)) found'
            rw [List.length_cons]
            omega
          case isFalse =>
            refine ih ?_ found (behind' (by omega))
            rw [List.length_cons]
            omega
        rcases later with ⟨range, isIn, bounds⟩
        refine ⟨range, ?_, bounds⟩
        split
        · exact List.mem_cons_of_mem _ isIn
        · exact isIn

/-- A character of two sets lies in a range that they have in common. -/
theorem exists_mem_common
    {set other : CharSet} {c : Char} (holds : set.contains c = true)
    (holds' : other.contains c = true) :
    ∃ range ∈ set.common other,
      range.1 ≤ c.toNat ∧ c.toNat ≤ range.2 :=
  exists_mem_commonRanges (Nat.le_refl _) holds holds'

/-- Sets without a common range have no common character. -/
theorem not_contains_of_common
    {set other : CharSet} (nothing : set.common other = []) {c : Char}
    (holds : set.contains c = true) :
    other.contains c = false := by
  rw [← Bool.not_eq_true]
  intro holds'
  rcases exists_mem_common holds holds' with ⟨range, isIn, -⟩
  rw [nothing] at isIn
  cases isIn

end Text.CharSet

/-! ## Characters of names -/

namespace Text

/-- The Hangul fillers. -/
def fillers : List Char :=
  ['\u115F', '\u1160', '\u3164', '\uFFA0']

/-- The characters of names are printable and extend no grapheme, apart from the fillers. -/
theorem common_tables :
    letters.common unprintables =
        [(0x115F, 0x1160), (0x3164, 0x3164), (0xFFA0, 0xFFA0)] ∧
      letters.common graphemeExtenders = [] ∧
      decimalDigits.common unprintables = [] ∧
      decimalDigits.common graphemeExtenders = [] ∧
      fillers.all (!isPrintable ·) = true := by
  decide +kernel

/-- A letter that is not printable is a filler. -/
theorem mem_fillers_of_isLetter
    {c : Char} (letter : isLetter c = true)
    (unprintable : isPrintable c = false) :
    c ∈ fillers := by
  rw [isPrintable, Bool.not_eq_false'] at unprintable
  rcases CharSet.exists_mem_common letter unprintable with
    ⟨range, isIn, bounds⟩
  rw [common_tables.1] at isIn
  have codes : c.toNat ∈ [0x115F, 0x1160, 0x3164, 0xFFA0] := by
    simp only [List.mem_cons, List.not_mem_nil, or_false] at isIn ⊢
    rcases isIn with rfl | rfl | rfl
    all_goals dsimp only at bounds
    all_goals omega
  have each : ∀ code ∈ [0x115F, 0x1160, 0x3164, 0xFFA0],
      Char.ofNat code ∈ fillers := by
    decide
  have isFiller := each c.toNat codes
  rwa [Char.ofNat_toNat] at isFiller

theorem isShown_of_mem_fillers
    {c : Char} (isFiller : c ∈ fillers) :
    isShown c = false := by
  have other : ∀ d ∈ fillers,
      d ≠ '\t' ∧ d ≠ '\r' ∧ d ≠ '\n' ∧ d ≠ '\\' ∧ d ≠ '"' :=
    List.forall_iff_forall_mem.mp (by decide)
  have unprintable := List.all_eq_true.mp common_tables.2.2.2.2 c isFiller
  rw [Bool.not_eq_true'] at unprintable
  simp [isShown, other c isFiller, unprintable]

/-- Among the characters of names, all but the fillers are shown. -/
theorem isShown_iff
    {c : Char} (continues : continuesName c = true) :
    isShown c = true ↔ c ∉ fillers := by
  rcases common_tables with ⟨-, letterExtends, digitPrints, digitExtends, -⟩
  constructor
  · intro shown isFiller
    rw [isShown_of_mem_fillers isFiller] at shown
    cases shown
  · intro noFiller
    have shows
        (printable : isPrintable c = true)
        (noExtender : extendsGrapheme c = false) :
        isShown c = true := by
      rw [isShown, printable, noExtender]
      exact Bool.or_true _
    rw [continuesName, startsName, Bool.or_eq_true, Bool.or_eq_true,
      decide_eq_true_eq] at continues
    rcases continues with (rfl | letter) | digit
    · decide
    · refine shows ?_ (CharSet.not_contains_of_common letterExtends letter)
      by_contra unprintable
      exact noFiller (mem_fillers_of_isLetter letter
        (Bool.not_eq_true _ ▸ unprintable))
    · refine shows ?_ (CharSet.not_contains_of_common digitExtends digit)
      rw [isPrintable, CharSet.not_contains_of_common digitPrints digit]
      rfl

end Text

namespace Literal

theorem not_continuesName_zero : continuesName '\x00' = false := by
  decide

/-- A name is quotable exactly if it has no filler. -/
theorem quotable_iff_of_isName
    {name : String} (isName : IsName name) :
    Quotable name.toList ↔ ∀ c ∈ Text.fillers, c ∉ name.toList := by
  have continues := continues_of_isWord isName.word
  have noZero : '\x00' ∉ name.toList := by
    intro isIn
    have continuesZero := continues _ isIn
    rw [not_continuesName_zero] at continuesZero
    cases continuesZero
  constructor
  · intro quotable c isFiller isIn
    rcases quotable.shown c isIn with shown | rfl
    · exact (Text.isShown_iff (continues c isIn)).mp shown isFiller
    · exact noZero isIn
  · intro noFiller
    refine ⟨fun c isIn => .inl ?_, fun isIn =>
      noZero (List.dropLast_subset _ isIn)⟩
    exact (Text.isShown_iff (continues c isIn)).mpr fun isFiller =>
      noFiller c isFiller isIn

end Literal

/-! ## Literals that are written -/

/-- The path of an import ends the line of the import. -/
theorem ImportPlan.quoted_mem_lines
    {plan : ImportPlan} {path name : String}
    (isIn : (path, name) ∈ plan.names) :
    ∃ front, front ++ Text.quoted path ∈ plan.lines := by
  have ends : ∃ front, spec path name = front ++ Text.quoted path := by
    rw [spec]
    split
    · exact ⟨"", (String.empty_append ..).symm⟩
    · exact ⟨_, rfl⟩
  rcases ends with ⟨front, ends⟩
  rw [lines]
  split
  case h_1 isEmpty =>
    rw [List.map_eq_nil_iff.mp isEmpty] at isIn
    cases isIn
  case h_2 single isSingle =>
    rcases List.map_eq_singleton_iff.mp isSingle with ⟨entry, names, same⟩
    rw [names, List.mem_singleton] at isIn
    subst isIn
    refine ⟨"import " ++ front, ?_⟩
    rw [String.append_assoc, ← ends]
    exact List.mem_singleton.mpr (congrArg ("import " ++ ·) same)
  case h_3 =>
    refine ⟨"\t" ++ front, ?_⟩
    rw [String.append_assoc, ← ends]
    exact List.mem_append_left _ (List.mem_append_right _
      (List.mem_map_of_mem (List.mem_map_of_mem isIn)))

namespace UnionSource

variable {source : UnionSource}

/-- The line of an import is one of the lines of the file. -/
theorem quoted_path_mem_lines
    {path name : String} (isIn : (path, name) ∈ source.imports.names) :
    ∃ front, front ++ Text.quoted path ∈ source.lines := by
  rcases ImportPlan.quoted_mem_lines isIn with ⟨front, isLine⟩
  have notEmpty : ¬ source.imports.isEmpty = true := by
    rw [ImportPlan.isEmpty, List.isEmpty_iff]
    exact List.ne_nil_of_mem isIn
  have inHeader : front ++ Text.quoted path ∈ source.header := by
    rw [header, if_neg notEmpty]
    exact List.mem_append_right _ (List.mem_cons_of_mem _ isLine)
  refine ⟨front, ?_⟩
  simp only [lines, List.mem_append]
  tauto

theorem stringLines_subset_lines : source.stringLines ⊆ source.lines := by
  intro line isLine
  simp only [lines, List.mem_append]
  tauto

/-- What the method that names a discriminant returns for a variant. -/
theorem quoted_name_mem_lines
    {variant : String} (isVariant : variant ∈ source.descriptor.variantNames) :
    s!"\t\treturn {Text.quoted variant}" ∈ source.lines := by
  rcases List.mem_map.mp isVariant with ⟨field, isField, rfl⟩
  refine stringLines_subset_lines ?_
  refine List.mem_append_left _ (List.mem_append_right _
    (List.mem_flatMap.mpr ⟨field, isField, ?_⟩))
  simp

/-- What the method that names a discriminant returns for any other value. -/
theorem quoted_otherName_mem_lines :
    s!"\t\treturn {Text.quoted source.otherName}" ∈ source.lines := by
  refine stringLines_subset_lines (List.mem_append_right _ ?_)
  simp

end UnionSource

/-- The invalid state is named by its base with underscores in front. -/
theorem NamePlan.invalid_resolve
    {variants reserved : List String} {features : Features} {name : String}
    (isInvalid :
      (NamePlan.resolve variants features reserved).invalid = some name) :
    ∃ count, name = underscored "Invalid" count := by
  rw [NamePlan.resolve] at isInvalid
  generalize features.defaulting = defaulting at isInvalid
  cases defaulting with
  | true => cases isInvalid
  | false => exact ⟨_, (Option.some.inj isInvalid).symm⟩

/-- The literal for any other value than the discriminants stands for its name. -/
theorem UnionDescriptor.unquote?_otherName
    {descriptor : UnionDescriptor} {config : OutputConfig}
    {source : UnionSource}
    (made : descriptor.source config = .ok source) :
    Literal.unquote? (Text.quoted source.otherName) =
      some source.otherName := by
  have base : ∀ c ∈ "Invalid".toList, Literal.isPlainText c = true :=
    List.forall_iff_forall_mem.mp (by decide)
  refine Literal.unquote?_quotedText ?_
  rcases source_eq_ok made with ⟨imports, -, -, rfl⟩
  rw [UnionSource.otherName]
  cases named : (NamePlan.resolve descriptor.variantNames config.features
      (reservedNames imports config)).invalid with
  | none => exact base
  | some name =>
      rcases NamePlan.invalid_resolve named with ⟨count, rfl⟩
      intro c isIn
      rw [Option.getD_some, toList_underscored, List.mem_append] at isIn
      rcases isIn with isUnderscore | inBase
      · rw [List.eq_of_mem_replicate isUnderscore]
        decide
      · exact base c inBase

/--
The literals of a file that is generated from a loaded package.  The literal of
an import stands for its path exactly if the path is quotable.  The method that
names a discriminant returns a literal for each variant, which stands for the
name of the variant exactly if the name has no Hangul filler, and one for any
other value, which stands for the name of that.
-/
theorem Package.generate_literals
    {directory path name text : String}
    {texts : List (String × List Char)} {package : Package}
    {root : NamedType} {config : OutputConfig}
    (loads : Package.ofTexts directory path texts = .ok package)
    (expands : package.expand name = .ok root)
    (generates : root.generate config = .ok text) :
    ∃ descriptor source,
      UnionDescriptor.ofNamed root = .ok descriptor ∧
        descriptor.source config = .ok source ∧ source.text = text ∧
        (∀ path name, (path, name) ∈ source.imports.names →
          (∃ front, front ++ Text.quoted path ∈ source.lines) ∧
            (Literal.unquote? (Text.quoted path) = some path ↔
              Literal.Quotable path.toList)) ∧
        (∀ variant ∈ descriptor.variantNames,
          s!"\t\treturn {Text.quoted variant}" ∈ source.lines ∧
            (Literal.unquote? (Text.quoted variant) = some variant ↔
              ∀ c ∈ Text.fillers, c ∉ variant.toList)) ∧
        s!"\t\treturn {Text.quoted source.otherName}" ∈ source.lines ∧
          Literal.unquote? (Text.quoted source.otherName) =
            some source.otherName := by
  rcases NamedType.generate_eq_ok generates with
    ⟨descriptor, source, describes, made, written⟩
  have wellFormed := descriptor_wellFormed loads expands describes
  have same : source.descriptor = descriptor := by
    rcases UnionDescriptor.source_eq_ok made with ⟨imports, -, -, rfl⟩
    rfl
  refine ⟨descriptor, source, describes, made, written, ?_, ?_,
    UnionSource.quoted_otherName_mem_lines,
    UnionDescriptor.unquote?_otherName made⟩
  · intro path name isIn
    exact ⟨UnionSource.quoted_path_mem_lines isIn,
      Literal.unquote?_quoted_iff path⟩
  · intro variant isVariant
    have isName : IsName variant := by
      rcases List.mem_map.mp isVariant with ⟨field, isField, rfl⟩
      exact (wellFormed.variants field isField).1
    exact ⟨UnionSource.quoted_name_mem_lines (same ▸ isVariant),
      (Literal.unquote?_quoted_iff variant).trans
        (Literal.quotable_iff_of_isName isName)⟩

/-- Letters of other scripts, and a path with a quote and a zero at its end, are read back. -/
theorem Package.generate_literals_umlauts :
    let config : OutputConfig :=
      ⟨"U", "u.go", "d", none, none, .standard⟩
    ∃ package root text, ∃ source : UnionSource,
      Package.ofTexts "d" "example/d"
          [("d.go", ("package d\nimport ü \"example/über\\\"\\000\"\n" ++
            "type D struct \x7b größe ü.T; 値 int \x7d\n").toList)] =
          .ok package ∧
        package.expand "D" = .ok root ∧
        root.generate config = .ok text ∧ source.text = text ∧
        "\t\treturn \"größe\"" ∈ source.lines ∧
        Literal.unquote? "\"größe\"" = some "größe" ∧
        (∃ front, front ++ "\"example/über\\\"\\0\"" ∈ source.lines) ∧
        Literal.unquote? "\"example/über\\\"\\0\"" =
          some "example/über\"\x00" := by
  intro config
  generalize shape : Package.ofTexts "d" "example/d" _ = result
  have seen :
      (result.toOption.bind fun package =>
        (package.type? "D").bind fun _ =>
          (package.expand "D").toOption.map fun root =>
            (UnionDescriptor.ofNamed root).toOption.bind fun descriptor =>
              (descriptor.source config).toOption.map fun source =>
                decide <|
                  "größe" ∈ descriptor.variantNames ∧
                    source.imports.names =
                      [("example/über\"\x00", "über__")]) =
        some (some true) := by
    rw [← shape]
    decide +kernel
  rcases exists_expanded seen with
    ⟨package, declared, root, rfl, found, expands, seen⟩
  rcases Option.bind_eq_some_iff.mp seen with
    ⟨descriptor, describes, seen⟩
  rcases exists_generated root (eq_ok_of_toOption describes) seen with
    ⟨source, made, generates, seen⟩
  rcases of_decide_eq_true seen with ⟨isVariant, names⟩
  rcases Package.generate_literals shape expands generates with
    ⟨descriptor', source', describes', made', -, paths, variants, -⟩
  cases (eq_ok_of_toOption describes).symm.trans describes'
  cases made.symm.trans made'
  have variant := variants _ isVariant
  have path := paths _ _ (names ▸ List.mem_singleton_self _)
  have written : Text.quoted "größe" = "\"größe\"" := by decide +kernel
  have written' : Text.quoted "example/über\"\x00" =
      "\"example/über\\\"\\0\"" := by decide +kernel
  rw [written] at variant
  rw [written'] at path
  have noFiller : ∀ c ∈ Text.fillers, c ∉ "größe".toList :=
    List.forall_iff_forall_mem.mp (by decide)
  exact ⟨package, root, source.text, source, rfl, expands, generates, rfl,
    variant.1, variant.2.mpr noFiller, path.1,
    path.2.mpr (by decide +kernel)⟩

/-- A field and the last element of an import path are a Hangul filler: the literals that are
written for them have no value. -/
theorem Package.generate_literals_filler :
    let config : OutputConfig :=
      ⟨"U", "u.go", "d", none, none, .standard⟩
    ∃ package root text, ∃ source : UnionSource,
      Package.ofTexts "d" "example/d"
          [("d.go", ("package d\nimport s \"example/\u3164\"\n" ++
            "type D struct \x7b \u3164 s.T \x7d\n").toList)] =
          .ok package ∧
        package.expand "D" = .ok root ∧
        root.generate config = .ok text ∧ source.text = text ∧
        source.descriptor.variantNames = ["\u3164"] ∧
        "\t\treturn \"\\u\x7b3164\x7d\"" ∈ source.lines ∧
        Literal.unquote? "\"\\u\x7b3164\x7d\"" = none ∧
        source.imports.names.map (·.1) = ["example/\u3164"] ∧
        (∃ front, front ++ "\"example/\\u\x7b3164\x7d\"" ∈ source.lines) ∧
        Literal.unquote? "\"example/\\u\x7b3164\x7d\"" = none ∧
        ¬ ∀ variant ∈ source.descriptor.variantNames,
          Literal.unquote? (Text.quoted variant) = some variant := by
  intro config
  generalize shape : Package.ofTexts "d" "example/d" _ = result
  have seen :
      (result.toOption.bind fun package =>
        (package.type? "D").bind fun _ =>
          (package.expand "D").toOption.map fun root =>
            (UnionDescriptor.ofNamed root).toOption.bind fun descriptor =>
              (descriptor.source config).toOption.map fun source =>
                decide <|
                  source.descriptor.variantNames = ["\u3164"] ∧
                    source.imports.names.map (·.1) = ["example/\u3164"]) =
        some (some true) := by
    rw [← shape]
    decide +kernel
  rcases exists_expanded seen with
    ⟨package, declared, root, rfl, found, expands, seen⟩
  rcases Option.bind_eq_some_iff.mp seen with
    ⟨descriptor, describes, seen⟩
  rcases exists_generated root (eq_ok_of_toOption describes) seen with
    ⟨source, made, generates, seen⟩
  rcases of_decide_eq_true seen with ⟨names, paths⟩
  have written : Text.quoted "\u3164" = "\"\\u\x7b3164\x7d\"" := by
    decide +kernel
  have written' : Text.quoted "example/\u3164" =
      "\"example/\\u\x7b3164\x7d\"" := by
    decide +kernel
  have noValue : Literal.unquote? "\"\\u\x7b3164\x7d\"" = none := by
    decide +kernel
  have isVariant : "\u3164" ∈ source.descriptor.variantNames :=
    names ▸ List.mem_singleton_self _
  have isReturned := UnionSource.quoted_name_mem_lines isVariant
  rw [written] at isReturned
  have isPath : "example/\u3164" ∈ source.imports.names.map (·.1) :=
    paths ▸ List.mem_singleton_self _
  rcases List.mem_map.mp isPath with ⟨entry, isEntry, samePath⟩
  have isImported := UnionSource.quoted_path_mem_lines isEntry
  rw [samePath, written'] at isImported
  refine ⟨package, root, source.text, source, rfl, expands, generates, rfl,
    names, isReturned, noValue, paths, isImported, by decide +kernel, ?_⟩
  intro readBack
  have value := readBack _ isVariant
  rw [written, noValue] at value
  cases value

end GoUnion
