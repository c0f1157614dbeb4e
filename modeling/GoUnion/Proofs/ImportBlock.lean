import GoUnion.Proofs.ImportNames
import GoUnion.Proofs.Lexing.Layout
import GoUnion.Proofs.Literal.Quoted
import Mathlib.Data.List.ProdSigma
import Mathlib.Data.List.TakeWhile

/-!
# Reading the import block

What the imports of a generated file bind when they are read again.  The local
name of an import is left out where it is the last element of the path; the
reader then guesses the name from the path.  The guess passes over a major
version, so an import that is named like one may be read with another name.  A
name that is written is read only if the scanner takes it for a name, and the
blank binds nothing.

An import that is not one of these binds its local name to its path, if the
literal of the path stands for it.  Then the file finds the package of a
reference behind the qualifier that is written for it.
-/

namespace GoUnion

open Lexeme (IsName isWordKind)
open Literal (Quotable)
open Reader (ReadsImport identifierOf)
open Text (byteLength)
open Token (Scans isInserted)

/-! ## Texts that start like a name -/

/-- Among the first 128 characters, what starts a name does so for the scanner. -/
theorem Name.startsName_of_plain :
    ∀ code < 128, Name.startsName (Char.ofNat code) = true →
      Lexeme.startsName (Char.ofNat code) = true := by
  decide +kernel

namespace Lexeme

theorem fixed_plain :
    ∀ entry ∈ fixed, ∃ c tail, entry.1 = c :: tail ∧ c.toNat < 128 := by
  have checked : fixed.all (fun entry =>
      entry.1.head?.any (fun c => decide (c.toNat < 128))) = true := by
    decide
  intro entry isIn
  have first := List.all_eq_true.mp checked entry isIn
  cases shape : entry.1 with
  | nil =>
      rw [shape] at first
      cases first
  | cons c tail =>
      rw [shape] at first
      exact ⟨c, tail, rfl, of_decide_eq_true first⟩

/-- Beyond the first 128 characters, the scanner knows only those of names. -/
theorem atHead_unknown
    {c : Char} (beyond : 128 ≤ c.toNat) (noStart : ¬startsName c = true)
    (rest : List Char) :
    atHead c rest = (.unknown, 0) := by
  have different {d : Char} (isPlain : d.toNat < 128) : c ≠ d := by
    rintro rfl
    omega
  have noGap : ¬isGap c = true := by
    simp [isGap, different (d := ' ') (by decide),
      different (d := '\t') (by decide),
      different (d := '\x0c') (by decide),
      different (d := '\r') (by decide)]
  have noDigit : ¬Numeral.isDigit c = true := by
    intro isDigit
    simp only [Numeral.isDigit, Bool.and_eq_true, decide_eq_true_eq,
      Char.le_def, UInt32.le_iff_toNat_le] at isDigit
    have bound : c.toNat ≤ 57 := isDigit.2
    omega
  have noFixed : longest fixed (c :: rest) = none := by
    cases found : longest fixed (c :: rest) with
    | none => rfl
    | some entry =>
        rcases longest_eq_some found with ⟨isEntry, opens⟩
        rcases fixed_plain entry isEntry with ⟨d, tail, shape, isPlain⟩
        rw [shape, List.cons_prefix_cons] at opens
        exact absurd opens.1.symm (different isPlain)
  rw [atHead, if_neg (different (by decide)), if_neg noGap,
    if_neg (different (by decide)), if_neg noStart, if_neg noDigit,
    if_neg (different (by decide)), if_neg (different (by decide)),
    if_neg (different (by decide)), if_neg (different (by decide)),
    fixedAtHead, noFixed]

end Lexeme

/-- The first token of a text that starts like a name is a word. -/
theorem Token.exists_word
    {c : Char} {tail : List Char} {tokens : List Token}
    (starts : Name.startsName c = true)
    (scans : Token.ofSource (c :: tail) = .ok tokens) :
    ∃ token rest, tokens = token :: rest ∧
      isWordKind token.kind = true := by
  rw [Token.ofSource] at scans
  rcases isHead : Lexeme.atHead c tail with ⟨lexeme, extra⟩
  by_cases starts' : Lexeme.startsName c = true
  case pos =>
    have named := isHead
    rw [Lexeme.atHead_of_startsName starts'] at named
    have isWord := (Lexeme.taken_of_nameAtHead named).2
    rcases Token.exists_leave isHead scans with ⟨first, after, leaves⟩
    rw [Token.tokensFrom_of_leave isHead leaves] at scans
    rcases map_eq_ok scans with ⟨later, -, rfl⟩
    subst isWord
    cases leaves
    refine ⟨_, _, rfl, ?_⟩
    dsimp only [Lexeme.wordKind]
    split
    · rfl
    · rfl
  case neg =>
    have beyond : 128 ≤ c.toNat := by
      by_contra isPlain
      have starts'' := Name.startsName_of_plain c.toNat (by omega)
      rw [Char.ofNat_toNat] at starts''
      exact starts' (starts'' starts)
    rw [Lexeme.atHead_unknown beyond starts'] at isHead
    cases isHead
    rw [Token.tokensFrom, Lexeme.atHead_unknown beyond starts'] at scans
    cases scans

/-! ## Reading one import -/

/-- The import that a whole text is. -/
def ImportSpec.read? (text : String) : Option ImportSpec :=
  (Token.ofSource text.toList).toOption.bind fun tokens =>
    (Reader.importSpec tokens).toOption.bind fun (spec, rest) =>
      if rest.1.all isInserted then some spec else none

/-- The local name and the path that a whole text binds. -/
def ImportSpec.binding? (text : String) : Option (String × String) :=
  (read? text).bind PackageFile.binding?

namespace ImportSpec

theorem read?_eq_some
    {text : String} {spec : ImportSpec} (reads : read? text = some spec) :
    ∃ tokens rest, Token.ofSource text.toList = .ok (tokens ++ rest) ∧
      ReadsImport false tokens spec := by
  rcases Option.bind_eq_some_iff.mp reads with ⟨tokens, scans, reads⟩
  rcases Option.bind_eq_some_iff.mp reads with
    ⟨⟨spec', rest⟩, readsSpec, isWhole⟩
  dsimp only at isWhole
  split at isWhole
  case isTrue =>
    cases isWhole
    rcases Reader.importSpec_consumes (eq_ok_of_toOption readsSpec) false
      with ⟨used, shape, readsUsed⟩
    exact ⟨used, rest.1, shape ▸ eq_ok_of_toOption scans, readsUsed⟩
  case isFalse => cases isWhole

theorem read?_of_reads
    {text : String} {tokens rest : List Token} {spec : ImportSpec}
    (scans : Token.ofSource text.toList = .ok (tokens ++ rest))
    (inserted : ∀ token ∈ rest, token.isInserted = true)
    (reads : ReadsImport false tokens spec) :
    read? text = some spec := by
  rcases Reader.importSpec_append reads rest with ⟨below, readsSpec⟩
  have isWhole : rest.all isInserted = true := List.all_eq_true.mpr inserted
  rw [read?, scans]
  show ((Reader.importSpec (tokens ++ rest)).toOption.bind _) = _
  rw [readsSpec]
  exact if_pos isWhole

end ImportSpec

/-- Only tokens without a text are behind those of a text at the end of which a statement ends. -/
theorem Token.ofSource_of_scans
    {text : String} {tokens : List Token}
    (scans : Scans [] 0 false text.toList tokens true) :
    ∃ rest, Token.ofSource text.toList = .ok (tokens ++ rest) ∧
      ∀ token ∈ rest, token.isInserted = true := by
  refine ⟨_, scans.ofSource, ?_⟩
  intro token isIn
  rcases List.mem_append.mp isIn with isEnd | isEnd
  · rw [List.mem_singleton.mp isEnd]
    rfl
  · rw [List.mem_singleton.mp isEnd]
    rfl

/-! ## Imports with and without a name -/

namespace Reader

/-- What is tagged is a literal. -/
theorem Tagged.of_some
    {literal : Token} {text : String}
    (tagged : Tagged [literal] (some text)) :
    isWordKind literal.kind = false ∧
      Literal.unquote? literal.text = some text := by
  cases tagged with
  | present isLiteral value =>
      refine ⟨?_, value⟩
      rcases isLiteral with isString | isRaw
      · rw [isString]
        rfl
      · rw [isRaw]
        rfl

namespace ReadsImport

variable {used rest others : List Token} {spec : ImportSpec}

/-- An import that opens with a literal has no name. -/
theorem of_string
    {literal : Token} (reads : ReadsImport false used spec)
    (shape : used ++ rest = literal :: others)
    (isString : literal.kind = .string) :
    spec.identifier = none ∧
      Literal.unquote? literal.text = some spec.path := by
  cases reads with
  | plain isPath =>
      cases shape
      exact ⟨rfl, isPath.of_some.2⟩
  | named isName _ =>
      cases shape
      rw [isString] at isName
      rcases isName with isName | isName
      · cases isName
      · cases isName

/-- An import that opens with a word has it for a name. -/
theorem of_word
    {name : Token} (reads : ReadsImport false used spec)
    (shape : used ++ rest = name :: others)
    (isWord : isWordKind name.kind = true) :
    ∃ literal later, others = literal :: later ∧
      name.kind = .identifier ∧ spec.identifier = some (identifierOf name) ∧
      Literal.unquote? literal.text = some spec.path := by
  cases reads with
  | plain isPath =>
      cases shape
      rw [isPath.of_some.1] at isWord
      cases isWord
  | named isName isPath =>
      cases shape
      rcases isName with isName | isPoint
      · exact ⟨_, _, rfl, isName, rfl, isPath.of_some.2⟩
      · rw [isPoint] at isWord
        cases isWord

end ReadsImport

end Reader

namespace ImportSpec

open ImportPlan (literalToken_quoted tagged_quoted)

/-- The tokens of a path behind a name. -/
theorem ofSource_named {name : String} (isName : IsName name) (path : String) :
    ∃ offset rest,
      Token.ofSource (name ++ " " ++ Text.quoted path).toList =
          .ok ([Token.wordToken name 0, Token.literalToken .string
            (Text.quoted path).toList offset] ++ rest) ∧
        ∀ token ∈ rest, token.isInserted = true := by
  have ends : Lexeme.EndsName (" ".toList ++ (Text.quoted path).toList ++ []) :=
    Lexeme.stops_cons.mpr (by decide)
  have solid : Lexeme.Stops Lexeme.isGap ((Text.quoted path).toList ++ []) := by
    rw [Text.quoted, String.toList_ofList]
    exact Lexeme.stops_cons.mpr (by decide)
  have scans :
      Scans [] 0 false
        (name.toList ++ (" ".toList ++ (Text.quoted path).toList))
        ([Token.wordToken name 0] ++ ([] ++ [Token.literalToken .string
          (Text.quoted path).toList
          (0 + byteLength name.toList + byteLength " ".toList)]))
        true :=
    (Token.scans_name isName ends).append
      ((Token.scans_gap (by decide) (List.forall_iff_forall_mem.mp
        (by decide)) solid).append (Token.scans_quotedText path))
  rw [← List.append_assoc, ← String.toList_append, ← String.toList_append]
    at scans
  rcases Token.ofSource_of_scans scans with ⟨rest, scans, inserted⟩
  exact ⟨_, rest, scans, inserted⟩

/-- A path by itself is bound to the name that is guessed from it. -/
theorem binding?_quoted_iff {path name : String} :
    binding? (Text.quoted path) = some (name, path) ↔
      Quotable path.toList ∧ name = Name.ofImportPath path := by
  rw [← Literal.unquote?_quoted_iff, binding?]
  constructor
  · intro binds
    rcases Option.bind_eq_some_iff.mp binds with ⟨spec, reads, binds⟩
    rcases read?_eq_some reads with ⟨used, rest, scans, readsUsed⟩
    rcases Token.ofSource_of_scans (Token.scans_quotedText path) with
      ⟨rest', scans', -⟩
    have shape := Except.ok.inj (scans.symm.trans scans')
    rcases readsUsed.of_string shape rfl with ⟨noName, value⟩
    rw [PackageFile.binding?, noName, Option.some.injEq, Prod.mk.injEq]
      at binds
    rw [literalToken_quoted, binds.2] at value
    rw [binds.2] at binds
    exact ⟨value, binds.1.symm⟩
  · rintro ⟨value, rfl⟩
    rcases Token.ofSource_of_scans (Token.scans_quotedText path) with
      ⟨rest, scans, inserted⟩
    rw [read?_of_reads scans inserted (.plain (tagged_quoted value 0))]
    rfl

/-- A written name that is bound is one for the scanner. -/
theorem isName_of_binding?
    {name back path : String} {used rest : List Token} {spec : ImportSpec}
    (isIdentifier : Name.isIdentifier name = true)
    (scans : Token.ofSource (name ++ back).toList = .ok (used ++ rest))
    (reads : ReadsImport false used spec)
    (binds : PackageFile.binding? spec = some (name, path)) :
    IsName name := by
  have areNames := tokensFrom_haveNames _ _ _ _ scans
  have isWord := (Name.isIdentifier_iff.mp isIdentifier).1
  rw [String.toList_append] at scans
  cases shape : name.toList with
  | nil =>
      rw [shape] at isWord
      cases isWord
  | cons c tail =>
      rw [shape] at isWord scans
      rcases Token.exists_word (Name.isWord_cons.mp isWord).1 scans with
        ⟨token, others, opens, isWord⟩
      rcases reads.of_word opens isWord with
        ⟨literal, later, -, isName, named, -⟩
      have isToken := areNames token (opens ▸ List.mem_cons_self) isName
      rw [PackageFile.binding?, named] at binds
      dsimp only [identifierOf] at binds
      split at binds
      case isTrue => cases binds
      case isFalse =>
        cases binds
        exact isToken

/-- A path behind an identifier is bound to that if it is one for the scanner, and not the blank. -/
theorem binding?_named_iff
    {path name : String} (isIdentifier : Name.isIdentifier name = true) :
    binding? (name ++ " " ++ Text.quoted path) = some (name, path) ↔
      Quotable path.toList ∧ IsName name ∧ name ≠ "_" := by
  rw [← Literal.unquote?_quoted_iff, binding?]
  constructor
  · intro binds
    rcases Option.bind_eq_some_iff.mp binds with ⟨spec, reads, binds⟩
    rcases read?_eq_some reads with ⟨used, rest, scans, readsUsed⟩
    rw [String.append_assoc] at scans
    have isName := isName_of_binding? isIdentifier scans readsUsed binds
    rw [← String.append_assoc] at scans
    rcases ofSource_named isName path with ⟨offset, rest', scans', -⟩
    have shape := Except.ok.inj (scans.symm.trans scans')
    have isWord : isWordKind (Token.wordToken name 0).kind = true := by
      rw [Token.wordToken_kind isName]
      rfl
    rcases readsUsed.of_word shape isWord with
      ⟨literal, later, isLiteral, -, named, value⟩
    cases isLiteral
    rw [literalToken_quoted] at value
    rw [PackageFile.binding?, named] at binds
    dsimp only [identifierOf, Token.wordToken] at binds
    split at binds
    case isTrue => cases binds
    case isFalse different =>
      cases binds
      exact ⟨value, isName, fun isBlank => different (.inl isBlank)⟩
  · rintro ⟨value, isName, noBlank⟩
    have noPoint : name ≠ "." := by
      rintro rfl
      have word := isName.word
      revert word
      decide
    rcases ofSource_named isName path with ⟨offset, rest, scans, inserted⟩
    rw [read?_of_reads scans inserted
      (.named (.inl isName.wordKind_eq) (tagged_quoted value offset))]
    exact if_neg (not_or.mpr ⟨noBlank, noPoint⟩)

end ImportSpec

/-! ## Names that are left out -/

namespace Name

/-- Without a major version at its end, a path is named by its last element. -/
theorem namingElement_of_last
    {path last : List Char}
    (isLast : (path.splitOn '/').getLast? = some last)
    (noVersion : isMajorVersion last = false) :
    namingElement path = last := by
  rw [← List.head?_reverse] at isLast
  rw [namingElement]
  split
  case h_1 first previous others shape =>
    rw [shape] at isLast
    cases isLast
    rw [noVersion]
    rfl
  case h_2 single shape =>
    rw [shape] at isLast
    cases isLast
    rfl
  case h_3 shape =>
    rw [shape] at isLast
    cases isLast

/-- Nothing is cut off from characters that continue a name. -/
theorem stem_of_continues
    {text : List Char} (continues : ∀ c ∈ text, continuesName c = true) :
    stem text = text := by
  have noPoint : ∀ c ∈ text, decide (c ≠ '.') = true := by
    intro c isIn
    refine decide_eq_true ?_
    rintro rfl
    exact absurd (continues _ isIn) (by decide)
  have kept : ['g', 'o', '-'].isPrefixOf? text = none := by
    rw [Option.eq_none_iff_forall_ne_some]
    intro rest isPrefix
    have shape := List.isPrefixOf?_eq_some_iff_append_eq.mp isPrefix
    have isIn : '-' ∈ text := by
      rw [← shape]
      simp
    exact absurd (continues _ isIn) (by decide)
  rw [stem, kept, Option.getD_none]
  exact List.takeWhile_eq_self_iff.mpr noPoint

/-- Characters that continue a name are made the name itself or a longer one. -/
theorem ofStem_eq_or_longer
    {text : List Char} (continues : ∀ c ∈ text, continuesName c = true) :
    ofStem text = String.ofList text ∨
      text.length < (ofStem text).toList.length := by
  have kept :
      (text.map fun c => if continuesName c then c else '_') = text := by
    have same : ∀ c ∈ text,
        (if continuesName c then c else '_') = id c := fun c isIn =>
      if_pos (continues c isIn)
    rw [List.map_congr_left same, List.map_id]
  have longer {chars : List Char} (long : text.length < chars.length) :
      text.length <
        (if isKeyword (String.ofList chars) then
          String.ofList chars ++ "_"
        else String.ofList chars).toList.length := by
    split
    · rw [String.toList_append, String.toList_ofList, List.length_append]
      omega
    · rwa [String.toList_ofList]
  rw [ofStem, kept]
  cases text with
  | nil => exact .inr (longer (by decide))
  | cons c tail =>
      dsimp only
      split
      case isTrue => exact .inr (longer (by simp))
      case isFalse =>
        split
        case isTrue =>
          right
          rw [String.toList_append, String.toList_ofList,
            List.length_append]
          exact Nat.lt_succ_self _
        case isFalse => exact .inl rfl

end Name

theorem length_le_numbered (base : String) (index : Nat) :
    base.toList.length ≤ (numbered base index).toList.length := by
  cases index with
  | zero => exact Nat.le_refl _
  | succ index =>
      rw [toList_numbered_succ, List.length_append]
      exact Nat.le_add_right _ _

namespace ImportPlan

/-- A local name that is the last element of the path, and no major version, is the guess. -/
theorem guess_of_lastElement
    {path : String} {index : Nat}
    (isLast : numbered (Name.ofImportPath path) index = lastElement path)
    (noVersion : Name.isMajorVersion
      (numbered (Name.ofImportPath path) index).toList = false) :
    numbered (Name.ofImportPath path) index = Name.ofImportPath path := by
  have word := (Name.isIdentifier_iff.mp
    (Name.isIdentifier_numbered path index)).1
  have long := length_le_numbered (Name.ofImportPath path) index
  rw [isLast] at noVersion word long ⊢
  rw [lastElement, String.toList_ofList] at noVersion word long
  rw [lastElement]
  cases found : (path.toList.splitOn '/').getLast? with
  | none =>
      rw [found] at word
      cases word
  | some last =>
      rw [found, Option.getD_some] at noVersion word long
      have continues : ∀ c ∈ last, Name.continuesName c = true := by
        cases last with
        | nil => cases word
        | cons c tail =>
            rcases Name.isWord_cons.mp word with ⟨starts, others⟩
            refine List.forall_mem_cons.mpr ⟨?_, others⟩
            rw [Name.startsName, Bool.or_eq_true] at starts
            rw [Name.continuesName, Text.isAlphanumeric, Bool.or_eq_true,
              Bool.or_eq_true]
            exact starts.imp_right .inl
      have guess : Name.ofImportPath path = Name.ofStem last := by
        rw [Name.ofImportPath, Name.namingElement_of_last found noVersion,
          Name.stem_of_continues continues]
      rw [guess] at long ⊢
      rcases Name.ofStem_eq_or_longer continues with same | longer
      · exact same.symm
      · omega

/-- A path and its local name of which the import is read again as it was meant. -/
structure Rebinds (path name : String) : Prop where
  quotable : Quotable path.toList
  /-- A name that is left out and reads like a major version is the guess. -/
  guessed : name = lastElement path →
    Name.isMajorVersion name.toList = true → name = Name.ofImportPath path
  /-- A name that is written is one for the scanner, and it is not the blank. -/
  written : name ≠ lastElement path → IsName name ∧ name ≠ "_"

instance (path name : String) : Decidable (Rebinds path name) :=
  decidable_of_iff
    (Quotable path.toList ∧
      (name = lastElement path → Name.isMajorVersion name.toList = true →
        name = Name.ofImportPath path) ∧
      (name ≠ lastElement path → IsName name ∧ name ≠ "_"))
    ⟨fun ⟨quotable, guessed, written⟩ => ⟨quotable, guessed, written⟩,
      fun ⟨quotable, guessed, written⟩ => ⟨quotable, guessed, written⟩⟩

variable {descriptor : UnionDescriptor} {destination : String}

/-- A local name is a numbered guess. -/
theorem planned_numbered
    {path name : String}
    (isIn : (path, name) ∈ (planned descriptor destination).names) :
    ∃ index, name = numbered (Name.ofImportPath path) index :=
  numbered_of_mem_localNames (ascending_ordered _) isIn

/-- An import of a plan is read again as it was meant exactly if it is one of those. -/
theorem binding?_spec_iff
    {path name : String}
    (isIn : (path, name) ∈ (planned descriptor destination).names) :
    ImportSpec.binding? (spec path name) = some (name, path) ↔
      Rebinds path name := by
  rcases planned_numbered isIn with ⟨index, isNumbered⟩
  have isIdentifier : Name.isIdentifier name = true :=
    isNumbered ▸ Name.isIdentifier_numbered path index
  rw [spec]
  split
  case isTrue isLast =>
    rw [ImportSpec.binding?_quoted_iff]
    constructor
    · rintro ⟨quotable, isGuess⟩
      exact ⟨quotable, fun _ _ => isGuess, fun other => absurd isLast other⟩
    · intro rebinds
      refine ⟨rebinds.quotable, ?_⟩
      cases version : Name.isMajorVersion name.toList with
      | true => exact rebinds.guessed isLast version
      | false =>
          rw [isNumbered] at isLast version ⊢
          exact guess_of_lastElement isLast version
  case isFalse other =>
    rw [ImportSpec.binding?_named_iff isIdentifier]
    constructor
    · rintro ⟨quotable, isName, noBlank⟩
      exact ⟨quotable, fun isLast => absurd isLast other,
        fun _ => ⟨isName, noBlank⟩⟩
    · intro rebinds
      exact ⟨rebinds.quotable, rebinds.written other⟩

/-! ## The whole block -/

/-- The imports that are read from the lines of a plan. -/
def readBlock (plan : ImportPlan) : List ImportSpec :=
  plan.names.filterMap fun (path, name) => ImportSpec.read? (spec path name)

/-- Imports that are all read as they were meant bind the local names to the paths. -/
theorem bindings_readBlock
    {plan : ImportPlan}
    (each : ∀ path name, (path, name) ∈ plan.names →
      ImportSpec.binding? (spec path name) = some (name, path)) :
    plan.readBlock.filterMap PackageFile.binding? =
      plan.names.map Prod.swap := by
  have same : ∀ entry ∈ plan.names,
      ((fun (path, name) => ImportSpec.read? (spec path name)) entry).bind
          PackageFile.binding? =
        (some ∘ Prod.swap) entry :=
    fun entry isIn => each entry.1 entry.2 isIn
  rw [readBlock, List.filterMap_filterMap, List.filterMap_congr same,
    List.filterMap_eq_map]

/-- A file with imports of distinct local names finds each path by its name. -/
theorem importPath?_iff
    {file : PackageFile} {plan : ImportPlan}
    (distinct : (plan.names.map (·.2)).Nodup)
    (binds : file.syntaxTree.imports.filterMap PackageFile.binding? =
      plan.names.map Prod.swap)
    {path name : String} :
    file.importPath? name = some path ↔ (path, name) ∈ plan.names := by
  have isBinding {path name : String} :
      (name, path) ∈ (plan.names.map Prod.swap).reverse ↔
        (path, name) ∈ plan.names := by
    rw [List.mem_reverse]
    exact List.mem_map_swap path name plan.names
  rw [PackageFile.importPath?, binds]
  constructor
  · intro bound
    rcases List.lookup_eq_some_iff.mp bound with ⟨front, back, shape, -⟩
    rw [← isBinding, shape]
    exact List.mem_append_right _ List.mem_cons_self
  · intro isIn
    cases found : (plan.names.map Prod.swap).reverse.lookup name with
    | none =>
        have different :=
          List.lookup_eq_none_iff.mp found _ (isBinding.mpr isIn)
        simp at different
    | some other =>
        rcases List.lookup_eq_some_iff.mp found with
          ⟨front, back, shape, -⟩
        have isOther : (other, name) ∈ plan.names := by
          rw [← isBinding, shape]
          exact List.mem_append_right _ List.mem_cons_self
        exact congrArg (some ∘ Prod.fst)
          (List.inj_on_of_nodup_map distinct isOther isIn rfl)

/--
An import of a collected plan binds its local name to its path exactly if its
path is quotable and its name, where it is left out, is not a major version
other than the guess, and where it is written, is one for the scanner and not
the blank.  If all imports are like that, then a file with these imports finds
each path by its local name, and the package of a foreign reference behind the
qualifier that is written for the reference.
-/
theorem collect_binds
    {imports : ImportPlan}
    (made : collect descriptor destination = .ok imports) :
    (∀ path name, (path, name) ∈ imports.names →
      (ImportSpec.binding? (spec path name) = some (name, path) ↔
        Rebinds path name)) ∧
    ((∀ path name, (path, name) ∈ imports.names → Rebinds path name) →
      ∀ file : PackageFile, file.syntaxTree.imports = imports.readBlock →
        (∀ path name,
          file.importPath? name = some path ↔ (path, name) ∈ imports.names) ∧
        ∀ reference ∈ descriptor.references,
          descriptor.isForeign destination reference = true →
            ∃ name, imports.qualifier reference = some name ∧
              file.importPath? name = some reference.package) := by
  obtain rfl := eq_planned made
  refine ⟨fun path name isIn => binding?_spec_iff isIn, ?_⟩
  intro rebinds file isBlock
  have finds (path name : String) :
      file.importPath? name = some path ↔
        (path, name) ∈ (planned descriptor destination).names := by
    refine importPath?_iff planned_names_nodup ?_
    rw [isBlock]
    exact bindings_readBlock fun path name isIn =>
      (binding?_spec_iff isIn).mpr (rebinds path name isIn)
  refine ⟨finds, ?_⟩
  intro reference isReference foreign
  rcases qualifier_foreign isReference foreign with ⟨name, qualified, isIn⟩
  exact ⟨name, qualified, (finds _ _).mpr isIn⟩

/-- Two packages of one name with versions, one with a version of its own name, and `unsafe`. -/
theorem collect_binds_versions :
    let descriptor : UnionDescriptor :=
      ⟨"Bag", "example/bags", [],
        [⟨"a", .named (.reference "T" "a/yaml/v3"), none, false⟩,
          ⟨"b", .named (.reference "T" "b/go-yaml.v3"), none, false⟩,
          ⟨"c", .named (.reference "T" "c/v2/v2"), none, false⟩,
          ⟨"d", .basic .unsafePointer, none, false⟩]⟩
    let imports : ImportPlan :=
      ⟨"example/bags", "example/bags", [],
        [("a/yaml/v3", "yaml"), ("b/go-yaml.v3", "yaml2"),
          ("c/v2/v2", "v2"), ("unsafe", "unsafe")], []⟩
    let file : PackageFile :=
      ⟨"u.go", [], ⟨⟨"bags", .point 0⟩, imports.readBlock, [], []⟩⟩
    collect descriptor "example/bags" = .ok imports ∧
      (∀ path name,
        file.importPath? name = some path ↔
          (path, name) ∈ imports.names) ∧
      file.importPath? "yaml2" = some "b/go-yaml.v3" ∧
      file.importPath? "v2" = some "c/v2/v2" := by
  intro descriptor imports file
  have made : collect descriptor "example/bags" = .ok imports := by
    decide +kernel
  have rebinds :
      ∀ entry ∈ imports.names, Rebinds entry.1 entry.2 := by
    decide +kernel
  have finds := ((collect_binds made).2
    (fun path name isIn => rebinds (path, name) isIn) file rfl).1
  exact ⟨made, finds, (finds _ _).mpr (by decide),
    (finds _ _).mpr (by decide)⟩

/-- A guess that is taken gets the number of the version that the path ends with: the name is left
out and read otherwise.  The blank is written and binds nothing. -/
theorem collect_binds_collision :
    let descriptor : UnionDescriptor :=
      ⟨"Bag", "example/bags", [],
        [⟨"a", .named (.reference "T" "a/v"), none, false⟩,
          ⟨"b", .named (.reference "T" "a/v/v2"), none, false⟩,
          ⟨"c", .named (.reference "T" "b/!"), none, false⟩]⟩
    ∃ imports,
      collect descriptor "example/bags" = .ok imports ∧
        imports.names = [("a/v", "v"), ("a/v/v2", "v2"), ("b/!", "_")] ∧
        spec "a/v/v2" "v2" = "\"a/v/v2\"" ∧
        ImportSpec.binding? "\"a/v/v2\"" = some ("v", "a/v/v2") ∧
        spec "b/!" "_" = "_ \"b/!\"" ∧
        ImportSpec.binding? "_ \"b/!\"" = none ∧
        ¬ ∀ path name, (path, name) ∈ imports.names →
          ImportSpec.binding? (spec path name) = some (name, path) := by
  intro descriptor
  have made :
      collect descriptor "example/bags" =
        .ok ⟨"example/bags", "example/bags", [],
          [("a/v", "v"), ("a/v/v2", "v2"), ("b/!", "_")], []⟩ := by
    decide +kernel
  have leftOut : spec "a/v/v2" "v2" = "\"a/v/v2\"" := by decide +kernel
  have guessed :
      ImportSpec.binding? "\"a/v/v2\"" = some ("v", "a/v/v2") := by
    decide +kernel
  refine ⟨_, made, rfl, leftOut, guessed, by decide +kernel,
    by decide +kernel, ?_⟩
  intro binds
  have meant := binds "a/v/v2" "v2" (by decide)
  rw [leftOut, guessed] at meant
  exact absurd meant (by decide)

end ImportPlan

end GoUnion
