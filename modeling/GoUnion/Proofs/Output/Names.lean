import GoUnion.Proofs.ImportPlan
import GoUnion.Proofs.Lexing.Names
import GoUnion.Proofs.Literal
import GoUnion.Proofs.NamePlan
import GoUnion.Union.Generation

/-!
# Chosen names are scanned as names

The names that a plan introduces come from fixed bases and from the names of the
variants.  What is put in front of a base or behind it continues a name, and it
has a character that no reserved word has; so what is chosen is scanned as one
identifier.  The local name of an import is made of the letters and digits of its
path, which have to be printable characters of the first 128.
-/

namespace GoUnion

open Lexeme (IsName isWord isWord_cons startsName continuesName)

/-! ## Words that are not reserved -/

theorem isLower_of_mem_keyword :
    ∀ word ∈ Keyword.all, ∀ c ∈ word.spelling.toList,
      c.isLower = true := by
  have checked : Keyword.all.all (fun word =>
      word.spelling.toList.all Char.isLower) = true := by
    decide
  simpa only [List.all_eq_true] using checked

/-- A text with a character other than a small letter is not reserved. -/
theorem ofString?_of_not_isLower
    {text : String} {c : Char} (isIn : c ∈ text.toList)
    (other : c.isLower = false) :
    Keyword.ofString? text = none := by
  refine List.find?_eq_none.mpr ?_
  intro word isWord spelled
  rw [← beq_iff_eq.mp spelled] at isIn
  rw [isLower_of_mem_keyword word isWord c isIn] at other
  cases other

theorem isWord_append
    {front back : List Char} (isFront : isWord front = true)
    (continues : ∀ c ∈ back, continuesName c = true) :
    isWord (front ++ back) = true := by
  cases front with
  | nil => cases isFront
  | cons c front =>
      rcases isWord_cons.mp isFront with ⟨starts, others⟩
      refine isWord_cons.mpr ⟨starts, ?_⟩
      intro d isIn
      rcases List.mem_append.mp isIn with inFront | inBack
      · exact others d inFront
      · exact continues d inBack

/-- All characters of a word continue a name. -/
theorem continues_of_isWord
    {text : List Char} (valid : isWord text = true) :
    ∀ c ∈ text, continuesName c = true := by
  cases text with
  | nil => cases valid
  | cons c text =>
      rcases isWord_cons.mp valid with ⟨starts, others⟩
      intro d isIn
      rcases List.mem_cons.mp isIn with rfl | later
      · rw [continuesName, starts, Bool.true_or]
      · exact others d later

/-- A name with something behind it that continues a name and is not all small letters. -/
theorem isName_append
    {front back : String} (isFront : isWord front.toList = true)
    (continues : ∀ c ∈ back.toList, continuesName c = true)
    {c : Char} (isIn : c ∈ front.toList ++ back.toList)
    (other : c.isLower = false) :
    IsName (front ++ back) := by
  rw [← String.toList_append] at isIn
  refine ⟨?_, ofString?_of_not_isLower isIn other⟩
  rw [String.toList_append]
  exact isWord_append isFront continues

/-- A name behind a fixed word that ends with an underscore, say. -/
theorem Lexeme.IsName.behind
    {name front : String} (isName : IsName name)
    (isFront : isWord front.toList = true) {c : Char}
    (isIn : c ∈ front.toList) (other : c.isLower = false) :
    IsName (front ++ name) :=
  isName_append isFront (continues_of_isWord isName.word)
    (List.mem_append_left _ isIn) other

theorem Lexeme.IsName.oneLine {name : String} (isName : IsName name) :
    '\n' ∉ name.toList := by
  intro isIn
  have continues := continues_of_isWord isName.word '\n' isIn
  revert continues
  decide

/-! ## Names of a plan -/

theorem isName_underscored
    {base : String} (isName : IsName base) (count : Nat) :
    IsName (underscored base count) := by
  cases count with
  | zero => rwa [underscored_zero]
  | succ count =>
      have underscores :
          isWord (List.replicate (count + 1) '_') = true := by
        rw [List.replicate_succ]
        refine isWord_cons.mpr ⟨by decide, ?_⟩
        intro c isIn
        rw [List.eq_of_mem_replicate isIn]
        decide
      refine ⟨?_, ofString?_of_not_isLower (c := '_') ?_ (by decide)⟩
      · rw [toList_underscored]
        exact isWord_append underscores (continues_of_isWord isName.word)
      · rw [toList_underscored, List.replicate_succ]
        exact List.mem_cons_self

/-- The name that is chosen for a name is one. -/
theorem isName_freeName
    {taken : List String} {base : String} (isName : IsName base) :
    IsName (freeName taken base) :=
  isName_underscored isName _

theorem isName_freeNames
    {taken bases : List String} (areNames : ∀ base ∈ bases, IsName base) :
    ∀ name ∈ (freeNames taken bases).1, IsName name := by
  induction bases generalizing taken with
  | nil => simp [freeNames]
  | cons base bases ih =>
      rcases List.forall_mem_cons.mp areNames with ⟨first, others⟩
      exact List.forall_mem_cons.mpr ⟨isName_freeName first, ih others⟩

theorem isName_freeName?
    {taken : List String} {wanted : Bool} {base : String}
    (isName : IsName base) :
    ∀ name ∈ (freeName? taken wanted base).1, IsName name := by
  cases wanted with
  | false => simp [freeName?]
  | true =>
      rintro name ⟨⟩
      exact isName_freeName isName

theorem isName_handlerNames
    {reserved taken variants : List String}
    (areNames : ∀ variant ∈ variants, IsName variant) :
    ∀ name ∈ NamePlan.handlerNames reserved taken variants,
      IsName name := by
  induction variants generalizing taken with
  | nil => simp [NamePlan.handlerNames]
  | cons variant variants ih =>
      rcases List.forall_mem_cons.mp areNames with ⟨first, others⟩
      rw [NamePlan.handlerNames]
      split
      · exact List.forall_mem_cons.mpr ⟨isName_freeName first, ih others⟩
      · exact List.forall_mem_cons.mpr ⟨first, ih others⟩

/-- All names of a plan are scanned as names. -/
structure NamePlan.AllNames (plan : NamePlan) : Prop where
  discriminant : IsName plan.discriminant
  inner : IsName plan.inner
  invalid : ∀ name ∈ plan.invalid, IsName name
  variantMethod : IsName plan.variantMethod
  valueMethod : ∀ name ∈ plan.valueMethod, IsName name
  matchMethod : ∀ name ∈ plan.matchMethod, IsName name
  getters : ∀ name ∈ plan.getters, IsName name
  setters : ∀ name ∈ plan.setters, IsName name
  handlers : ∀ name ∈ plan.handlers, IsName name
  receiver : IsName plan.receiver
  valueParameter : IsName plan.valueParameter
  zero : IsName plan.zero
  invalidHandler : IsName plan.invalidHandler

/-- The names that are chosen for variants with names are names. -/
theorem NamePlan.allNames_resolve
    {variants reserved : List String} {features : Features}
    (areNames : ∀ variant ∈ variants, IsName variant) :
    (NamePlan.resolve variants features reserved).AllNames := by
  have accessors
      (front : String) (wanted : Bool)
      (isFront : isWord front.toList = true) (isIn : '_' ∈ front.toList) :
      ∀ base ∈ if wanted then variants.map (front ++ ·) else [],
        IsName base := by
    intro base isBase
    cases wanted with
    | false => cases isBase
    | true =>
        rcases List.mem_map.mp isBase with ⟨variant, isVariant, rfl⟩
        exact (areNames variant isVariant).behind isFront isIn (by decide)
  exact {
    discriminant := isName_freeName (by decide)
    inner := isName_freeName (by decide)
    invalid := isName_freeName? (by decide)
    variantMethod := isName_freeName (by decide)
    valueMethod := isName_freeName? (by decide)
    matchMethod := isName_freeName? (by decide)
    getters := isName_freeNames (accessors "Get_" _ (by decide) (by decide))
    setters := isName_freeNames (accessors "Set_" _ (by decide) (by decide))
    handlers := isName_handlerNames areNames
    receiver := isName_freeName (by decide)
    valueParameter := isName_freeName (by decide)
    zero := isName_freeName (by decide)
    invalidHandler := isName_freeName (by decide)
  }

/-! ## Local names of imports -/

open Literal (isPlainText)

theorem continuesName_of_plain :
    ∀ code < 128, Name.continuesName (Char.ofNat code) = true →
      continuesName (Char.ofNat code) = true := by
  decide +kernel

theorem startsName_of_plain :
    ∀ code < 128, continuesName (Char.ofNat code) = true →
      Text.isNumeric (Char.ofNat code) = false →
        startsName (Char.ofNat code) = true := by
  decide +kernel

/-- What holds of the first 128 characters by their codes holds of printable ones. -/
theorem of_isPlainText
    (Holds : Char → Prop) (each : ∀ code < 128, Holds (Char.ofNat code))
    {c : Char} (isPlain : isPlainText c = true) :
    Holds c := by
  have small : c.toNat < 128 := by
    simp only [isPlainText, Bool.and_eq_true, decide_eq_true_eq] at isPlain
    omega
  have holds := each c.toNat small
  rwa [Char.ofNat_toNat] at holds

/-- The characters that a name is made of continue a name, and those that are no digits start one. -/
theorem continues_of_mem_letters
    {text : List Char} (isPlain : ∀ c ∈ text, isPlainText c = true) :
    ∀ c ∈ text.map fun c => if Name.continuesName c then c else '_',
      continuesName c = true ∧
        (Text.isNumeric c = false → startsName c = true) := by
  intro c isIn
  rcases List.mem_map.mp isIn with ⟨d, inText, rfl⟩
  split
  case isTrue continues =>
    have continues' : continuesName d = true :=
      of_isPlainText
        (fun c => Name.continuesName c = true → continuesName c = true)
        continuesName_of_plain (isPlain d inText) continues
    exact ⟨continues', of_isPlainText
      (fun c => continuesName c = true → Text.isNumeric c = false →
        startsName c = true)
      startsName_of_plain (isPlain d inText) continues'⟩
  case isFalse => exact ⟨by decide, fun _ => by decide⟩

/-- A word with an underscore behind it if it is reserved. -/
theorem isName_unreserved
    {text : List Char} (word : isWord text = true) :
    IsName (if Name.isKeyword (String.ofList text) then
      String.ofList text ++ "_" else String.ofList text) := by
  have word' : isWord (String.ofList text).toList = true := by
    rwa [String.toList_ofList]
  split
  case isTrue =>
    refine isName_append word' (List.forall_iff_forall_mem.mp (by decide))
      (c := '_') ?_ (by decide)
    exact List.mem_append_right _ (by decide)
  case isFalse notReserved =>
    rw [Name.isKeyword, Bool.not_eq_true, Option.isSome_eq_false_iff,
      Option.isNone_iff_eq_none] at notReserved
    exact ⟨word', notReserved⟩

/-- A text of printable characters of the first 128 is made a name. -/
theorem isName_ofStem
    {text : List Char} (isPlain : ∀ c ∈ text, isPlainText c = true) :
    IsName (Name.ofStem text) := by
  have letters := continues_of_mem_letters isPlain
  rw [Name.ofStem]
  generalize text.map _ = made at letters
  cases made with
  | nil =>
      have word : isWord ['_'] = true := by decide
      exact isName_unreserved word
  | cons c made =>
      rcases List.forall_mem_cons.mp letters with ⟨first, others⟩
      dsimp only
      split
      case isTrue =>
        exact isName_unreserved (isWord_cons.mpr
          ⟨by decide, fun d isIn => (letters d isIn).1⟩)
      case isFalse noDigit =>
        exact isName_unreserved (isWord_cons.mpr
          ⟨first.2 (Bool.not_eq_true _ ▸ noDigit), fun d isIn =>
            (others d isIn).1⟩)

theorem mem_intercalate_of_mem
    {separator piece : List Char} {pieces : List (List Char)} {c : Char}
    (isPiece : piece ∈ pieces) (isIn : c ∈ piece) :
    c ∈ separator.intercalate pieces := by
  induction pieces with
  | nil => cases isPiece
  | cons first pieces ih =>
      cases pieces with
      | nil =>
          rw [List.mem_singleton.mp isPiece] at isIn
          simpa using isIn
      | cons second pieces =>
          rw [List.intercalate_cons_cons]
          rcases List.mem_cons.mp isPiece with rfl | later
          · exact List.mem_append_left _ (List.mem_append_left _ isIn)
          · exact List.mem_append_right _ (ih later)

/-- The part of a path that names its package is taken from the path. -/
theorem namingElement_subset (path : List Char) :
    Name.namingElement path ⊆ path := by
  have pieces : ∀ piece ∈ (path.splitOn '/').reverse, piece ⊆ path := by
    intro piece isPiece c isIn
    have joined : ['/'].intercalate (path.splitOn '/') = path :=
      List.intercalate_splitOn '/'
    rw [← joined]
    exact mem_intercalate_of_mem (List.mem_reverse.mp isPiece) isIn
  rw [Name.namingElement]
  split
  case h_1 last previous others shape =>
    rw [shape] at pieces
    split
    · exact pieces previous (by simp)
    · exact pieces last (by simp)
  case h_2 last shape =>
    rw [shape] at pieces
    exact pieces last (by simp)
  case h_3 => exact List.Subset.refl path

theorem stem_subset (element : List Char) :
    Name.stem element ⊆ element := by
  rw [Name.stem]
  refine List.Subset.trans (List.takeWhile_subset _) ?_
  cases isPrefix : ['g', 'o', '-'].isPrefixOf? element with
  | none => exact List.Subset.refl element
  | some rest =>
      rw [← List.isPrefixOf?_eq_some_iff_append_eq.mp isPrefix]
      exact List.subset_append_right _ _

/-- The name that a package is taken to declare, with a number behind it or not. -/
theorem isName_numbered
    {path : String} (isPlain : ∀ c ∈ path.toList, isPlainText c = true)
    (index : Nat) :
    IsName (numbered (Name.ofImportPath path) index) := by
  have isName : IsName (Name.ofImportPath path) :=
    isName_ofStem fun c isIn =>
      isPlain c (namingElement_subset _ (stem_subset _ isIn))
  cases index with
  | zero => exact isName
  | succ index =>
      have digits : ∀ c ∈ Nat.toDigits 10 (index + 2),
          continuesName c = true ∧ c.isLower = false := by
        intro c isIn
        have each : ∀ c ∈ Literal.decimals,
            continuesName c = true ∧ c.isLower = false :=
          List.forall_iff_forall_mem.mp (by decide)
        exact each c (Literal.mem_decimals_of_toDigits c isIn)
      have shape : (toString (index + 2)).toList =
          Nat.toDigits 10 (index + 2) := by
        rw [Nat.toString_eq_repr, Nat.toList_repr]
      rcases List.exists_mem_of_ne_nil _
        (Nat.toDigits_ne_nil (b := 10) (n := index + 2)) with ⟨c, isIn⟩
      rw [numbered]
      refine isName_append isName.word ?_ (c := c) ?_ (digits c isIn).2
      · rw [shape]
        exact fun d isDigit => (digits d isDigit).1
      · rw [shape]
        exact List.mem_append_right _ isIn

/-- The local names of paths of printable characters of the first 128 are names. -/
theorem ImportPlan.isName_nameAll
    {taken paths : List String}
    (arePlain : ∀ path ∈ paths, ∀ c ∈ path.toList, isPlainText c = true) :
    ∀ entry ∈ ImportPlan.nameAll taken paths, IsName entry.2 := by
  induction paths generalizing taken with
  | nil => simp [ImportPlan.nameAll]
  | cons path paths ih =>
      rcases List.forall_mem_cons.mp arePlain with ⟨first, others⟩
      rw [ImportPlan.nameAll]
      split
      · have isName : IsName ImportPlan.unsafePath := by decide
        exact List.forall_mem_cons.mpr ⟨isName, ih others⟩
      · exact List.forall_mem_cons.mpr
          ⟨isName_numbered first _, ih others⟩

end GoUnion
