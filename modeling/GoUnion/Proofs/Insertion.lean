import GoUnion.Proofs.Regeneration

/-!
# Inserted declarations

A line that declares a type may be put in front of any declaration of types in a
file.  The file declares what it declared before and the further type.  If the
name of that type is free, the package is loaded again, every other name stands
for what it stood for, and no name of the universe is hidden.
-/

namespace GoUnion

open Reader
open Text (Span byteLength)
open Token

/-! ## Gaps between declarations -/

namespace Reader

variable {source : List Char} {tokens : List Token}

/-- Some tokens reach a declaration of types, and something holds in any text with the declaration
of a further type in front of it. -/
def HasGap
    (Fits : List Char → TypeDeclaration → List Token → Prop)
    (tokens : List Token) : Prop :=
  ∃ front word back, tokens = front ++ word :: back ∧
    word.kind = .keyword .type ∧
      ∀ source' front' piece' mark' back' added,
        words front = words front' → words (word :: back) = words back' →
          ReadsDeclaration source' false piece' (.types [added]) →
            mark'.kind = .symbol .semicolon →
              Fits source' added (front' ++ (piece' ++ mark' :: back'))

variable {Fits Fits' : List Char → TypeDeclaration → List Token → Prop}

theorem HasGap.ne_nil (gap : HasGap Fits tokens) : tokens ≠ [] := by
  rcases gap with ⟨front, word, back, rfl, -⟩
  simp

/-- A gap stays one behind further tokens. -/
theorem HasGap.behind
    (gap : HasGap Fits tokens) (front : List Token)
    (implies : ∀ source' front' tokens' added,
      words front = words front' → Fits source' added tokens' →
        Fits' source' added (front' ++ tokens')) :
    HasGap Fits' (front ++ tokens) := by
  rcases gap with ⟨before, word, back, rfl, isType, fits⟩
  refine ⟨front ++ before, word, back, by simp, isType, ?_⟩
  intro source' allBefore' piece' mark' back' added sameBefore sameBack
    reads isMark
  rcases exists_append_of_words sameBefore with
    ⟨front', before', rfl, sameFront, sameBefore⟩
  rw [List.append_assoc]
  exact implies source' front' _ added sameFront
    (fits source' before' piece' mark' back' added sameBefore sameBack reads
      isMark)

theorem ReadsDeclarations.hasGap
    {before after : List Declaration} {declared : List TypeDeclaration}
    (reads :
      ReadsDeclarations source tokens (before ++ .types declared :: after)) :
    HasGap
      (fun source' added tokens' => ∃ before' after',
        ReadsDeclarations source' tokens'
            (before' ++ .types [added] :: after') ∧
          before'.map (·.unplaced) = before.map (·.unplaced) ∧
            after'.map (·.unplaced) =
              (.types declared :: after).map (·.unplaced)) tokens := by
  generalize shape : before ++ .types declared :: after = declarations
    at reads
  induction reads generalizing before with
  | done => simp at shape
  | @more semicolons tokens ending next head others leading reads ends
      rest ih =>
      cases before with
      | nil =>
          cases shape
          have whole :
              ReadsDeclarations source ([] ++ (tokens ++ (ending ++ next)))
                (.types declared :: after) :=
            .more (by simp [Semicolons]) reads ends rest
          cases reads with
          | @types word inner _ isType =>
              refine ⟨semicolons, word, inner ++ (ending ++ next), rfl,
                isType, ?_⟩
              intro source' front' piece' mark' back' added sameFront
                sameBack readsAdded isMark
              rcases whole.moved source' sameBack with
                ⟨after', later, sameAfter⟩
              exact ⟨[], after',
                .more (leading.moved sameFront) readsAdded
                  (.semicolon isMark) later, rfl, sameAfter⟩
      | cons head' before =>
          cases shape
          have gap := ih rfl
          cases ends with
          | endOfFile => exact absurd rfl gap.ne_nil
          | @semicolon mark next isMark =>
              have shape :
                  semicolons ++ (tokens ++ ([mark] ++ next)) =
                    (semicolons ++ (tokens ++ [mark])) ++ next := by
                simp
              rw [shape]
              apply gap.behind
              rintro source' front' next' added sameFront
                ⟨before', after', rest', sameBefore, sameAfter⟩
              rcases exists_append_of_words sameFront with
                ⟨semicolons', _, rfl, sameSemicolons, sameFront⟩
              rcases exists_append_of_words sameFront with
                ⟨tokens', _, rfl, sameTokens, sameEnding⟩
              rcases exists_singleton_of_words sameEnding with
                ⟨mark', rfl, sameMark⟩
              rcases reads.moved source' sameTokens with
                ⟨first', reads', sameFirst⟩
              have whole :
                  ReadsDeclarations source'
                    (semicolons' ++ (tokens' ++ ([mark'] ++ next')))
                    (first' :: (before' ++ .types [added] :: after')) :=
                .more (leading.moved sameSemicolons) reads'
                  (.semicolon (kind_congr sameMark ▸ isMark)) rest'
              refine ⟨first' :: before', after', ?_, ?_, sameAfter⟩
              · simpa only [List.append_assoc, List.cons_append] using whole
              · rw [List.map_cons, List.map_cons, sameFirst, sameBefore]

theorem ReadsImports.hasGap
    {specs : List ImportSpec} {before after : List Declaration}
    {declared : List TypeDeclaration}
    (reads :
      ReadsImports source tokens specs
        (before ++ .types declared :: after)) :
    HasGap
      (fun source' added tokens' => ∃ specs' before' after',
        ReadsImports source' tokens' specs'
            (before' ++ .types [added] :: after') ∧
          specs'.map (·.unplaced) = specs.map (·.unplaced) ∧
            before'.map (·.unplaced) = before.map (·.unplaced) ∧
              after'.map (·.unplaced) =
                (.types declared :: after).map (·.unplaced)) tokens := by
  generalize shape : before ++ .types declared :: after = declarations
    at reads
  induction reads with
  | none rest =>
      subst shape
      apply rest.hasGap.behind []
      rintro source' front' tokens' added sameFront ⟨before', after', rest', same⟩
      cases eq_nil_of_words sameFront
      exact ⟨[], before', after', .none rest', rfl, same⟩
  | @more semicolons tokens ending next word head others _ leading isImport
      grouped ends rest ih =>
      have gap := ih shape
      cases ends with
      | endOfFile => exact absurd rfl gap.ne_nil
      | @semicolon mark next isMark =>
          have shape :
              semicolons ++ word :: (tokens ++ ([mark] ++ next)) =
                (semicolons ++ word :: (tokens ++ [mark])) ++ next := by
            simp
          rw [shape]
          apply gap.behind
          rintro source' front' next' added sameFront
            ⟨specs', before', after', rest', sameSpecs, same⟩
          rcases exists_append_of_words sameFront with
            ⟨semicolons', _, rfl, sameSemicolons, sameFront⟩
          rcases exists_cons_of_words sameFront with
            ⟨word', _, rfl, sameWord, sameFront⟩
          rcases exists_append_of_words sameFront with
            ⟨tokens', _, rfl, sameTokens, sameEnding⟩
          rcases exists_singleton_of_words sameEnding with
            ⟨mark', rfl, sameMark⟩
          rcases grouped.moved ReadsImport
              (fun spec spec' => spec'.unplaced = spec.unplaced)
              (fun _ _ _ _ => ReadsImport.moved) sameTokens with
            ⟨head', grouped', sameHead⟩
          have whole :
              ReadsImports source'
                (semicolons' ++ word' :: (tokens' ++ ([mark'] ++ next')))
                (head' ++ specs')
                (before' ++ .types [added] :: after') :=
            .more (leading.moved sameSemicolons)
              (kind_congr sameWord ▸ isImport) grouped'
              (.semicolon (kind_congr sameMark ▸ isMark)) rest'
          refine ⟨head' ++ specs', before', after', ?_, ?_, same⟩
          · simpa only [List.append_assoc, List.cons_append] using whole
          · rw [List.map_append, List.map_append, sameSpecs,
              map_eq_map_of_forall₂ sameHead]

end Reader

/-- A file declares what another one does and a further type, up to places. -/
structure SourceFile.Gains
    (file : SourceFile) (added : TypeDeclaration) (file' : SourceFile) :
    Prop where
  types : ∃ first later first' later',
    file.types = first ++ later ∧
      file'.types = first' ++ added :: later' ∧
        first'.map (·.unplaced) = first.map (·.unplaced) ∧
          later'.map (·.unplaced) = later.map (·.unplaced)
  name : file'.package.name = file.package.name
  imports :
    file'.imports.map (·.unplaced) = file.imports.map (·.unplaced)
  constants :
    file'.constants.map (·.unplaced) = file.constants.map (·.unplaced)

namespace Reader

variable {source : List Char} {tokens : List Token}

/-- What some declarations declare, up to places. -/
theorem ofDeclarations_unplaced
    (name : Identifier) (specs : List ImportSpec)
    {declarations declarations' : List Declaration}
    (same :
      declarations'.map (·.unplaced) = declarations.map (·.unplaced)) :
    (SourceFile.ofDeclarations name specs declarations').unplaced =
      (SourceFile.ofDeclarations name specs declarations).unplaced := by
  rw [unplaced_ofDeclarations, unplaced_ofDeclarations, same]

theorem ofDeclarations_append
    (name : Identifier) (specs : List ImportSpec)
    (front back : List Declaration) :
    SourceFile.ofDeclarations name specs (front ++ back) =
      ⟨name, specs,
        (SourceFile.ofDeclarations name specs front).types ++
          (SourceFile.ofDeclarations name specs back).types,
        (SourceFile.ofDeclarations name specs front).constants ++
          (SourceFile.ofDeclarations name specs back).constants⟩ := by
  simp [SourceFile.ofDeclarations]

theorem gains_ofDeclarations
    {name name' : Identifier} {specs specs' : List ImportSpec}
    {before after before' after' : List Declaration}
    {added : TypeDeclaration}
    (sameName : name'.unplaced = name.unplaced)
    (sameSpecs : specs'.map (·.unplaced) = specs.map (·.unplaced))
    (sameBefore : before'.map (·.unplaced) = before.map (·.unplaced))
    (sameAfter : after'.map (·.unplaced) = after.map (·.unplaced)) :
    (SourceFile.ofDeclarations name specs (before ++ after)).Gains added
      (.ofDeclarations name' specs'
        (before' ++ .types [added] :: after')) := by
  have sameFront := ofDeclarations_unplaced name specs sameBefore
  have sameBack := ofDeclarations_unplaced name specs sameAfter
  rw [ofDeclarations_append, ofDeclarations_append]
  exact {
    types := ⟨_, _, _, _, rfl, rfl, congrArg SourceFile.types sameFront,
      congrArg SourceFile.types sameBack⟩
    name := (congrArg Identifier.name sameName :)
    imports := sameSpecs
    constants := by
      rw [List.map_append, List.map_append]
      exact congrArg₂ (· ++ ·) (congrArg SourceFile.constants sameFront)
        (congrArg SourceFile.constants sameBack) }

/-- A further type may be declared in front of the declaration of a type. -/
theorem ReadsFile.hasGap
    {file : SourceFile} {declaration : TypeDeclaration}
    (reads : ReadsFile source tokens file)
    (isDeclared : declaration ∈ file.types) :
    HasGap
      (fun source' added tokens' => ∃ file',
        ReadsFile source' tokens' file' ∧ file.Gains added file')
      tokens := by
  cases reads with
  | @file semicolons ending next word name specs declarations leading
      isPackage isName ends rest =>
      rcases List.mem_flatMap.mp isDeclared with ⟨group, isIn, inGroup⟩
      cases group with
      | constants | skipped => cases inGroup
      | types declared =>
          rcases List.append_of_mem isIn with ⟨before, after, rfl⟩
          have gap := rest.hasGap
          cases ends with
          | endOfFile => exact absurd rfl gap.ne_nil
          | @semicolon mark next isMark =>
              have shape :
                  semicolons ++ word :: name :: ([mark] ++ next) =
                    (semicolons ++ [word, name, mark]) ++ next := by
                simp
              rw [shape]
              apply gap.behind
              rintro source' front' next' added sameFront
                ⟨specs', before', after', rest', sameSpecs, sameBefore,
                  sameAfter⟩
              rcases exists_append_of_words sameFront with
                ⟨semicolons', _, rfl, sameSemicolons, sameFront⟩
              rcases exists_cons_of_words sameFront with
                ⟨word', _, rfl, sameWord, sameFront⟩
              rcases exists_cons_of_words sameFront with
                ⟨name', _, rfl, sameName, sameFront⟩
              rcases exists_singleton_of_words sameFront with
                ⟨mark', rfl, sameMark⟩
              have whole :
                  ReadsFile source'
                    (semicolons' ++ word' :: name' :: ([mark'] ++ next'))
                    (.ofDeclarations (identifierOf name') specs'
                      (before' ++ .types [added] :: after')) :=
                .file (leading.moved sameSemicolons)
                  (kind_congr sameWord ▸ isPackage)
                  (kind_congr sameName ▸ isName)
                  (.semicolon (kind_congr sameMark ▸ isMark)) rest'
              refine ⟨_, by simpa using whole, ?_⟩
              exact gains_ofDeclarations (identifierOf_moved sameName)
                sameSpecs sameBefore sameAfter

end Reader

/-! ## Lines -/

namespace Token

/-- A line that opens with a reserved word may be put in front of the same word. -/
theorem ofSource_insert
    {text : List Char} {front back : List Token} {word : Token}
    {reserved : Keyword}
    (scanned : ofSource text = .ok (front ++ word :: back))
    (isWord : word.kind = .keyword reserved)
    (long : 3 ≤ reserved.spelling.toList.length) :
    ∃ before behind, text = before ++ behind ∧
      ∀ more (Holds : List Token → Prop),
        (∀ offset pending rest, ∃ tokens,
          Scans rest offset pending (reserved.spelling.toList ++ more)
              tokens false ∧ Holds tokens) →
          ∃ inner back',
            ofSource (before ++
                ((reserved.spelling.toList ++ more) ++ behind)) =
              .ok (front ++ (inner ++ back')) ∧
            words (word :: back) = words back' ∧ Holds inner := by
  rcases scans_of_tokensFrom scanned with ⟨used, final, scans, shape⟩
  have noSemicolon : word.kind ≠ .symbol .semicolon := by simp [isWord]
  have noEnd : word.kind ≠ .endOfFile := by simp [isWord]
  rcases exists_split shape (not_mem_ending noSemicolon noEnd final _) with
    ⟨later, rfl, rfl⟩
  have wordText := text_of_keyword scans (by simp) isWord
  rcases scans.cut (wordText ▸ by cases reserved <;> decide) with
    ⟨before, inside, behind, rfl, cut⟩
  have isInside : inside = reserved.spelling.toList := by
    have isText := cut.text
    rw [wordText] at isText
    rw [isText, String.toList_ofList]
  subst isInside
  rcases cut.scansBefore with ⟨between, scansBefore⟩
  refine ⟨before, reserved.spelling.toList ++ behind, rfl, ?_⟩
  intro more Holds forms
  rcases forms (0 + byteLength before) between
      ((reserved.spelling.toList ++ behind) ++ []) with
    ⟨inner, scansInner, holds⟩
  have scansBack := (cut.scansInside false).append cut.scansBehind
  rcases scansBack.shift (0 + byteLength before +
      byteLength (reserved.spelling.toList ++ more)) with
    ⟨back', scansBack', sameBack⟩
  have scansFront :
      Scans ((reserved.spelling.toList ++ more) ++
          (reserved.spelling.toList ++ behind) ++ []) 0 false before front
        between := by
    rw [List.append_assoc, List.append_assoc]
    exact scansBefore.behind long _
  have scansAll :=
    (scansFront.append (scansInner.append scansBack')).ofSource
  refine ⟨inner, _,
    by rw [scansAll, List.append_assoc front, List.append_assoc inner], ?_,
    holds⟩
  simp only [words_append, words_cons, sameBack]
  rw [words_lineEnd? final]
  rfl

end Token

/-- A line from the keyword of a type declaration on that declares one type, of which something
holds. -/
structure DeclaresType
    (line : List Char) (Means : TypeDeclaration → Prop) : Prop where
  opens : ∃ more, line = Keyword.type.spelling.toList ++ more
  scans : ∀ source offset pending rest, ∃ tokens mark added,
    Scans rest offset pending line (tokens ++ [mark]) false ∧
      mark.kind = .symbol .semicolon ∧
        ReadsDeclaration source false tokens (.types [added]) ∧ Means added

/-- A line may be put in front of the declaration of a type. -/
theorem ofSource_inserted
    {text : List Char} {file : SourceFile} {declaration : TypeDeclaration}
    (parses : SourceFile.ofSource text = .ok file)
    (isDeclared : declaration ∈ file.types) :
    ∃ front back, text = front ++ back ∧
      ∀ line Means, DeclaresType line Means → ∃ file' added,
        SourceFile.ofSource (front ++ (line ++ back)) = .ok file' ∧
          Means added ∧ file.Gains added file' := by
  rcases bind_eq_ok parses with ⟨tokens, scanned, succeeds⟩
  rcases ofTokens_consumes succeeds with
    ⟨used, final, rfl, isEnd, readsFile⟩
  rcases readsFile.hasGap isDeclared with
    ⟨before, word, behind, rfl, isType, fits⟩
  rw [List.append_assoc, List.cons_append] at scanned
  rcases ofSource_insert scanned isType (by decide) with
    ⟨front, back, rfl, inserts⟩
  refine ⟨front, back, rfl, ?_⟩
  rintro _ Means ⟨⟨more, rfl⟩, scans⟩
  rcases inserts more
      (fun tokens => ∃ piece mark added, tokens = piece ++ [mark] ∧
        mark.kind = .symbol .semicolon ∧
          ReadsDeclaration
            (front ++ ((Keyword.type.spelling.toList ++ more) ++ back))
            false piece (.types [added]) ∧ Means added)
      (by
        intro offset pending rest
        rcases scans _ offset pending rest with
          ⟨piece, mark, added, scans, isMark, reads, means⟩
        exact ⟨_, scans, piece, mark, added, rfl, isMark, reads, means⟩)
    with ⟨_, back', scanned', sameBack, piece, mark, added, rfl, isMark,
      reads, means⟩
  rw [← List.cons_append] at sameBack
  rcases exists_append_of_words sameBack with
    ⟨later', final', rfl, sameLater, sameFinal⟩
  rcases fits _ before piece mark later' added rfl sameLater reads isMark
    with ⟨file', readsFile', gains⟩
  have isEnd' : kind final' = .endOfFile :=
    (kind_moved sameFinal).trans isEnd
  refine ⟨file', added, ?_, means, gains⟩
  rw [SourceFile.ofSource, scanned', ok_bind]
  have accepts := ofTokens_append readsFile' isEnd'
  simpa only [List.append_assoc, List.cons_append, List.nil_append]
    using accepts

/-! ## Packages -/

/-- Two declarations with the same heading in files that bind the same names. -/
structure Declared.Similar (declared declared' : Declared) : Prop where
  heading :
    declared.declaration.heading = declared'.declaration.heading
  importPath? : ∀ name,
    declared.file.importPath? name = declared'.file.importPath? name

namespace Declared.Similar

variable {declared declared' : Declared}

theorem refl (declared : Declared) : Declared.Similar declared declared :=
  ⟨rfl, fun _ => rfl⟩

theorem name (similar : Declared.Similar declared declared') :
    declared.name = declared'.name :=
  congrArg Prod.fst similar.heading

theorem parameters (similar : Declared.Similar declared declared') :
    declared.declaration.parameters.map (·.unplaced) =
      declared'.declaration.parameters.map (·.unplaced) :=
  congrArg Prod.snd similar.heading

theorem count (similar : Declared.Similar declared declared') :
    declared.declaration.parameters.length =
      declared'.declaration.parameters.length := by
  have same := congrArg List.length similar.parameters
  rwa [List.length_map, List.length_map] at same

end Declared.Similar

/-- A package declares a further type; every other name stands for what it stands for in the first
package, up to places. -/
structure Package.Gains
    (package : Package) (added : Declared) (package' : Package) : Prop where
  path : package.path = package'.path
  constant? : ∀ name, package.constant? name = package'.constant? name
  declared : ∃ front back, package'.declared = front ++ added :: back ∧
    List.Forall₂ Declared.Similar package.declared (front ++ back)
  isNew : package.type? added.name = none

namespace Package.Gains

variable {package package' : Package} {added : Declared}

/-- None of the other types has the name of the further one. -/
theorem exists_split
    (gains : package.Gains added package') :
    ∃ front back, package'.declared = front ++ added :: back ∧
      List.Forall₂ Declared.Similar package.declared (front ++ back) ∧
        package.declared.map (·.name) = (front ++ back).map (·.name) ∧
          added.name ∉ (front ++ back).map (·.name) := by
  rcases gains.declared with ⟨front, back, isDeclared, similar⟩
  have sameNames :
      package.declared.map (·.name) = (front ++ back).map (·.name) :=
    map_eq_of_forall₂ similar fun _ _ similar => similar.name
  refine ⟨front, back, isDeclared, similar, sameNames, ?_⟩
  rw [← sameNames]
  intro isOld
  rcases List.mem_map.mp isOld with ⟨other, isOther, sameName⟩
  exact List.find?_eq_none.mp gains.isNew other isOther
    (decide_eq_true sameName)

theorem nodup
    (gains : package.Gains added package')
    (distinct : (package.declared.map (·.name)).Nodup) :
    (package'.declared.map (·.name)).Nodup := by
  rcases gains.exists_split with
    ⟨front, back, isDeclared, -, sameNames, isNew⟩
  rw [isDeclared, List.map_append, List.map_cons, List.nodup_middle,
    ← List.map_append]
  exact List.nodup_cons.mpr ⟨isNew, sameNames ▸ distinct⟩

/-- The further type is found by its name. -/
theorem type?_added
    (gains : package.Gains added package') :
    package'.type? added.name = some added := by
  rcases gains.exists_split with ⟨front, back, isDeclared, -, -, isNew⟩
  have notFront :
      front.find? (fun declared => declared.name = added.name) = none := by
    rw [List.find?_eq_none]
    intro other isOther sameName
    apply isNew
    rw [List.map_append]
    exact List.mem_append_left _
      (List.mem_map.mpr ⟨other, isOther, of_decide_eq_true sameName⟩)
  rw [Package.type?, isDeclared, List.find?_append, notFront,
    Option.none_or, List.find?_cons_of_pos (by simp)]

theorem type?_of_ne
    (gains : package.Gains added package') {name : String}
    (notNew : name ≠ added.name) :
    Option.Rel Declared.Similar (package.type? name)
      (package'.type? name) := by
  rcases gains.declared with ⟨front, back, isDeclared, similar⟩
  have passes : ∀ declared ∈ [added],
      decide (declared.name = name) = false := by
    simpa using notNew.symm
  rw [Package.type?, Package.type?, isDeclared, ← List.singleton_append,
    find?_insert passes]
  refine find?_related similar ?_
  intro declared declared' same
  rw [same.name]

end Package.Gains

/-- The types that a file declares with a further one. -/
theorem SourceFile.Gains.declared
    {file file' : SourceFile} {added : TypeDeclaration}
    (gains : file.Gains added file')
    (hasName : added.identifier.name ≠ "_")
    (path : String) (text text' : List Char) :
    ∃ front back,
      PackageFile.declared ⟨path, text', file'⟩ =
          front ++ ⟨⟨path, text', file'⟩, added⟩ :: back ∧
        List.Forall₂ Declared.Similar
          (PackageFile.declared ⟨path, text, file⟩) (front ++ back) := by
  rcases gains.types with
    ⟨first, later, first', later', isFile, isFile', sameFirst, sameLater⟩
  have sameTypes :
      (first' ++ later').map (·.unplaced) =
        (first ++ later).map (·.unplaced) := by
    rw [List.map_append, List.map_append, sameFirst, sameLater]
  let named (types : List TypeDeclaration) :=
    types.filter (·.identifier.name ≠ "_")
  let inFile (types : List TypeDeclaration) : List Declared :=
    (named types).map fun declaration => ⟨⟨path, text', file'⟩, declaration⟩
  refine ⟨inFile first', inFile later', ?_, ?_⟩
  · rw [PackageFile.declared, isFile', List.filter_append,
      List.filter_cons_of_pos (by simpa using hasName), List.map_append,
      List.map_cons]
  · have each :
        List.Forall₂
          (fun declaration declaration' : TypeDeclaration =>
            declaration.unplaced = declaration'.unplaced)
          (named (first ++ later)) (named (first' ++ later')) := by
      refine filter_related (forall₂_of_map_eq sameTypes.symm) ?_
      intro declaration declaration' same
      have sameName :
          declaration.identifier.name = declaration'.identifier.name :=
        congrArg (·.identifier.name) same
      rw [sameName]
    have isInner :
        inFile first' ++ inFile later' =
          (named (first' ++ later')).map fun declaration =>
            ⟨⟨path, text', file'⟩, declaration⟩ := by
      simp only [inFile, named, List.filter_append, List.map_append]
    rw [PackageFile.declared, isFile, isInner,
      List.forall₂_map_left_iff, List.forall₂_map_right_iff]
    refine each.imp fun declaration declaration' same => ⟨?_, ?_⟩
    · exact congrArg
        (fun declaration => (declaration.identifier.name,
          declaration.parameters)) same
    · exact PackageFile.importPath?_of_unplaced gains.imports.symm

/-- A package declares a further type if one of its files does. -/
theorem SourceFile.Gains.package
    {file file' : SourceFile} {declaration : TypeDeclaration}
    (gains : file.Gains declaration file')
    (hasName : declaration.identifier.name ≠ "_")
    {name directory path : String} {text text' : List Char}
    {before after : List PackageFile}
    (isNew : (Package.mk name directory
      (before ++ ⟨path, text, file⟩ :: after)).type?
        declaration.identifier.name = none) :
    (Package.mk name directory (before ++ ⟨path, text, file⟩ :: after)).Gains
      ⟨⟨path, text', file'⟩, declaration⟩
      (.mk name directory (before ++ ⟨path, text', file'⟩ :: after)) where
  path := rfl
  constant? := by
    have same (files : List PackageFile) :
        List.Forall₂
          (fun constant constant' : ConstantDeclaration =>
            constant.unplaced = constant'.unplaced)
          (files.flatMap (·.constants)) (files.flatMap (·.constants)) :=
      List.forall₂_same.mpr fun _ _ => rfl
    apply Package.constant?_of_unplaced
    rw [List.flatMap_append, List.flatMap_append, List.flatMap_cons,
      List.flatMap_cons]
    exact List.rel_append (same before) (List.rel_append
      (PackageFile.constants_of_unplaced gains.constants.symm) (same after))
  declared := by
    have same (files : List PackageFile) :
        List.Forall₂ Declared.Similar (files.flatMap (·.declared))
          (files.flatMap (·.declared)) :=
      List.forall₂_same.mpr fun declared _ => .refl declared
    rcases gains.declared hasName path text text' with
      ⟨front, back, isDeclared, similar⟩
    refine ⟨before.flatMap (·.declared) ++ front,
      back ++ after.flatMap (·.declared), ?_, ?_⟩
    · rw [declared_insert, isDeclared]
      simp
    · rw [declared_insert, List.append_assoc, ← List.append_assoc front]
      exact List.rel_append (same before)
        (List.rel_append similar (same after))
  isNew := isNew

/-- A line that declares a free name may be put in front of the declaration of any type, and the
package is loaded again. -/
theorem ofTexts_inserted
    {directory path name : String} {texts : List (String × List Char)}
    {package : Package} {declared : Declared}
    (loads : Package.ofTexts directory path texts = .ok package)
    (found : package.type? name = some declared) :
    ∃ before front back after,
      texts =
          before ++ (declared.file.path, declared.file.text) :: after ∧
        declared.file.text = front ++ back ∧
        ∀ line Means, DeclaresType line Means →
          (∀ added, Means added → added.identifier.name ≠ "_" ∧
            package.type? added.identifier.name = none) →
          ∃ package' added,
            Package.ofTexts directory path
                (before ++
                  (declared.file.path, front ++ (line ++ back)) :: after) =
              .ok package' ∧
            Means added.declaration ∧ package.Gains added package' ∧
            ∀ name, declared.file.importPath? name =
              added.file.importPath? name := by
  have isDeclared := List.mem_of_find?_eq_some found
  rcases List.mem_flatMap.mp isDeclared with ⟨file, isFile, inFile⟩
  rcases List.mem_map.mp inFile with ⟨declaration, inTypes, rfl⟩
  have inTypes := (List.mem_filter.mp inTypes).1
  rcases bind_eq_ok loads with ⟨files, scanned, loadsFiles⟩
  rcases ofFiles_eq_ok.mp loadsFiles with
    ⟨-, isPackage, sameName, distinct⟩
  rw [isPackage] at isFile
  rcases List.append_of_mem isFile with ⟨filesBefore, filesAfter, rfl⟩
  rcases exists_split_of_forall₂ (mapM_eq_ok scanned) with
    ⟨before, ⟨path', text⟩, after, rfl, relatedBefore, reads,
      relatedAfter⟩
  rcases ofText_eq_ok reads with ⟨syntaxTree, parses, rfl⟩
  rcases ofSource_inserted parses inTypes with ⟨front, back, rfl, inserts⟩
  refine ⟨before, front, back, after, rfl, rfl, ?_⟩
  intro line Means declares isFree
  rcases inserts line Means declares with
    ⟨syntaxTree', addedType, parses', means, gains⟩
  rcases isFree addedType means with ⟨hasName, isNew⟩
  let file' : PackageFile :=
    ⟨path', front ++ (line ++ back), syntaxTree'⟩
  let added : Declared := ⟨file', addedType⟩
  let package' : Package :=
    ⟨package.name, path, filesBefore ++ file' :: filesAfter⟩
  have reads' :
      PackageFile.ofText path' (front ++ (line ++ back)) = .ok file' := by
    rw [PackageFile.ofText, parses']
  have gains' : package.Gains added package' := by
    rw [isPackage] at isNew ⊢
    exact gains.package hasName isNew
  have distinct' := gains'.nodup distinct
  have loads' :
      Package.ofFiles directory path (filesBefore ++ file' :: filesAfter) =
        .ok package' := by
    refine ofFiles_eq_ok.mpr ⟨by simp, rfl, ?_, distinct'⟩
    intro other isOther
    rcases List.mem_append.mp isOther with isBefore | isOther
    · exact sameName other (List.mem_append_left _ isBefore)
    · rcases List.mem_cons.mp isOther with rfl | isAfter
      · exact gains.name.trans (sameName ⟨path', front ++ back, syntaxTree⟩
          (List.mem_append_right _ List.mem_cons_self))
      · exact sameName other
          (List.mem_append_right _ (List.mem_cons_of_mem _ isAfter))
  refine ⟨package', added, ?_, means, gains',
    PackageFile.importPath?_of_unplaced gains.imports.symm⟩
  rw [Package.ofTexts, mapM_of_forall₂ (List.rel_append relatedBefore
    (.cons reads' relatedAfter)), ok_bind, loads']

/-! ## Scopes -/

theorem Scope.ExtendedBy.readsBack
    {scope scope' : Scope} {qualify : Qualifier} {node : GoType}
    (extended : scope.ExtendedBy scope')
    (readsBack : scope.ReadsBack qualify node) :
    scope'.ReadsBack qualify node := by
  refine readsBack.mono ?_
  intro qualifier name arguments type found owner identifier span
    qualified sameName
  exact persists_resolve extended owner identifier arguments.length span
    arguments type (found owner identifier span qualified sameName)

namespace Declared

variable {declared : Declared}

/-- A declared type in a file of its own, which has the imports of its file. -/
def apart (declared : Declared) : Declared :=
  ⟨⟨"", [], ⟨declared.declaration.identifier,
    declared.file.syntaxTree.imports, [declared.declaration], []⟩⟩,
    declared.declaration⟩

theorem similar_apart : Declared.Similar declared.apart declared :=
  ⟨rfl, fun _ => rfl⟩

theorem declared_apart (hasName : declared.name ≠ "_") :
    declared.apart.file.declared = [declared.apart] := by
  have isKept :
      [declared.declaration].filter (·.identifier.name ≠ "_") =
        [declared.declaration] :=
    List.filter_cons_of_pos (decide_eq_true hasName)
  exact congrArg (List.map fun declaration =>
    Declared.mk declared.apart.file declaration) isKept

end Declared

/-- A package with a further type in a file of its own. -/
def Package.withApart (package : Package) (added : Declared) : Package :=
  ⟨package.name, package.path, [] ++ added.apart.file :: package.files⟩

namespace Package.Gains

variable {package package' : Package} {added declared declared' : Declared}

theorem extendedBy_withApart
    (gains : package.Gains added package') (hasName : added.name ≠ "_")
    (notUniversal : Scope.universal? added.name = none) :
    package.ExtendedBy (package.withApart added) := by
  show (Package.mk package.name package.path
    ([] ++ package.files)).ExtendedBy _
  refine extendedBy_insert ?_ fun constant isConstant => ?_
  · rw [Declared.declared_apart hasName]
    intro other isOther
    rw [List.mem_singleton.mp isOther]
    exact ⟨gains.isNew, notUniversal⟩
  · cases isConstant

theorem type?_withApart
    (gains : package.Gains added package') (hasName : added.name ≠ "_")
    (name : String) :
    Option.Rel Declared.Similar ((package.withApart added).type? name)
      (package'.type? name) := by
  have isApart := Declared.declared_apart hasName
  by_cases isNew : name = added.name
  · have found :
        (package.withApart added).type? name = some added.apart := by
      rw [isNew, Package.type?, Package.withApart, declared_insert, isApart]
      exact List.find?_cons_of_pos (decide_eq_true rfl)
    rw [found, isNew, gains.type?_added]
    exact .some Declared.similar_apart
  · have same :
        (package.withApart added).type? name = package.type? name := by
      show _ = (Package.mk package.name package.path
        ([] ++ package.files)).type? name
      rw [Package.withApart]
      refine type?_insert ?_
      rw [isApart]
      intro other isOther
      rw [List.mem_singleton.mp isOther]
      exact Ne.symm isNew
    rw [same]
    exact gains.type?_of_ne isNew

/-- Two scopes agree if they differ in where the further type stands only. -/
theorem agrees
    {scope scope' : Scope}
    (gains : package.Gains added package') (hasName : added.name ≠ "_")
    (isPackage : scope.package = package.withApart added)
    (isPackage' : scope'.package = package')
    (isParameter : ∀ name,
      scope.isParameter name = scope'.isParameter name)
    (importPath? : ∀ name,
      scope.file.importPath? name = scope'.file.importPath? name)
    (carried : ∀ declared declared', Declared.Similar declared declared' →
      SameResult (scope.carried declared) (scope'.carried declared')) :
    scope.Agrees scope' where
  path := by
    rw [isPackage, isPackage']
    exact gains.path
  isParameter := isParameter
  importPath? := importPath?
  constant? := fun name => by
    have same :
        (package.withApart added).constant? name =
          (Package.mk package.name package.path
            ([] ++ package.files)).constant? name :=
      constant?_insert fun constant isConstant => by cases isConstant
    rw [isPackage, isPackage', same]
    exact gains.constant? name
  declared := fun name => by
    rw [isPackage, isPackage']
    have found := gains.type?_withApart hasName name
    generalize (package.withApart added).type? name = first at found ⊢
    generalize package'.type? name = second at found ⊢
    cases found with
    | none => exact .none
    | some similar =>
        exact .some ⟨similar.name, similar.count, carried _ _ similar⟩

theorem agrees_shallow
    (gains : package.Gains added package') (hasName : added.name ≠ "_")
    (similar : Declared.Similar declared declared') :
    (Scope.shallow (package.withApart added) declared).Agrees
      (Scope.shallow package' declared') :=
  gains.agrees hasName rfl rfl (isParameter_of_unplaced similar.parameters)
    similar.importPath? fun _ _ _ => .refl _

/-- What is read back in the scope of a declaration is so where a declaration with the same names
of type parameters and the same imports stands beside the further type. -/
theorem readsBack
    {qualify : Qualifier} {node : GoType}
    (gains : package.Gains added package') (hasName : added.name ≠ "_")
    (notUniversal : Scope.universal? added.name = none)
    (isParameter : ∀ name,
      (Scope.ofDeclared package declared).isParameter name =
        (Scope.ofDeclared package' declared').isParameter name)
    (importPath? : ∀ name,
      declared.file.importPath? name = declared'.file.importPath? name)
    (readsBack :
      (Scope.ofDeclared package declared).ReadsBack qualify node) :
    (Scope.ofDeclared package' declared').ReadsBack qualify node := by
  -- The further type first joins in a file of its own, which extends the package.  After that
  -- nothing but places is different.
  have extended := gains.extendedBy_withApart hasName notUniversal
  have agrees :
      (Scope.ofDeclared (package.withApart added) declared).Agrees
        (Scope.ofDeclared package' declared') := by
    refine gains.agrees hasName rfl rfl isParameter importPath? ?_
    intro other other' similar
    exact sameResult_denoteParameters
      (gains.agrees_shallow hasName similar) similar.parameters
  exact agrees.readsBack ((extended.ofDeclared declared).readsBack readsBack)

end Package.Gains

end GoUnion
