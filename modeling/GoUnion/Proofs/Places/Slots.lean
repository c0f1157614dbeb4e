import GoUnion.Proofs.FileGrammar.Soundness
import GoUnion.Proofs.Places.Files

/-!
# Another struct in the place of one

The struct that a type is declared as is one piece of the tokens of its file.
Other tokens that form a struct may stand in that place, and the file declares
the same apart from it.  Every level of the grammar hands the place on to the
level above it.
-/

namespace GoUnion.Reader

open Token
open Text (Span)

variable {source : List Char} (source' : List Char)
  {tokens : List Token} {record : TypeExpr}

/-- Tokens from the keyword of a struct to its closing brace. -/
structure FormsRecord
    (source : List Char) (tokens : List Token) (record : TypeExpr) :
    Prop where
  isStruct : kind tokens = .keyword .struct
  reads : Reads source tokens (.type record)

/-- Some tokens contain those of a struct, and something holds with any other struct in their
place. -/
def HasSlot
    (source : List Char) (record : TypeExpr) (source' : List Char)
    (Fits : TypeExpr → List Token → Prop) (tokens : List Token) : Prop :=
  ∃ front piece back, tokens = front ++ (piece ++ back) ∧
    FormsRecord source piece record ∧
      ∀ front' piece' back' record',
        words front = words front' → words back = words back' →
          FormsRecord source' piece' record' →
            Fits record' (front' ++ (piece' ++ back'))

variable {source'} {Fits Fits' : TypeExpr → List Token → Prop}

theorem HasSlot.imp
    (slot : HasSlot source record source' Fits tokens)
    (implies : ∀ record' tokens',
      Fits record' tokens' → Fits' record' tokens') :
    HasSlot source record source' Fits' tokens := by
  rcases slot with ⟨front, piece, back, shape, forms, fits⟩
  refine ⟨front, piece, back, shape, forms, ?_⟩
  intro front' piece' back' record' sameFront sameBack forms'
  exact implies _ _
    (fits front' piece' back' record' sameFront sameBack forms')

theorem HasSlot.ne_nil
    (slot : HasSlot source record source' Fits tokens) :
    tokens ≠ [] := by
  rcases slot with ⟨front, piece, back, rfl, forms, -⟩
  intro isEmpty
  rcases List.append_eq_nil_iff.mp isEmpty with ⟨-, isEmpty⟩
  rcases List.append_eq_nil_iff.mp isEmpty with ⟨isEmpty, -⟩
  exact forms.reads.ne_nil isEmpty

/-- The place of a struct in a piece is one in the tokens around the piece. -/
theorem HasSlot.within
    (slot : HasSlot source record source' Fits tokens)
    (front back : List Token)
    (implies : ∀ front' tokens' back' record',
      words front = words front' → words back = words back' →
        Fits record' tokens' →
          Fits' record' (front' ++ (tokens' ++ back'))) :
    HasSlot source record source' Fits'
      (front ++ (tokens ++ back)) := by
  rcases slot with ⟨before, piece, behind, rfl, forms, fits⟩
  refine ⟨front ++ before, piece, behind ++ back, by simp, forms, ?_⟩
  intro allBefore' piece' allBehind' record' sameBefore sameBehind forms'
  rcases exists_append_of_words sameBefore with
    ⟨front', before', rfl, sameFront, sameBefore⟩
  rcases exists_append_of_words sameBehind with
    ⟨behind', back', rfl, sameBehind, sameBack⟩
  have inner :=
    fits before' piece' behind' record' sameBefore sameBehind forms'
  have outer := implies front' _ back' record' sameFront sameBack inner
  simpa only [List.append_assoc] using outer

/-! ## Types -/

variable {span : Span} {fields : List FieldExpr}

variable (source')

/-- The tokens of a struct, perhaps in parentheses, are a place for another. -/
theorem Reads.hasSlot
    {phrase : Phrase} (reads : Reads source tokens phrase)
    (isRecord : phrase = .type (.record span fields)) :
    HasSlot source (.record span fields) source'
      (fun record' tokens' => Reads source' tokens' (.type record') ∧
        kind tokens' ≠ .symbol .leftBracket) tokens := by
  induction reads with
  | named reads =>
      cases isRecord
      cases reads
  | @parens opening closing tokens expression opens _ closes ih =>
      refine (ih isRecord).within [opening] [closing] ?_
      rintro front' tokens' back' record' sameFront sameBack ⟨reads', -⟩
      rcases exists_singleton_of_words sameFront with
        ⟨opening', rfl, sameOpening⟩
      rcases exists_singleton_of_words sameBack with
        ⟨closing', rfl, sameClosing⟩
      have opens' : opening'.kind = .symbol .leftParen :=
        kind_congr sameOpening ▸ opens
      exact ⟨.parens opens' reads' (kind_congr sameClosing ▸ closes),
        by simp [opens']⟩
  | @record word opening tokens parts isStruct opens enclosed reads =>
      cases isRecord
      refine ⟨[], word :: opening :: tokens, [], by simp,
        ⟨isStruct, .record isStruct opens enclosed reads⟩, ?_⟩
      intro front' piece' back' record' sameFront sameBack forms'
      cases eq_nil_of_words sameFront
      cases eq_nil_of_words sameBack
      rw [List.nil_append, List.append_nil]
      exact ⟨forms'.reads, by simp [forms'.isStruct]⟩
  | _ => cases isRecord

theorem ReadsTypeDeclaration.hasSlot
    {last : Bool} {declaration : TypeDeclaration}
    (reads : ReadsTypeDeclaration source last tokens declaration)
    (isRecord : declaration.type = .record span fields) :
    HasSlot source (.record span fields) source'
      (fun record' tokens' => ∃ declaration',
        ReadsTypeDeclaration source' last tokens' declaration' ∧
          declaration'.unplaced =
            (declaration.withType record').unplaced) tokens := by
  cases reads with
  | @declare name parameterTokens markTokens typeTokens parameters isAlias
      type isName readsParameters mark reads =>
      dsimp only at isRecord
      subst isRecord
      have shape :
          name :: (parameterTokens ++ (markTokens ++ typeTokens)) =
            (name :: (parameterTokens ++ markTokens)) ++
              (typeTokens ++ []) := by
        simp
      rw [shape]
      apply (reads.hasSlot source' rfl).within
      rintro front' tokens' back' record' sameFront sameBack
        ⟨reads', noBracket⟩
      cases eq_nil_of_words sameBack
      rcases exists_cons_of_words sameFront with
        ⟨name', _, rfl, sameName, later⟩
      rcases exists_append_of_words later with
        ⟨parameterTokens', markTokens', rfl, sameTokens, sameMark⟩
      have mark' := mark.moved sameMark
      have closed : opensParameters (markTokens' ++ tokens') = false := by
        apply opensParameters_of_kind
        cases mark' with
        | absent => exact noBracket
        | present isMark => simp [isMark]
      rcases readsParameters.moved source' (fun _ => closed) sameTokens
        with ⟨parameters', readsParameters', sameParameters⟩
      have whole :
          ReadsTypeDeclaration source' last
            (name' :: (parameterTokens' ++ (markTokens' ++ tokens')))
            ⟨identifierOf name', parameters', isAlias, record'⟩ :=
        .declare (kind_congr sameName ▸ isName) readsParameters' mark'
          reads'
      refine ⟨⟨identifierOf name', parameters', isAlias, record'⟩, ?_, ?_⟩
      · simpa only [List.cons_append, List.append_assoc, List.append_nil]
          using whole
      · rw [TypeDeclaration.unplaced, TypeDeclaration.unplaced,
          TypeDeclaration.withType, identifierOf_moved sameName,
          sameParameters]

theorem ReadsTypeDeclaration.noParens
    {last : Bool} {declaration : TypeDeclaration}
    (reads : ReadsTypeDeclaration source last tokens declaration) :
    kind tokens ≠ .symbol .leftParen := by
  cases reads with
  | declare isName => simp [isName]

/-! ## Groups -/

omit source' in
/-- One of several enclosed pieces may be replaced. -/
theorem Enclosed.slot
    {closing : TokenKind} {first later : List (List Token)}
    {piece : List Token}
    (enclosed : Enclosed closing (first ++ piece :: later) tokens) :
    ∃ front back, tokens = front ++ (piece ++ back) ∧
      ∀ front' piece' back',
        words front = words front' → words back = words back' →
          ∃ first' later',
            Enclosed closing (first' ++ piece' :: later')
                (front' ++ (piece' ++ back')) ∧
              List.Forall₂ SameWords first first' ∧
                List.Forall₂ SameWords later later' := by
  generalize shape : first ++ piece :: later = pieces at enclosed
  induction enclosed generalizing first with
  | close => simp at shape
  | @last semicolons only mark leading isClosing =>
      rcases List.append_eq_singleton_iff.mp shape with
        ⟨rfl, same⟩ | ⟨-, impossible⟩
      · cases same
        refine ⟨semicolons, [mark], rfl, ?_⟩
        intro front' piece' back' sameFront sameBack
        rcases exists_singleton_of_words sameBack with
          ⟨mark', rfl, sameMark⟩
        exact ⟨[], [],
          .last (leading.moved sameFront)
            (kind_congr sameMark ▸ isClosing), .nil, .nil⟩
      · cases impossible
  | @cons semicolons head mark pieces tokens leading isMark others ih =>
      cases first with
      | nil =>
          cases shape
          refine ⟨semicolons, mark :: tokens, rfl, ?_⟩
          intro front' piece' back' sameFront sameBack
          rcases exists_cons_of_words sameBack with
            ⟨mark', rest', rfl, sameMark, sameRest⟩
          rcases others.moved sameRest with ⟨later', others', sameLater⟩
          exact ⟨[], later',
            .cons (leading.moved sameFront)
              (kind_congr sameMark ▸ isMark) others', .nil, sameLater⟩
      | cons head' first =>
          cases shape
          rcases ih rfl with ⟨front, back, rfl, fits⟩
          refine ⟨semicolons ++ (head ++ mark :: front), back, by simp,
            ?_⟩
          intro front' piece' back' sameFront sameBack
          rcases exists_append_of_words sameFront with
            ⟨semicolons', _, rfl, sameSemicolons, sameFront⟩
          rcases exists_append_of_words sameFront with
            ⟨head', _, rfl, sameHead, sameFront⟩
          rcases exists_cons_of_words sameFront with
            ⟨mark', front', rfl, sameMark, sameFront⟩
          rcases fits front' piece' back' sameFront sameBack with
            ⟨first', later', others', sameFirst, sameLater⟩
          refine ⟨head' :: first', later', ?_, .cons sameHead sameFirst,
            sameLater⟩
          have whole :
              Enclosed closing (head' :: (first' ++ piece' :: later'))
                (semicolons' ++ (head' ++ mark' ::
                  (front' ++ (piece' ++ back')))) :=
            .cons (leading.moved sameSemicolons)
              (kind_congr sameMark ▸ isMark) others'
          simpa only [List.cons_append, List.append_assoc] using whole

/-- Declared types of which one is declared otherwise. -/
def Redeclare
    (first : List TypeDeclaration) (declaration : TypeDeclaration)
    (later : List TypeDeclaration) (record' : TypeExpr) :
    List TypeDeclaration :=
  first ++ declaration.withType record' :: later

theorem grouped_hasSlot
    {last : Bool} {first later : List TypeDeclaration}
    {declaration : TypeDeclaration}
    (grouped :
      Grouped (ReadsTypeDeclaration source) last tokens
        (first ++ declaration :: later))
    (isRecord : declaration.type = .record span fields) :
    HasSlot source (.record span fields) source'
      (fun record' tokens' => ∃ declared',
        Grouped (ReadsTypeDeclaration source') last tokens' declared' ∧
          declared'.map (·.unplaced) =
            (Redeclare first declaration later record').map
              (·.unplaced)) tokens := by
  generalize shape : first ++ declaration :: later = declared at grouped
  cases grouped with
  | single noParens reads =>
      rcases List.append_eq_singleton_iff.mp shape with
        ⟨rfl, same⟩ | ⟨-, impossible⟩
      · cases same
        apply (reads.hasSlot source' isRecord).imp
        rintro record' tokens' ⟨declaration', reads', same⟩
        refine ⟨[declaration'], .single reads'.noParens reads', ?_⟩
        rw [Redeclare, List.nil_append, List.map_singleton,
          List.map_singleton, same]
      · cases impossible
  | @several opening tokens parts opens enclosed reads =>
      rcases List.map_eq_append_iff.mp shape.symm with
        ⟨firstParts, _, rfl, rfl, others⟩
      rcases List.map_eq_cons_iff.mp others with
        ⟨part, laterParts, rfl, rfl, rfl⟩
      rw [List.map_append, List.map_cons] at enclosed
      rcases enclosed.slot with ⟨front, back, rfl, fits⟩
      have readsPart := reads part (by simp)
      have transports (parts : List (List Token × TypeDeclaration))
          (subset : parts ⊆ firstParts ++ part :: laterParts)
          {pieces' : List (List Token)}
          (same : List.Forall₂ SameWords (parts.map (·.1)) pieces') :=
        exists_moved_parts (ReadsTypeDeclaration source' false)
          (fun declared declared' =>
            declared'.unplaced = declared.unplaced) same
          (fun part isIn tokens' =>
            (reads part (subset isIn)).moved source')
      show HasSlot _ _ _ _ ((opening :: front) ++ (part.1 ++ back))
      apply (readsPart.hasSlot source' isRecord).within
      rintro allFront' piece' back' record' sameFront sameBack
        ⟨declaration', reads', same⟩
      rcases exists_cons_of_words sameFront with
        ⟨opening', front', rfl, sameOpening, sameFront⟩
      rcases fits front' piece' back' sameFront sameBack with
        ⟨first', later', enclosed', sameFirst, sameLater⟩
      rcases transports firstParts (List.subset_append_left _ _) sameFirst
        with ⟨firstParts', rfl, readsFirst, sameFirst⟩
      rcases transports laterParts (by simp) sameLater
        with ⟨laterParts', rfl, readsLater, sameLater⟩
      refine ⟨(firstParts' ++ (piece', declaration') ::
        laterParts').map (·.2), ?_, ?_⟩
      · refine .several (kind_congr sameOpening ▸ opens) ?_ ?_
        · simpa using enclosed'
        · intro part isIn
          rcases List.mem_append.mp isIn with isFirst | isLater
          · exact readsFirst part isFirst
          · rcases List.mem_cons.mp isLater with rfl | isLater
            · exact reads'
            · exact readsLater part isLater
      · rw [Redeclare, List.map_append, List.map_append, List.map_append,
          List.map_cons, List.map_cons, List.map_cons, same,
          map_eq_map_of_forall₂ sameFirst, map_eq_map_of_forall₂ sameLater]

/-! ## Declarations -/

theorem ReadsDeclaration.hasSlot
    {last : Bool} {first later : List TypeDeclaration}
    {declaration : TypeDeclaration}
    (reads :
      ReadsDeclaration source last tokens
        (.types (first ++ declaration :: later)))
    (isRecord : declaration.type = .record span fields) :
    HasSlot source (.record span fields) source'
      (fun record' tokens' => ∃ declared',
        ReadsDeclaration source' last tokens' declared' ∧
          declared'.unplaced =
            (Declaration.types
              (Redeclare first declaration later record')).unplaced)
      tokens := by
  cases reads with
  | @types word tokens _ isType grouped =>
      have shape : word :: tokens = [word] ++ (tokens ++ []) := by simp
      rw [shape]
      apply (grouped_hasSlot source' grouped isRecord).within
      rintro front' tokens' back' record' sameFront sameBack
        ⟨declared', grouped', same⟩
      cases eq_nil_of_words sameBack
      rcases exists_singleton_of_words sameFront with
        ⟨word', rfl, sameWord⟩
      refine ⟨.types declared', ?_, ?_⟩
      · rw [List.append_nil]
        exact .types (kind_congr sameWord ▸ isType) grouped'
      · rw [Declaration.unplaced, Declaration.unplaced, same]

theorem ReadsDeclarations.hasSlot
    {before after : List Declaration} {first later : List TypeDeclaration}
    {declaration : TypeDeclaration}
    (reads :
      ReadsDeclarations source tokens
        (before ++ .types (first ++ declaration :: later) :: after))
    (isRecord : declaration.type = .record span fields) :
    HasSlot source (.record span fields) source'
      (fun record' tokens' => ∃ declarations',
        ReadsDeclarations source' tokens' declarations' ∧
          declarations'.map (·.unplaced) =
            (before ++ .types (Redeclare first declaration later record') ::
              after).map (·.unplaced)) tokens := by
  generalize shape :
    before ++ .types (first ++ declaration :: later) :: after =
      declarations at reads
  induction reads generalizing before with
  | done => simp at shape
  | @more semicolons tokens ending next head others leading reads ends
      rest ih =>
      cases before with
      | nil =>
          cases shape
          apply (reads.hasSlot source' isRecord).within
          rintro front' tokens' back' record' sameFront sameBack
            ⟨first', reads', same⟩
          rcases exists_append_of_words sameBack with
            ⟨ending', next', rfl, sameEnding, sameNext⟩
          rw [← atEnd_moved sameEnding] at reads'
          rcases rest.moved source' sameNext with
            ⟨others', rest', sameOthers⟩
          refine ⟨first' :: others',
            .more (leading.moved sameFront) reads'
              (ends.moved sameEnding sameNext) rest', ?_⟩
          rw [List.nil_append, List.map_cons, List.map_cons, same,
            sameOthers]
      | cons head' before =>
          cases shape
          have slot := ih rfl
          cases ends with
          | endOfFile => exact absurd rfl slot.ne_nil
          | @semicolon mark next isMark =>
              have shape :
                  semicolons ++ (tokens ++ ([mark] ++ next)) =
                    (semicolons ++ (tokens ++ [mark])) ++
                      (next ++ []) := by
                simp
              rw [shape]
              apply slot.within
              rintro front' next' back' record' sameFront sameBack
                ⟨others', rest', sameOthers⟩
              cases eq_nil_of_words sameBack
              rcases exists_append_of_words sameFront with
                ⟨semicolons', _, rfl, sameSemicolons, sameFront⟩
              rcases exists_append_of_words sameFront with
                ⟨tokens', _, rfl, sameTokens, sameEnding⟩
              rcases exists_singleton_of_words sameEnding with
                ⟨mark', rfl, sameMark⟩
              rcases reads.moved source' sameTokens with
                ⟨first', reads', sameFirst⟩
              have whole :
                  ReadsDeclarations source'
                    (semicolons' ++ (tokens' ++ ([mark'] ++ next')))
                    (first' :: others') :=
                .more (leading.moved sameSemicolons) reads'
                  (.semicolon (kind_congr sameMark ▸ isMark)) rest'
              refine ⟨first' :: others', ?_, ?_⟩
              · simpa only [List.append_assoc, List.append_nil] using whole
              · rw [List.cons_append, List.map_cons, List.map_cons,
                  sameFirst, sameOthers]

/-! ## Files -/

theorem ReadsImports.hasSlot
    {specs : List ImportSpec} {before after : List Declaration}
    {first later : List TypeDeclaration} {declaration : TypeDeclaration}
    (reads :
      ReadsImports source tokens specs
        (before ++ .types (first ++ declaration :: later) :: after))
    (isRecord : declaration.type = .record span fields) :
    HasSlot source (.record span fields) source'
      (fun record' tokens' => ∃ specs' declarations',
        ReadsImports source' tokens' specs' declarations' ∧
          specs'.map (·.unplaced) = specs.map (·.unplaced) ∧
          declarations'.map (·.unplaced) =
            (before ++ .types (Redeclare first declaration later record') ::
              after).map (·.unplaced)) tokens := by
  generalize shape :
    before ++ .types (first ++ declaration :: later) :: after =
      declarations at reads
  induction reads with
  | none rest =>
      subst shape
      apply (rest.hasSlot source' isRecord).imp
      rintro record' tokens' ⟨declarations', rest', same⟩
      exact ⟨[], declarations', .none rest', rfl, same⟩
  | @more semicolons tokens ending next word head others _ leading isImport
      grouped ends rest ih =>
      have slot := ih shape
      cases ends with
      | endOfFile => exact absurd rfl slot.ne_nil
      | @semicolon mark next isMark =>
          have shape :
              semicolons ++ word :: (tokens ++ ([mark] ++ next)) =
                (semicolons ++ word :: (tokens ++ [mark])) ++
                  (next ++ []) := by
            simp
          rw [shape]
          apply slot.within
          rintro front' next' back' record' sameFront sameBack
            ⟨specs', declarations', rest', sameSpecs, same⟩
          cases eq_nil_of_words sameBack
          rcases exists_append_of_words sameFront with
            ⟨semicolons', _, rfl, sameSemicolons, sameFront⟩
          rcases exists_cons_of_words sameFront with
            ⟨word', _, rfl, sameWord, sameFront⟩
          rcases exists_append_of_words sameFront with
            ⟨tokens', _, rfl, sameTokens, sameEnding⟩
          rcases exists_singleton_of_words sameEnding with
            ⟨mark', rfl, sameMark⟩
          rcases grouped.moved ReadsImport
              (fun spec spec' => spec'.unplaced = spec.unplaced)
              (fun _ _ _ _ => ReadsImport.moved) sameTokens with
            ⟨head', grouped', sameHead⟩
          have whole :
              ReadsImports source'
                (semicolons' ++ word' :: (tokens' ++ ([mark'] ++ next')))
                (head' ++ specs') declarations' :=
            .more (leading.moved sameSemicolons)
              (kind_congr sameWord ▸ isImport) grouped'
              (.semicolon (kind_congr sameMark ▸ isMark)) rest'
          refine ⟨head' ++ specs', declarations', ?_, ?_, same⟩
          · simpa only [List.append_assoc, List.cons_append,
              List.append_nil] using whole
          · rw [List.map_append, List.map_append, sameSpecs,
              map_eq_map_of_forall₂ sameHead]

/-- Another struct may stand in the place of a declared one, and the file declares the same
otherwise. -/
theorem ReadsFile.hasSlot
    {file : SourceFile} {declaration : TypeDeclaration}
    (reads : ReadsFile source tokens file)
    (isDeclared : declaration ∈ file.types)
    (isRecord : declaration.type = .record span fields) :
    ∃ first later, file.types = first ++ declaration :: later ∧
      HasSlot source (.record span fields) source'
        (fun record' tokens' => ∃ file', ReadsFile source' tokens' file' ∧
          file'.unplaced =
            SourceFile.unplaced
              ⟨file.package, file.imports,
                Redeclare first declaration later record',
                file.constants⟩) tokens := by
  cases reads with
  | @file semicolons ending next word name imports declarations leading
      isPackage isName ends rest =>
      rcases List.mem_flatMap.mp isDeclared with ⟨group, isIn, inGroup⟩
      cases group with
      | constants | skipped => cases inGroup
      | types declared =>
          rcases List.append_of_mem isIn with ⟨before, after, rfl⟩
          rcases List.append_of_mem inGroup with ⟨first, later, rfl⟩
          let typesOf (declarations : List Declaration) :=
            (SourceFile.ofDeclarations (identifierOf name) imports
              declarations).types
          have cut (middle : List TypeDeclaration) :
              typesOf (before ++ .types middle :: after) =
                typesOf before ++ (middle ++ typesOf after) := by
            simp [typesOf, SourceFile.ofDeclarations]
          refine ⟨typesOf before ++ first, later ++ typesOf after, ?_, ?_⟩
          · show typesOf _ = _
            rw [cut]
            simp
          · have slot := rest.hasSlot source' isRecord
            cases ends with
            | endOfFile => exact absurd rfl slot.ne_nil
            | @semicolon mark next isMark =>
                have shape :
                    semicolons ++ word :: name :: ([mark] ++ next) =
                      (semicolons ++ [word, name, mark]) ++
                        (next ++ []) := by
                  simp
                rw [shape]
                apply slot.within
                rintro front' next' back' record' sameFront sameBack
                  ⟨specs', declarations', rest', sameSpecs, same⟩
                cases eq_nil_of_words sameBack
                rcases exists_append_of_words sameFront with
                  ⟨semicolons', _, rfl, sameSemicolons, sameFront⟩
                rcases exists_cons_of_words sameFront with
                  ⟨word', _, rfl, sameWord, sameFront⟩
                rcases exists_cons_of_words sameFront with
                  ⟨name', _, rfl, sameName, sameFront⟩
                rcases exists_singleton_of_words sameFront with
                  ⟨mark', rfl, sameMark⟩
                have whole :
                    ReadsFile source'
                      (semicolons' ++ word' :: name' ::
                        ([mark'] ++ next'))
                      (.ofDeclarations (identifierOf name') specs'
                        declarations') :=
                  .file (leading.moved sameSemicolons)
                    (kind_congr sameWord ▸ isPackage)
                    (kind_congr sameName ▸ isName)
                    (.semicolon (kind_congr sameMark ▸ isMark)) rest'
                refine ⟨_, by simpa using whole, ?_⟩
                rw [unplaced_ofDeclarations, same, sameSpecs,
                  identifierOf_moved sameName, ← unplaced_ofDeclarations]
                have constants (middle : List TypeDeclaration) :
                    (SourceFile.ofDeclarations (identifierOf name) imports
                      (before ++ .types middle :: after)).constants =
                    (SourceFile.ofDeclarations (identifierOf name) imports
                      (before ++
                        .types (first ++ declaration :: later) ::
                          after)).constants := by
                  simp [SourceFile.ofDeclarations]
                have types :
                    typesOf (before ++
                      .types (Redeclare first declaration later record') ::
                        after) =
                      Redeclare (typesOf before ++ first) declaration
                        (later ++ typesOf after) record' := by
                  rw [cut]
                  simp [Redeclare]
                rw [SourceFile.unplaced, SourceFile.unplaced,
                  constants (Redeclare first declaration later record')]
                show SourceFile.mk _ _ ((typesOf _).map _) _ = _
                rw [types]
                rfl

end GoUnion.Reader
