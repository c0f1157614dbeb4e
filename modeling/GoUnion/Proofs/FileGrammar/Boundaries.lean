import GoUnion.Proofs.FileGrammar.Completeness

/-!
# Boundaries between declarations

The beginning of a file up to a boundary is a package clause, imports and
declarations, each ended by a semicolon.  The reader forgets how it came to a
boundary: all it keeps is what it has read.  So a file is read by reading what
stands behind a boundary and putting what was read before in front.
-/

namespace GoUnion.Reader

/-- The beginning of a file up to a boundary, with what it declares.  The imports end with the
first declaration. -/
inductive ReadsFront (source : List Char) :
    List Token → Identifier → List ImportSpec → List Declaration →
      Prop where
  | clause {semicolons : List Token} {word name mark : Token}
      (leading : Semicolons semicolons)
      (isPackage : word.kind = .keyword .package)
      (isName : name.kind = .identifier)
      (isMark : mark.kind = .symbol .semicolon) :
      ReadsFront source (semicolons ++ [word, name, mark])
        (identifierOf name) [] []
  | semicolon {front : List Token} {mark : Token} {package : Identifier}
      {specs : List ImportSpec} {declared : List Declaration}
      (before : ReadsFront source front package specs declared)
      (isMark : mark.kind = .symbol .semicolon) :
      ReadsFront source (front ++ [mark]) package specs declared
  | imports {front tokens : List Token} {word mark : Token}
      {package : Identifier} {specs added : List ImportSpec}
      (before : ReadsFront source front package specs [])
      (isImport : word.kind = .keyword .import)
      (grouped : Grouped ReadsImport false tokens added)
      (isMark : mark.kind = .symbol .semicolon) :
      ReadsFront source (front ++ word :: (tokens ++ [mark])) package
        (specs ++ added) []
  | declares {front tokens : List Token} {mark : Token}
      {package : Identifier} {specs : List ImportSpec}
      {declared : List Declaration} {next : Declaration}
      (before : ReadsFront source front package specs declared)
      (reads : ReadsDeclaration source false tokens next)
      (isMark : mark.kind = .symbol .semicolon) :
      ReadsFront source (front ++ (tokens ++ [mark])) package specs
        (declared ++ [next])

variable {source : List Char} {tokens rest ending : List Token}

/-! ## Reading one piece -/

theorem skipSemicolons_mark
    {mark : Token} (isMark : mark.kind = .symbol .semicolon)
    (rest : List Token) :
    (skipSemicolons (mark :: rest)).1 = (skipSemicolons rest).1 := by
  rw [skipSemicolons, if_pos isMark]
  rfl

theorem skipSemicolons_skipSemicolons (tokens : List Token) :
    (skipSemicolons (skipSemicolons tokens).1).1 =
      (skipSemicolons tokens).1 := by
  induction tokens with
  | nil => rfl
  | cons token tokens ih =>
      by_cases isMark : token.kind = .symbol .semicolon
      · rw [skipSemicolons_mark isMark, ih]
      · have unmoved :
            (skipSemicolons (token :: tokens)).1 = token :: tokens :=
          skipSemicolons_of_other isMark
        rw [unmoved, unmoved]

theorem declarations_mark
    {mark : Token} (isMark : mark.kind = .symbol .semicolon)
    (rest : List Token) :
    declarations source (mark :: rest) = declarations source rest := by
  rw [declarations_of_start (skipSemicolons_mark isMark rest),
    ← declarations_of_start rfl]

/-- A declaration in front is the first that is read. -/
theorem declarations_piece
    {first : Declaration}
    (reads : ReadsDeclaration source (atEnd ending) tokens first)
    (ends : Ends ending rest) :
    declarations source (tokens ++ (ending ++ rest)) =
      (declarations source rest).map (first :: ·) := by
  rcases reads.kind_ne (ending ++ rest) with ⟨notEnd, notSemicolon, -⟩
  rcases declaration_append reads ends with ⟨below, readsFirst⟩
  rw [declarations_of_start (skipSemicolons_of_other notSemicolon),
    if_neg notEnd]
  simp only [readsFirst, ok_bind]
  cases declarations source rest with
  | error fault => rfl
  | ok others => rfl

/-- The imports and the declarations from a place on. -/
def importsAndDeclarations (source : List Char) (tokens : List Token) :
    Except SyntaxError (List ImportSpec × List Declaration) := do
  let (specs, rest) ← imports tokens
  let declared ← declarations source rest.1
  return (specs, declared)

/-- Semicolons in front of imports are passed over. -/
theorem importsAndDeclarations_of_start
    {start : List Token} (same : (skipSemicolons tokens).1 = start) :
    importsAndDeclarations source tokens =
      match eat? (.keyword .import) start with
      | none => (declarations source start).map ([], ·)
      | some ⟨inner, _⟩ => do
        let (first, ⟨next, _⟩) ← group importSpec inner
        let (others, declared) ← importsAndDeclarations source next
        return (first ++ others, declared) := by
  rw [importsAndDeclarations, imports]
  generalize skipSemicolons tokens = skipped at same ⊢
  rcases skipped with ⟨first, bound⟩
  dsimp only at same ⊢
  subst same
  cases eat? (.keyword .import) first with
  | none =>
      simp only [ok_bind, Remainder.within_val, Remainder.all_val]
      cases declarations source first with
      | error fault => rfl
      | ok declared => rfl
  | some inner =>
      rcases inner with ⟨inner, shorter⟩
      dsimp only
      cases group importSpec inner with
      | error fault => rfl
      | ok result =>
          rcases result with ⟨first, ⟨next, below⟩⟩
          simp only [ok_bind, importsAndDeclarations]
          cases imports next with
          | error fault => rfl
          | ok result =>
              rcases result with ⟨others, later⟩
              simp only [ok_bind, pure_bind, bind_assoc]
              show (declarations source later.1 >>= _) = _
              cases declarations source later.1 with
              | error fault => rfl
              | ok declared => rfl

theorem importsAndDeclarations_mark
    {mark : Token} (isMark : mark.kind = .symbol .semicolon)
    (rest : List Token) :
    importsAndDeclarations source (mark :: rest) =
      importsAndDeclarations source rest := by
  rw [importsAndDeclarations_of_start (skipSemicolons_mark isMark rest),
    ← importsAndDeclarations_of_start rfl]

/-- The imports end where something else starts. -/
theorem importsAndDeclarations_of_other
    (other : kind (skipSemicolons tokens).1 ≠ .keyword .import) :
    importsAndDeclarations source tokens =
      (declarations source tokens).map ([], ·) := by
  have same :
      declarations source (skipSemicolons tokens).1 =
        declarations source tokens := by
    rw [declarations_of_start (skipSemicolons_skipSemicolons tokens),
      ← declarations_of_start rfl]
  rw [importsAndDeclarations_of_start rfl, eat?_of_kind other]
  dsimp only
  rw [same]

/-- An import declaration in front is the first that is read. -/
theorem importsAndDeclarations_piece
    {word mark : Token} {added : List ImportSpec}
    (isImport : word.kind = .keyword .import)
    (grouped : Grouped ReadsImport false tokens added)
    (isMark : mark.kind = .symbol .semicolon) (rest : List Token) :
    importsAndDeclarations source (word :: (tokens ++ mark :: rest)) =
      (importsAndDeclarations source rest).map fun (specs, declared) =>
        (added ++ specs, declared) := by
  have ends : Ends [mark] rest := .inl ⟨mark, rfl, isMark⟩
  rcases group_append importSpec
    (fun _ _ _ reads => reads.starts)
    (fun _ _ _ reads => by cases reads <;> simp)
    (fun _ _ _ reads rest _ => importSpec_append reads rest)
    grouped ends with ⟨below, readsGroup⟩
  have readsGroup' :
      group importSpec (tokens ++ mark :: rest) =
        .ok (added, ⟨rest, below⟩) := readsGroup
  have unmoved :
      (skipSemicolons (word :: (tokens ++ mark :: rest))).1 =
        word :: (tokens ++ mark :: rest) :=
    skipSemicolons_of_other (by simp [isImport])
  rw [importsAndDeclarations_of_start unmoved, eat?_cons _ isImport]
  simp only [readsGroup', ok_bind]
  cases importsAndDeclarations source rest with
  | error fault => rfl
  | ok others => rfl

/-- The package clause in front of a file gives its name. -/
theorem ofTokens_clause
    {semicolons : List Token} {word name mark : Token}
    (leading : Semicolons semicolons)
    (isPackage : word.kind = .keyword .package)
    (isName : name.kind = .identifier)
    (isMark : mark.kind = .symbol .semicolon) (rest : List Token) :
    SourceFile.ofTokens source (semicolons ++ word :: name :: mark :: rest) =
      (importsAndDeclarations source rest).map fun (specs, declared) =>
        .ofDeclarations (identifierOf name) specs declared := by
  rw [ofTokens_of_start (skipSemicolons_append_of_kind leading
    (by simp [isPackage]))]
  have terminates :
      terminator .endOfFile (mark :: rest) =
        .ok ⟨rest, Nat.le_succ rest.length⟩ :=
    terminator_append isMark rest
  simp only [expect_cons _ isPackage, ok_bind, identifier_cons _ isName,
    terminates, importsAndDeclarations]
  cases imports rest with
  | error fault => rfl
  | ok result =>
      simp only [ok_bind]
      cases declarations source result.2.1 with
      | error fault => rfl
      | ok declared => rfl

/-! ## Reading on from a boundary -/

/-- What reading a file gives from a boundary on.  There are further imports only if nothing is
declared in front. -/
def resume (source : List Char) (package : Identifier)
    (specs : List ImportSpec) (declared : List Declaration)
    (rest : List Token) : Except SyntaxError SourceFile :=
  if declared.isEmpty then
    (importsAndDeclarations source rest).map fun (others, later) =>
      .ofDeclarations package (specs ++ others) later
  else
    (declarations source rest).map fun later =>
      .ofDeclarations package specs (declared ++ later)

variable {package : Identifier} {specs : List ImportSpec}
  {declared : List Declaration} {front : List Token}

theorem resume_mark
    {mark : Token} (isMark : mark.kind = .symbol .semicolon)
    (rest : List Token) :
    resume source package specs declared (mark :: rest) =
      resume source package specs declared rest := by
  rw [resume, resume, importsAndDeclarations_mark isMark,
    declarations_mark isMark]

/-- Behind the imports only declarations are read. -/
theorem resume_of_other
    (other : kind (skipSemicolons rest).1 ≠ .keyword .import) :
    resume source package specs declared rest =
      (declarations source rest).map fun later =>
        .ofDeclarations package specs (declared ++ later) := by
  rw [resume]
  split
  case isTrue isEmpty =>
    rw [importsAndDeclarations_of_other other, List.isEmpty_iff.mp isEmpty]
    cases declarations source rest with
    | error fault => rfl
    | ok later => simp [Except.map]
  case isFalse => rfl

theorem kind_skipSemicolons_of_declaration
    {last : Bool} {next : Declaration}
    (reads : ReadsDeclaration source last tokens next)
    (rest : List Token) :
    kind (skipSemicolons (tokens ++ rest)).1 ≠ .keyword .import := by
  rcases reads.kind_ne rest with ⟨-, notSemicolon, notImport⟩
  rwa [skipSemicolons_of_other notSemicolon]

/-- A file is read by reading on from any boundary. -/
theorem ReadsFront.ofTokens_eq
    (isFront : ReadsFront source front package specs declared)
    (rest : List Token) :
    SourceFile.ofTokens source (front ++ rest) =
      resume source package specs declared rest := by
  induction isFront generalizing rest with
  | @clause semicolons word name mark leading isPackage isName isMark =>
      have shape :
          (semicolons ++ [word, name, mark]) ++ rest =
            semicolons ++ word :: name :: mark :: rest := by
        simp
      rw [shape, ofTokens_clause leading isPackage isName isMark]
      rfl
  | semicolon _ isMark ih =>
      rw [List.append_assoc, ih]
      exact resume_mark isMark rest
  | @imports front tokens word mark package specs added _ isImport grouped
      isMark ih =>
      have shape :
          (front ++ word :: (tokens ++ [mark])) ++ rest =
            front ++ word :: (tokens ++ mark :: rest) := by
        simp
      rw [shape, ih]
      simp only [resume, List.isEmpty_nil, if_true]
      rw [importsAndDeclarations_piece isImport grouped isMark]
      cases importsAndDeclarations source rest with
      | error fault => rfl
      | ok result => simp [Except.map]
  | @declares front tokens mark package specs declared next _ reads isMark
      ih =>
      have shape :
          (front ++ (tokens ++ [mark])) ++ rest =
            front ++ (tokens ++ ([mark] ++ rest)) := by
        simp
      have ends : Ends [mark] rest := .inl ⟨mark, rfl, isMark⟩
      rw [shape, ih,
        resume_of_other (kind_skipSemicolons_of_declaration reads _),
        declarations_piece reads ends, resume, if_neg (by simp)]
      cases declarations source rest with
      | error fault => rfl
      | ok later => simp [Except.map]

end GoUnion.Reader
