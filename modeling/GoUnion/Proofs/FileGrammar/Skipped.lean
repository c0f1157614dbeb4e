import GoUnion.Proofs.FileGrammar.Boundaries
import GoUnion.Proofs.FileGrammar.Delimiters
import GoUnion.Proofs.Places.Files

/-!
# Declarations without influence

A function or a variable may be declared at any boundary behind the imports of a
file, and the file declares what it declared before.  Nothing is asked of what
stands in the declaration but balanced delimiters with every semicolon inside
them: then the reader passes over all of it and over nothing behind it.
-/

namespace GoUnion.Reader

open Token

variable {source : List Char} {front back tokens : List Token}
  {package : Identifier} {specs : List ImportSpec}
  {declared : List Declaration} {file : SourceFile}

/-- The same tokens in other places form the same file, up to places. -/
theorem ofTokens_moved
    {tokens' : List Token} (source' : List Char)
    (accepted : SourceFile.ofTokens source tokens = .ok file)
    (same : words tokens = words tokens') :
    ∃ file', SourceFile.ofTokens source' tokens' = .ok file' ∧
      file'.unplaced = file.unplaced := by
  rcases ofTokens_consumes accepted with
    ⟨used, final, rfl, isEnd, readsFile⟩
  rcases exists_append_of_words same with
    ⟨used', final', rfl, sameUsed, sameFinal⟩
  rcases readsFile.moved source' sameUsed with
    ⟨file', readsFile', sameFile⟩
  have isEnd' : kind final' = .endOfFile :=
    (kind_moved sameFinal).trans isEnd
  exact ⟨file', ofTokens_append readsFile' isEnd', sameFile⟩

/-- Declarations that are passed over declare nothing. -/
theorem ofDeclarations_skipped
    (package : Identifier) (specs : List ImportSpec)
    (before after : List Declaration) :
    SourceFile.ofDeclarations package specs (before ++ .skipped :: after) =
      .ofDeclarations package specs (before ++ after) := by
  simp [SourceFile.ofDeclarations]

/-- A declaration that is passed over makes no difference at a boundary behind the imports. -/
theorem ofTokens_skipped
    {ending piece : List Token}
    (isFront : ReadsFront source front package specs declared)
    (behindImports : kind (skipSemicolons back).1 ≠ .keyword .import)
    (reads : ReadsDeclaration source (atEnd ending) piece .skipped)
    (ends : Ends ending back) :
    SourceFile.ofTokens source (front ++ (piece ++ (ending ++ back))) =
      SourceFile.ofTokens source (front ++ back) := by
  rw [isFront.ofTokens_eq, isFront.ofTokens_eq,
    resume_of_other (kind_skipSemicolons_of_declaration reads _),
    resume_of_other behindImports, declarations_piece reads ends]
  cases declarations source back with
  | error fault => rfl
  | ok later => simp [Except.map, ofDeclarations_skipped]

/-- A function or a variable may be declared at any boundary behind the imports, and the file
declares the same as before; up to places it does so wherever its tokens stand. -/
theorem ofTokens_inserted
    {body : List Token} {word mark : Token}
    (isFront : ReadsFront source front package specs declared)
    (behindImports : kind (skipSemicolons back).1 ≠ .keyword .import)
    (accepted : SourceFile.ofTokens source (front ++ back) = .ok file)
    (isWord : word.kind = .keyword .var ∨ word.kind = .keyword .func)
    (delimited : Delimited body)
    (sheltered : Sheltered (.symbol .semicolon) body)
    (isMark : mark.kind = .symbol .semicolon) :
    SourceFile.ofTokens source (front ++ word :: (body ++ mark :: back)) =
        .ok file ∧
      ∀ source' tokens',
        words (front ++ word :: (body ++ mark :: back)) = words tokens' →
          ∃ file', SourceFile.ofTokens source' tokens' = .ok file' ∧
            file'.unplaced = file.unplaced := by
  have reads :
      ReadsDeclaration source (atEnd [mark]) (word :: body) .skipped :=
    .skipped isWord (passing_zero_iff.mpr ⟨delimited, sheltered⟩)
  have ends : Ends [mark] back := .inl ⟨mark, rfl, isMark⟩
  have inserted :
      SourceFile.ofTokens source (front ++ word :: (body ++ mark :: back)) =
        .ok file :=
    (ofTokens_skipped isFront behindImports reads ends).trans accepted
  exact ⟨inserted, fun source' _ => ofTokens_moved source' inserted⟩

/-- The semicolon in the body of a function does not end its declaration. -/
theorem ofTokens_inserted_function :
    let clause : List Token :=
      [⟨.keyword .package, "package", .point 0⟩,
        ⟨.identifier, "p", .point 0⟩,
        ⟨.symbol .semicolon, ";", .point 0⟩]
    let function : List Token :=
      [⟨.keyword .func, "func", .point 0⟩, ⟨.identifier, "f", .point 0⟩,
        ⟨.symbol .leftParen, "(", .point 0⟩,
        ⟨.symbol .rightParen, ")", .point 0⟩,
        ⟨.symbol .leftBrace, "\x7b", .point 0⟩,
        ⟨.keyword .type, "type", .point 0⟩,
        ⟨.symbol .semicolon, ";", .point 0⟩,
        ⟨.symbol .rightBrace, "\x7d", .point 0⟩,
        ⟨.symbol .semicolon, ";", .point 0⟩]
    let type : List Token :=
      [⟨.keyword .type, "type", .point 0⟩, ⟨.identifier, "T", .point 0⟩,
        ⟨.identifier, "int", .point 0⟩,
        ⟨.symbol .semicolon, ";", .point 0⟩, endOfFile 0]
    ∃ file, file.types.map (·.identifier.name) = ["T"] ∧
      SourceFile.ofTokens [] (clause ++ type) = .ok file ∧
        SourceFile.ofTokens [] (clause ++ (function ++ type)) =
          .ok file := by
  intro clause function type
  let name : Token := ⟨.identifier, "T", .point 0⟩
  let int : Token := ⟨.identifier, "int", .point 0⟩
  let mark : Token := ⟨.symbol .semicolon, ";", .point 0⟩
  let word : Token := ⟨.keyword .func, "func", .point 0⟩
  let body := (function.drop 1).take 7
  have isFront :
      ReadsFront [] clause ⟨"p", .point 0⟩ [] [] :=
    .clause (List.forall_mem_nil _) rfl rfl rfl
  have reads :
      ReadsDeclaration [] false
        [⟨.keyword .type, "type", .point 0⟩, name, int] _ :=
    .types rfl (.single (by decide)
      (.declare rfl (.none (by decide)) .absent
        (.named (.plainName rfl))))
  have later :
      declarations [] type = .ok _ :=
    declarations_append
      (.more (List.forall_mem_nil _) reads (.semicolon rfl)
        (.done (List.forall_mem_nil _)))
      (by decide : kind [endOfFile 0] = .endOfFile)
  have accepted := isFront.ofTokens_eq type
  rw [resume_of_other (by decide), later, Except.map] at accepted
  have balanced : passing 0 body = some 0 := by decide
  rcases passing_zero_iff.mp balanced with ⟨delimited, sheltered⟩
  have inserted :=
    ofTokens_inserted isFront (by decide) accepted
      (.inr (rfl : word.kind = .keyword .func)) delimited sheltered
      (rfl : mark.kind = .symbol .semicolon)
  exact ⟨_, rfl, accepted, inserted.1⟩

end GoUnion.Reader
