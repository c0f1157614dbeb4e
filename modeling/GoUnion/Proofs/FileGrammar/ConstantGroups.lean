import GoUnion.Proofs.FileGrammar.Boundaries
import GoUnion.Proofs.FileGrammar.Delimiters

/-!
# Groups of constants

The value of every constant in a group, in closed form.  A specification without
expressions repeats those of the nearest one before it that has some, a name
takes the expression at its own position, and `iota` is the position of the
specification.  The reader carries the expressions in force and the position
along instead; it does not carry them out of the group.
-/

namespace GoUnion

namespace ConstantSpec

/-- The expressions of the last of some specifications that has any. -/
def lastExpressions (specs : List ConstantSpec) : List ConstantExpr :=
  ((specs.filterMap (·.expressions)).getLast?).getD []

/-- The value of the name at an index, given the expressions in force. -/
def valueAt
    (iota : Nat) (expressions : List ConstantExpr) (index : Nat) :
    ConstantValue :=
  ((expressions[index]?).map (evaluate iota)).getD .unknown

/-- The constants of some names, given the expressions in force. -/
def declaredWith
    (iota : Nat) (expressions : List ConstantExpr)
    (names : List Identifier) : List ConstantDeclaration :=
  names.zipIdx.map fun (name, index) =>
    ⟨name, valueAt iota expressions index⟩

/-- The constants of a group, each with its value. -/
def recorded (specs : List ConstantSpec) : List ConstantDeclaration :=
  specs.zipIdx.flatMap fun (spec, iota) =>
    declaredWith iota (lastExpressions (specs.take (iota + 1)))
      spec.identifiers

/-- The names from an index on take the expressions from there on. -/
theorem declare_drop
    (iota : Nat) (names : List Identifier)
    (expressions : List ConstantExpr) (start : Nat) :
    declare iota names (expressions.drop start) =
      (names.zipIdx start).map fun (name, index) =>
        ⟨name, valueAt iota expressions index⟩ := by
  induction names generalizing start with
  | nil => simp [declare]
  | cons name names ih =>
      rw [List.zipIdx_cons, List.map_cons, ← ih (start + 1)]
      have first :
          expressions[start]? = (expressions.drop start).head? := by
        simp
      have later :
          expressions.drop (start + 1) = (expressions.drop start).tail := by
        simp
      dsimp only
      rw [valueAt, first, later]
      cases expressions.drop start with
      | nil => rfl
      | cons expression others => rfl

/-- Each name takes the expression at its own index. -/
theorem declare_eq
    (iota : Nat) (names : List Identifier)
    (expressions : List ConstantExpr) :
    declare iota names expressions = declaredWith iota expressions names :=
  declare_drop iota names expressions 0

/-- A specification puts its own expressions in force, if it has any. -/
theorem lastExpressions_append
    (front : List ConstantSpec) (spec : ConstantSpec) :
    lastExpressions (front ++ [spec]) =
      spec.expressions.getD (lastExpressions front) := by
  rw [lastExpressions, lastExpressions, List.filterMap_append,
    List.getLast?_append]
  cases isNext : spec.expressions with
  | none => simp [isNext]
  | some expressions => simp [isNext]

/-- What the specifications behind some others declare. -/
theorem declareFrom_eq (front back : List ConstantSpec) :
    declareFrom front.length (lastExpressions front) back =
      (back.zipIdx front.length).flatMap fun (spec, iota) =>
        declaredWith iota
          (lastExpressions ((front ++ back).take (iota + 1)))
          spec.identifiers := by
  induction back generalizing front with
  | nil => simp [declareFrom]
  | cons spec back ih =>
      have behind := ih (front ++ [spec])
      have inForce :
          ((front ++ [spec]) ++ back).take (front.length + 1) =
            front ++ [spec] :=
        List.take_left' (by simp)
      rw [List.length_append, List.length_singleton,
        lastExpressions_append] at behind
      rw [declareFrom, behind, List.zipIdx_cons, List.flatMap_cons,
        List.append_cons front spec back]
      dsimp only
      rw [inForce, lastExpressions_append, declare_eq]

/-- A group declares each of its names with the value in force there. -/
theorem declareAll_eq (specs : List ConstantSpec) :
    declareAll specs = recorded specs :=
  declareFrom_eq [] specs

end ConstantSpec

namespace Reader

open Token

/-- A specification as it is written: names, perhaps a type, and perhaps expressions behind an
equals sign. -/
inductive WritesConstant (source : List Char) :
    List Token → ConstantSpec → Prop where
  | repeats {nameTokens typeTokens : List Token}
      {names : List Identifier}
      (areNames : Names nameTokens names)
      (hasType : ConstantType source typeTokens) :
      WritesConstant source (nameTokens ++ typeTokens) ⟨names, none⟩
  | valued {nameTokens typeTokens tokens : List Token} {mark : Token}
      {names : List Identifier} {values : List ConstantExpr}
      (areNames : Names nameTokens names)
      (hasType : ConstantType source typeTokens)
      (isMark : mark.kind = .symbol .assign)
      (separated : Separated (.symbol .comma) false values tokens)
      (each : ∀ value ∈ values, IsExpression value) :
      WritesConstant source
        (nameTokens ++ (typeTokens ++ mark :: tokens))
        ⟨names, some values⟩

/-- Any tokens with balanced delimiters may stand behind the equals sign. -/
theorem writesConstant_of_delimited
    {source : List Char} {nameTokens typeTokens tokens : List Token}
    {mark : Token} {names : List Identifier} {values : List ConstantExpr}
    (areNames : Names nameTokens names)
    (hasType : ConstantType source typeTokens)
    (isMark : mark.kind = .symbol .assign) (delimited : Delimited tokens)
    (semicolons : Sheltered (.symbol .semicolon) tokens)
    (found : expressionsOf 0 tokens = some values) :
    WritesConstant source (nameTokens ++ (typeTokens ++ mark :: tokens))
      ⟨names, some values⟩ :=
  have ⟨separated, each⟩ :=
    separated_of_expressionsOf delimited semicolons found
  .valued areNames hasType isMark separated each

/-- The constants of a declaration. -/
def Declaration.constantList : Declaration → List ConstantDeclaration
  | .constants declared => declared
  | _ => []

/-- The constants of some declarations. -/
def constantsOf (list : List Declaration) : List ConstantDeclaration :=
  list.flatMap (·.constantList)

theorem constants_ofDeclarations
    (package : Identifier) (specs : List ImportSpec)
    (list : List Declaration) :
    (SourceFile.ofDeclarations package specs list).constants =
      constantsOf list := rfl

variable {source : List Char} {front inner ending back tokens : List Token}
  {package : Identifier} {specs : List ImportSpec}
  {declared : List Declaration} {file : SourceFile}

theorem WritesConstant.reads
    {spec : ConstantSpec} (writes : WritesConstant source tokens spec) :
    ReadsConstant source false tokens spec := by
  cases writes with
  | repeats areNames hasType =>
      cases hasType with
      | absent =>
          rw [List.append_nil]
          exact .names areNames
      | present reads => exact .typed areNames reads
  | valued areNames hasType isMark separated each =>
      exact .valued areNames hasType isMark
        (expressionsOf_separated separated each)

/-- The constants of a group stand between those declared in front of it and those declared behind
it, and neither depend on them nor the other way around. -/
theorem ofTokens_constants
    {word opening : Token} {parts : List (List Token × ConstantSpec)}
    (isFront : ReadsFront source front package specs declared)
    (isConst : word.kind = .keyword .const)
    (opens : opening.kind = .symbol .leftParen)
    (enclosed : Enclosed (.symbol .rightParen) (parts.map (·.1)) inner)
    (writes : ∀ part ∈ parts, WritesConstant source part.1 part.2)
    (ends : Ends ending back)
    (accepted :
      SourceFile.ofTokens source
          (front ++ word :: opening :: (inner ++ (ending ++ back))) =
        .ok file) :
    ∃ later, declarations source back = .ok later ∧
      file.constants = constantsOf declared ++
        (ConstantSpec.recorded (parts.map (·.2)) ++ constantsOf later) := by
  have reads :
      ReadsDeclaration source (atEnd ending) (word :: opening :: inner)
        (.constants (ConstantSpec.declareAll (parts.map (·.2)))) :=
    .constants isConst (.several opens enclosed
      fun part isIn => (writes part isIn).reads)
  have group :
      declarations source
          (word :: opening :: (inner ++ (ending ++ back))) = _ :=
    declarations_piece reads ends
  have other :
      kind (skipSemicolons
        (word :: opening :: (inner ++ (ending ++ back)))).1 ≠
          .keyword .import :=
    kind_skipSemicolons_of_declaration reads _
  rw [isFront.ofTokens_eq, resume_of_other other, group] at accepted
  cases behind : declarations source back with
  | error fault =>
      rw [behind] at accepted
      cases accepted
  | ok later =>
      rw [behind] at accepted
      cases accepted
      refine ⟨later, rfl, ?_⟩
      rw [constants_ofDeclarations, constantsOf, List.flatMap_append,
        List.flatMap_cons, Declaration.constantList,
        ConstantSpec.declareAll_eq]
      rfl

/-- A comma inside delimiters does not end an expression, and a list that is repeated gives each
name the expression at its index. -/
theorem ofTokens_constants_group :
    let token (kind : TokenKind) (text : String) : Token :=
      ⟨kind, text, .point 0⟩
    let name (text : String) : Token := token .identifier text
    let number (text : String) : Token := token .number text
    let mark (mark : Symbol) : Token := token (.symbol mark) mark.spelling
    let clause : List Token :=
      [token (.keyword .package) "package", name "p", mark .semicolon]
    let values : List Token :=
      [name "iota", mark .comma, name "f", mark .leftParen, number "1",
        mark .comma, number "2", mark .rightParen, mark .comma, number "7"]
    let valued : List Token :=
      [name "A", mark .comma, name "B", mark .comma, name "C", name "T"] ++
        mark .assign :: values
    let repeated : List Token :=
      [name "D", mark .comma, name "E", mark .comma, name "F", mark .comma,
        name "G"]
    let tokens : List Token :=
      clause ++ token (.keyword .const) "const" :: mark .leftParen ::
        ((valued ++ mark .semicolon :: mark .semicolon ::
          (repeated ++ [mark .rightParen])) ++
          ([mark .semicolon] ++ [endOfFile 0]))
    ∃ file, SourceFile.ofTokens [] tokens = .ok file ∧
      file.constants.map (fun constant =>
          (constant.identifier.name, constant.value)) =
        [("A", .integer 0), ("B", .unknown), ("C", .integer 7),
          ("D", .integer 1), ("E", .unknown), ("F", .integer 7),
          ("G", .unknown)] := by
  intro token name number mark clause values valued repeated tokens
  have isFront : ReadsFront [] clause ⟨"p", .point 0⟩ [] [] :=
    .clause (List.forall_mem_nil _) rfl rfl rfl
  have isType : ConstantType [] [name "T"] :=
    .present (.named (.plainName rfl))
  have balanced : passing 0 values = some 0 := by decide
  rcases passing_zero_iff.mp balanced with ⟨delimited, semicolons⟩
  let first : ConstantSpec :=
    ⟨[⟨"A", .point 0⟩, ⟨"B", .point 0⟩, ⟨"C", .point 0⟩],
      some [[name "iota"],
        [name "f", mark .leftParen, number "1", mark .comma, number "2",
          mark .rightParen],
        [number "7"]]⟩
  have writesFirst : WritesConstant [] valued first :=
    writesConstant_of_delimited (.more rfl rfl (.more rfl rfl (.one rfl)))
      isType rfl delimited semicolons (by decide)
  let second : ConstantSpec :=
    ⟨[⟨"D", .point 0⟩, ⟨"E", .point 0⟩, ⟨"F", .point 0⟩, ⟨"G", .point 0⟩],
      none⟩
  have writesSecond : WritesConstant [] repeated second :=
    .repeats (.more rfl rfl (.more rfl rfl (.more rfl rfl (.one rfl))))
      .absent
  let parts := [(valued, first), (repeated, second)]
  have writes : ∀ part ∈ parts, WritesConstant [] part.1 part.2 := by
    simp only [parts, List.forall_mem_cons]
    exact ⟨writesFirst, writesSecond, List.forall_mem_nil _⟩
  have noSemicolons : Semicolons [] := List.forall_mem_nil _
  have oneSemicolon : Semicolons [mark .semicolon] :=
    List.forall_mem_singleton.mpr rfl
  have enclosed :
      Enclosed (.symbol .rightParen) (parts.map (·.1))
        (valued ++ mark .semicolon :: mark .semicolon ::
          (repeated ++ [mark .rightParen])) :=
    .cons noSemicolons rfl (.last oneSemicolon rfl)
  have ends : Ends [mark .semicolon] [endOfFile 0] := .inl ⟨_, rfl, rfl⟩
  have isEnd : declarations [] [endOfFile 0] = .ok [] :=
    declarations_append (.done noSemicolons) rfl
  have runs : (SourceFile.ofTokens [] tokens).toOption.isSome = true := by
    decide +kernel
  cases accepted : SourceFile.ofTokens [] tokens with
  | error fault =>
      rw [accepted] at runs
      cases runs
  | ok file =>
      rcases ofTokens_constants isFront rfl rfl enclosed writes ends
        accepted with ⟨later, isLater, same⟩
      rw [isEnd] at isLater
      cases isLater
      refine ⟨file, rfl, ?_⟩
      rw [same]
      decide +kernel

end Reader

end GoUnion
