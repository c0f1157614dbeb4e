import GoUnion.Proofs.WellFormed.Resolution
import GoUnion.Proofs.FileGrammar.Soundness
import GoUnion.Proofs.Lexing

/-!
# Expanded declarations are well formed

The declarations of a package come from the grammar of files, so resolution of
each of them keeps the invariant of its phrases.  References inside the root
carry parameters that are resolved in the shallow scope, where references carry
none.
-/

namespace GoUnion

open Lexeme (IsName)
open Reader (Reads ReadsFile ReadsImports ReadsDeclarations ReadsDeclaration
  ReadsTypeDeclaration ReadsTypeParameters ReadsParameters Grouped Ending
  Phrase bind_eq_ok)

/-! ## Identifiers are names -/

theorem HaveNames.append
    {front back : List Token}
    (first : HaveNames front) (second : HaveNames back) :
    HaveNames (front ++ back) := by
  intro token inTokens
  rcases List.mem_append.mp inTokens with inFront | inBack
  · exact first token inFront
  · exact second token inBack

theorem lineEnd?_haveNames (pending : Bool) (offset : Nat) :
    HaveNames (Token.lineEnd? pending offset) := by
  intro token inTokens isName
  cases pending with
  | false => cases inTokens
  | true =>
      rw [List.mem_singleton.mp inTokens] at isName
      cases isName

theorem tokensFrom_haveNames
    (offset : Nat) (pending : Bool) (text : List Char) :
    ∀ tokens, Token.tokensFrom offset pending text = .ok tokens →
      HaveNames tokens := by
  fun_induction Token.tokensFrom offset pending text with
  | case1 offset pending =>
      intro tokens succeeds
      cases succeeds
      refine (lineEnd?_haveNames pending offset).append ?_
      intro token inTokens isName
      rw [List.mem_singleton.mp inTokens] at isName
      cases isName
  | case2 _ _ _ _ _ _ _ _ ih | case3 _ _ _ _ _ _ _ _ ih
  | case6 _ _ _ _ _ _ _ _ _ ih => exact ih
  | case4 offset pending _ _ _ _ _ _ ih
  | case5 offset pending _ _ _ _ _ _ _ ih =>
      intro tokens succeeds
      rcases map_eq_ok succeeds with ⟨later, scanned, rfl⟩
      exact (lineEnd?_haveNames pending offset).append (ih later scanned)
  | case7 _ _ c tail extra text next kind isHead ih =>
      intro tokens succeeds
      rcases map_eq_ok succeeds with ⟨later, scanned, rfl⟩
      intro token inTokens isName
      rcases List.mem_cons.mp inTokens with rfl | inLater
      · cases isName
        exact Lexeme.isName_of_atHead isHead
      · exact ih later scanned token inLater isName
  | case8 | case9 =>
      intro tokens succeeds
      cases succeeds

/-! ## Declarations of a package -/

/-- A piece of some tokens that forms a phrase. -/
def Occurs (tokens : List Token) (phrase : Phrase) : Prop :=
  ∃ source piece, (∀ token ∈ piece, token ∈ tokens) ∧
    Reads source piece phrase

/-- A type parameter that some tokens form, perhaps with names from elsewhere. -/
def TypeParameterExpr.OccursIn
    (parameter : TypeParameterExpr) (tokens : List Token) : Prop :=
  (∃ token ∈ tokens, token.kind = .identifier ∧
      parameter.identifier = Reader.identifierOf token) ∧
    Occurs tokens (.constraint parameter.constraint)

/-- A declaration that some tokens form: its type and its constraints are phrases of them. -/
structure TypeDeclaration.OccursIn
    (declaration : TypeDeclaration) (tokens : List Token) : Prop where
  type : Occurs tokens (.type declaration.type)
  parameters : ∀ parameter ∈ declaration.parameters,
    parameter.OccursIn tokens
  named : ∃ token ∈ tokens, token.kind = .identifier ∧
    declaration.identifier = Reader.identifierOf token

theorem Occurs.mono
    {inner tokens : List Token} {phrase : Phrase}
    (occurs : Occurs inner phrase)
    (within : ∀ token ∈ inner, token ∈ tokens) :
    Occurs tokens phrase := by
  rcases occurs with ⟨source, piece, inInner, reads⟩
  exact ⟨source, piece, fun token inPiece =>
    within token (inInner token inPiece), reads⟩

theorem TypeParameterExpr.OccursIn.mono
    {inner tokens : List Token} {parameter : TypeParameterExpr}
    (occurs : parameter.OccursIn inner)
    (within : ∀ token ∈ inner, token ∈ tokens) :
    parameter.OccursIn tokens := by
  rcases occurs with ⟨⟨token, inInner, isName, same⟩, constraint⟩
  exact ⟨⟨token, within token inInner, isName, same⟩,
    constraint.mono within⟩

theorem TypeDeclaration.OccursIn.mono
    {inner tokens : List Token} {declaration : TypeDeclaration}
    (occurs : declaration.OccursIn inner)
    (within : ∀ token ∈ inner, token ∈ tokens) :
    declaration.OccursIn tokens := by
  rcases occurs with ⟨type, parameters, token, inInner, isName, same⟩
  exact ⟨type.mono within, fun parameter inParameters =>
    (parameters parameter inParameters).mono within,
    token, within token inInner, isName, same⟩

/-- Names that share a constraint are parameters wherever all of them occur. -/
theorem shared_occur
    {source : List Char} {names constraintTokens tokens : List Token}
    {constraint : TypeExpr}
    (areNames : ∀ token ∈ names, token.kind = .identifier)
    (reads : Reads source constraintTokens (.constraint constraint))
    (within : ∀ token ∈ names ++ constraintTokens, token ∈ tokens) :
    ∀ parameter ∈
        (names.map Reader.identifierOf).map
          (TypeParameterExpr.mk · constraint),
      parameter.OccursIn tokens := by
  intro parameter inParameters
  rcases List.mem_map.mp inParameters with ⟨identifier, inMap, rfl⟩
  rcases List.mem_map.mp inMap with ⟨token, inNames, rfl⟩
  constructor
  · exact ⟨token, within token (List.mem_append_left _ inNames),
      areNames token inNames, rfl⟩
  · exact ⟨source, constraintTokens, fun token inConstraint =>
      within token (List.mem_append_right _ inConstraint), reads⟩

theorem forall_mem_concat
    {waiting : List Token} {name : Token}
    (areNames : ∀ token ∈ waiting, token.kind = .identifier)
    (isName : name.kind = .identifier) :
    ∀ token ∈ waiting ++ [name], token.kind = .identifier := by
  intro token inTokens
  rcases List.mem_append.mp inTokens with inWaiting | isOwn
  · exact areNames token inWaiting
  · rw [List.mem_singleton.mp isOwn]
    exact isName

/-- Type parameters come from the tokens and from the names that wait before them. -/
theorem parameters_occur
    {source : List Char} {pending : List Identifier}
    {tokens : List Token} {parameters : List TypeParameterExpr}
    (reads : ReadsParameters source pending tokens parameters) :
    ∀ waiting : List Token, pending = waiting.map Reader.identifierOf →
      (∀ token ∈ waiting, token.kind = .identifier) →
        ∀ parameter ∈ parameters,
          parameter.OccursIn (waiting ++ tokens) := by
  induction reads with
  | close => simp
  | name isName _ _ ih =>
      rintro waiting rfl areNames parameter inParameters
      refine (ih (waiting ++ [_]) (by simp)
        (forall_mem_concat areNames isName) parameter
        inParameters).mono ?_
      intro token inTokens
      simp only [List.mem_append, List.mem_cons] at inTokens ⊢
      tauto
  | @constrained _ name _ _ _ _ _ isName reads _ _ ih =>
      rintro waiting rfl areNames parameter inParameters
      rcases List.mem_append.mp inParameters with inFirst | inOthers
      · refine shared_occur (forall_mem_concat areNames isName) reads ?_
          parameter (by simpa using inFirst)
        intro token inTokens
        simp only [List.mem_append, List.mem_cons] at inTokens ⊢
        tauto
      · refine (ih [] rfl (by simp) parameter inOthers).mono ?_
        intro token inTokens
        simp only [List.nil_append] at inTokens
        simp [inTokens]
  | last isName reads _ =>
      rintro waiting rfl areNames parameter inParameters
      refine shared_occur (forall_mem_concat areNames isName) reads ?_
        parameter (by simpa using inParameters)
      intro token inTokens
      simp only [List.mem_append, List.mem_cons] at inTokens ⊢
      tauto

theorem typeDeclaration_occurs
    {source : List Char} {last : Bool} {tokens : List Token}
    {declaration : TypeDeclaration}
    (reads : ReadsTypeDeclaration source last tokens declaration) :
    declaration.OccursIn tokens := by
  rcases reads with ⟨isName, readsParameters, _, reads⟩
  refine ⟨?_, ?_, _, List.mem_cons_self, isName, rfl⟩
  · refine ⟨source, _, ?_, reads⟩
    intro token inTokens
    simp [inTokens]
  · cases readsParameters with
    | none => simp
    | list _ reads =>
        intro parameter inParameters
        refine (parameters_occur reads [] rfl (by simp) parameter
          inParameters).mono ?_
        intro token inTokens
        rw [List.nil_append] at inTokens
        simp [inTokens]

/-- A piece of some tokens forms a declaration. -/
def TypeDeclaration.FormedIn
    (declaration : TypeDeclaration) (source : List Char)
    (tokens : List Token) : Prop :=
  ∃ last piece, (∀ token ∈ piece, token ∈ tokens) ∧
    ReadsTypeDeclaration source last piece declaration

theorem TypeDeclaration.FormedIn.mono
    {declaration : TypeDeclaration} {source : List Char}
    {inner tokens : List Token} (formed : declaration.FormedIn source inner)
    (within : ∀ token ∈ inner, token ∈ tokens) :
    declaration.FormedIn source tokens := by
  rcases formed with ⟨last, piece, inInner, reads⟩
  exact ⟨last, piece, fun token inPiece =>
    within token (inInner token inPiece), reads⟩

theorem grouped_formed
    {source : List Char} {last : Bool} {tokens : List Token}
    {list : List TypeDeclaration}
    (grouped : Grouped (ReadsTypeDeclaration source) last tokens list) :
    ∀ declaration ∈ list, declaration.FormedIn source tokens := by
  cases grouped with
  | single _ reads =>
      intro declaration inList
      rw [List.mem_singleton.mp inList]
      exact ⟨last, tokens, fun _ inTokens => inTokens, reads⟩
  | several _ enclosed reads =>
      intro declaration inList
      rcases List.mem_map.mp inList with ⟨part, inParts, rfl⟩
      refine ⟨_, part.1, ?_, reads part inParts⟩
      intro token inPart
      exact List.mem_cons_of_mem _
        (enclosed.mem (List.mem_map_of_mem inParts) inPart)

theorem declarations_formed
    {source : List Char} {tokens : List Token}
    {list : List Reader.Declaration}
    (reads : ReadsDeclarations source tokens list) :
    ∀ declared, Reader.Declaration.types declared ∈ list →
      ∀ declaration ∈ declared, declaration.FormedIn source tokens := by
  induction reads with
  | done => simp
  | more _ reads _ _ ih =>
      intro declared inList declaration inDeclared
      rcases List.mem_cons.mp inList with same | inOthers
      · rw [← same] at reads
        cases reads with
        | types _ grouped =>
            refine (grouped_formed grouped declaration inDeclared).mono ?_
            intro token inTokens
            simp [inTokens]
      · refine (ih declared inOthers declaration inDeclared).mono ?_
        intro token inTokens
        simp [inTokens]

theorem imports_formed
    {source : List Char} {tokens : List Token} {specs : List ImportSpec}
    {list : List Reader.Declaration}
    (reads : ReadsImports source tokens specs list) :
    ∀ declared, Reader.Declaration.types declared ∈ list →
      ∀ declaration ∈ declared, declaration.FormedIn source tokens := by
  induction reads with
  | none later => exact declarations_formed later
  | more _ _ _ _ _ ih =>
      intro declared inList declaration inDeclared
      refine (ih declared inList declaration inDeclared).mono ?_
      intro token inTokens
      simp [inTokens]

theorem file_formed
    {source : List Char} {tokens : List Token} {file : SourceFile}
    (reads : ReadsFile source tokens file) :
    ∀ declaration ∈ file.types, declaration.FormedIn source tokens := by
  cases reads with
  | file _ _ _ _ later =>
      intro declaration inTypes
      rcases List.mem_flatMap.mp inTypes with ⟨group, inList, inGroup⟩
      cases group with
      | types declared =>
          refine (imports_formed later declared inList declaration
            inGroup).mono ?_
          intro token inTokens
          simp [inTokens]
      | constants | skipped => cases inGroup

theorem mapM_eq_ok
    {ε α β : Type} {next : α → Except ε β} {list : List α}
    {results : List β}
    (succeeds : list.mapM next = .ok results) :
    List.Forall₂ (fun value result => next value = .ok result)
      list results := by
  induction list generalizing results with
  | nil =>
      cases succeeds
      exact .nil
  | cons value list ih =>
      rw [List.mapM_cons] at succeeds
      rcases bind_eq_ok succeeds with ⟨first, yields, succeeds⟩
      rcases bind_eq_ok succeeds with ⟨others, yieldsOthers, succeeds⟩
      cases succeeds
      exact .cons yields (ih yieldsOthers)

/-- The files of a loaded package are those of its texts, in order. -/
theorem ofTexts_files
    {directory path : String} {texts : List (String × List Char)}
    {package : Package}
    (loads : Package.ofTexts directory path texts = .ok package) :
    List.Forall₂
      (fun source file => PackageFile.ofText source.1 source.2 = .ok file)
      texts package.files := by
  rcases bind_eq_ok loads with ⟨files, scanned, loads⟩
  have related := mapM_eq_ok scanned
  cases files with
  | nil => cases loads
  | cons first others =>
      rcases bind_eq_ok loads with ⟨name, common, loads⟩
      dsimp only at loads
      split at loads
      case h_1 =>
        cases loads
        exact related
      case h_2 => cases loads

theorem ofText_eq_ok
    {path : String} {text : List Char} {file : PackageFile}
    (reads : PackageFile.ofText path text = .ok file) :
    ∃ syntaxTree, SourceFile.ofSource text = .ok syntaxTree ∧
      file = ⟨path, text, syntaxTree⟩ := by
  rw [PackageFile.ofText] at reads
  split at reads
  case h_1 syntaxTree succeeds =>
    cases reads
    exact ⟨syntaxTree, succeeds, rfl⟩
  case h_2 => cases reads

/-- Every declaration of a loaded package is formed by tokens whose identifiers are names. -/
theorem ofTexts_formed
    {directory path : String} {texts : List (String × List Char)}
    {package : Package}
    (loads : Package.ofTexts directory path texts = .ok package) :
    ∀ declared ∈ package.declared, ∃ source tokens, HaveNames tokens ∧
      declared.declaration.FormedIn source tokens := by
  intro declared isDeclared
  rcases List.mem_flatMap.mp isDeclared with ⟨file, inFiles, inFile⟩
  rcases List.mem_map.mp inFile with ⟨declaration, inTypes, rfl⟩
  rcases exists_of_forall₂ (ofTexts_files loads) inFiles with
    ⟨source, -, reads⟩
  rcases ofText_eq_ok reads with ⟨syntaxTree, parses, rfl⟩
  rcases bind_eq_ok parses with ⟨tokens, scanned, succeeds⟩
  rcases Reader.ofTokens_consumes succeeds with
    ⟨used, final, shape, -, readsFile⟩
  refine ⟨_, used, ?_, file_formed readsFile declaration
    (List.mem_of_mem_filter inTypes)⟩
  intro token inUsed
  exact tokensFrom_haveNames 0 false source.2 tokens scanned token
    (shape ▸ List.mem_append_left _ inUsed)

/-- Every declaration of a loaded package is made of tokens whose identifiers are names. -/
theorem ofTexts_occurs
    {directory path : String} {texts : List (String × List Char)}
    {package : Package}
    (loads : Package.ofTexts directory path texts = .ok package) :
    ∀ declared ∈ package.declared, ∃ tokens, HaveNames tokens ∧
      declared.declaration.OccursIn tokens := by
  intro declared isDeclared
  rcases ofTexts_formed loads declared isDeclared with
    ⟨source, tokens, haveNames, last, piece, within, reads⟩
  exact ⟨tokens, haveNames, (typeDeclaration_occurs reads).mono within⟩

/-! ## Roots -/

theorem denoteParameters_wellFormed
    {scope : Scope} {inside : Bool} {tokens : List Token}
    {expressions : List TypeParameterExpr} {parameters : List TypeParameter}
    (carries : scope.CarriesWell inside)
    (haveNames : HaveNames tokens)
    (occur : ∀ expression ∈ expressions, expression.OccursIn tokens)
    (denotes : denoteParameters scope expressions = .ok parameters) :
    ∀ parameter ∈ parameters, IsName parameter.name ∧
      WellFormed inside .typeSet parameter.constraint := by
  intro parameter inParameters
  rcases exists_of_forall₂ (mapM_eq_ok denotes) inParameters with
    ⟨expression, inExpressions, denotes⟩
  rcases bind_eq_ok denotes with ⟨constraint, succeeds, yields⟩
  cases yields
  rcases occur expression inExpressions with
    ⟨⟨token, inTokens, isName, same⟩, source, piece, within, reads⟩
  constructor
  · rw [same]
    exact haveNames token inTokens isName
  · exact GoUnion.Reads.denotesWell reads carries
      (fun token inPiece => haveNames token (within token inPiece))
      constraint succeeds

theorem shallow_carriesWell (package : Package) (declared : Declared) :
    (Scope.shallow package declared).CarriesWell true := by
  intro other _ parameters carried
  cases carried
  exact ⟨fun _ => rfl, by simp⟩

/-- Whether every declaration of a package is made of tokens whose identifiers are names. -/
def Package.Grammatical (package : Package) : Prop :=
  ∀ declared ∈ package.declared, ∃ tokens, HaveNames tokens ∧
    declared.declaration.OccursIn tokens

theorem ofDeclared_carriesWell
    {package : Package} (grammatical : package.Grammatical)
    (declared : Declared) :
    (Scope.ofDeclared package declared).CarriesWell false := by
  intro other isDeclared parameters carried
  refine ⟨fun isInside => Bool.noConfusion isInside, ?_⟩
  rcases grammatical other isDeclared with ⟨tokens, haveNames, occurs⟩
  intro parameter inParameters
  exact (denoteParameters_wellFormed (shallow_carriesWell package other)
    haveNames occurs.2 carried parameter inParameters).2

theorem errorInterface_wellFormed :
    WellFormed false .plain Scope.errorInterface := by
  refine .interface ?_ ?_ (by simp)
  · intro method inMethods
    rw [List.mem_singleton.mp inMethods]
    decide
  · intro method inMethods
    rw [List.mem_singleton.mp inMethods]
    refine .plain (by simp) ?_ (.inl (by simp)) (.inl (by simp)) (by simp)
      (by simp) (by simp)
    intro result inResults
    rw [List.mem_singleton.mp inResults]
    exact .basic

/-- How a declaration gets its structure: from the universe, by its own type, or from another
declaration. -/
inductive Structured (package : Package) (declared : Declared) :
    Nat → GoType → Prop where
  | pointer {steps : Nat} :
      Structured package declared steps (.basic .unsafePointer)
  | anything {steps : Nat} :
      Structured package declared steps (.interface [] [])
  | failure {steps : Nat} :
      Structured package declared steps Scope.errorInterface
  | denoted
      {steps : Nat} {type : GoType}
      (denotes :
        declared.declaration.type.denote
          (Scope.ofDeclared package declared) = .ok type) :
      Structured package declared steps type
  | record
      {steps : Nat} {span : Text.Span} {expressions : List FieldExpr}
      {fields : List Field}
      (shape : declared.declaration.type = .record span expressions)
      (denotes :
        (Scope.ofDeclared package declared).rootFields 0 expressions =
          .ok fields) :
      Structured package declared steps (.record fields)
  | follows
      {steps : Nat} {target : Declared} {type : GoType} {span : Text.Span}
      {identifier : Identifier}
      (shape :
        declared.declaration.type = .name span none identifier [])
      (isDeclared : target ∈ package.declared)
      (follows : package.underlying steps target = .ok type) :
      Structured package declared (steps + 1) type

theorem underlying_eq_ok
    {package : Package} {steps : Nat} {declared : Declared} {type : GoType}
    (succeeds : package.underlying steps declared = .ok type) :
    Structured package declared steps type := by
  unfold Package.underlying at succeeds
  dsimp only at succeeds
  split at succeeds
  case h_1 =>
    split at succeeds
    case h_1 => cases succeeds
    case h_2 =>
      split at succeeds
      case isTrue =>
        cases succeeds
        exact .pointer
      case isFalse => cases succeeds
  case h_2 span identifier arguments shape =>
    split at succeeds
    case isTrue => cases succeeds
    case isFalse =>
      split at succeeds
      case h_1 target found =>
        split at succeeds
        case isTrue isEmpty =>
          rw [List.isEmpty_iff.mp isEmpty] at shape
          split at succeeds
          case h_1 => cases succeeds
          case h_2 =>
            exact .follows shape (List.mem_of_find?_eq_some found) succeeds
        case isFalse => cases succeeds
      case h_2 =>
        split at succeeds
        case isTrue =>
          cases succeeds
          exact .anything
        case isFalse =>
          split at succeeds
          case isTrue =>
            cases succeeds
            exact .failure
          case isFalse =>
            split at succeeds
            case isTrue => cases succeeds
            case isFalse => exact .denoted succeeds
  case h_3 span expressions shape =>
    rcases bind_eq_ok succeeds with ⟨fields, denotes, yields⟩
    cases yields
    exact .record shape denotes
  case h_4 => exact .denoted succeeds

theorem underlying_wellFormed
    {package : Package} (grammatical : package.Grammatical)
    {steps : Nat} {declared : Declared} {type : GoType}
    (isDeclared : declared ∈ package.declared)
    (succeeds : package.underlying steps declared = .ok type) :
    WellFormed false .plain type := by
  induction steps using Nat.strongRecOn generalizing declared with
  | ind steps ih =>
      rcases grammatical declared isDeclared with
        ⟨tokens, haveNames, ⟨source, piece, within, reads⟩, -⟩
      have well :=
        GoUnion.Reads.denotesWell reads
          (ofDeclared_carriesWell grammatical declared)
          (fun token inPiece => haveNames token (within token inPiece))
      cases underlying_eq_ok succeeds with
      | pointer => exact .basic
      | anything => exact .interface (by simp) (by simp) (by simp)
      | failure => exact errorInterface_wellFormed
      | denoted denotes => exact well type denotes
      | record shape denotes =>
          apply well
          rw [shape, TypeExpr.denote, rootFields_eq_ok.mp denotes]
          rfl
      | follows _ isTarget follows =>
          exact ih _ (Nat.lt_succ_self _) isTarget follows

/-- Whatever is expanded in a loaded package is well formed, at every depth. -/
theorem Package.expand_wellFormed
    {directory path name : String} {texts : List (String × List Char)}
    {package : Package} {root : NamedType}
    (loads : Package.ofTexts directory path texts = .ok package)
    (expands : package.expand name = .ok root) :
    root.WellFormedRoot := by
  have grammatical : package.Grammatical := ofTexts_occurs loads
  rw [Package.expand] at expands
  split at expands
  case h_1 => cases expands
  case h_2 declared found =>
    have isDeclared := List.mem_of_find?_eq_some found
    rcases grammatical declared isDeclared with ⟨tokens, haveNames, occurs⟩
    rcases bind_eq_ok expands with ⟨parameters, denotes, expands⟩
    rcases bind_eq_ok expands with ⟨type, follows, expands⟩
    cases expands
    have each :=
      denoteParameters_wellFormed
        (ofDeclared_carriesWell grammatical declared) haveNames occurs.2
        denotes
    exact {
      structured :=
        ⟨type, rfl, underlying_wellFormed grammatical isDeclared follows⟩
      names := fun parameter inParameters =>
        (each parameter inParameters).1
      constraints := fun parameter inParameters =>
        (each parameter inParameters).2
      applied := by simp
    }

theorem eq_ok_of_isSome
    {ε α : Type} {result : Except ε α}
    (isSome : result.toOption.isSome = true) :
    ∃ value, result = .ok value := by
  cases result with
  | error fault => cases isSome
  | ok value => exact ⟨value, rfl⟩

/-- A generic struct with embedded fields, a union constraint and a variadic function. -/
theorem Package.expand_wellFormed_bag :
    ∃ package root,
      Package.ofTexts "bags" "example/bags"
          [("bag.go", ("package bags\n" ++
            "type Set[K comparable] map[K]int\n" ++
            "type Bag[T ~int | Set[int]] struct \x7b\n" ++
            "\tSet[T]\n\t*Shape\n" ++
            "\tlog func(a, b int, rest ...Set[T]) (ok bool)\n\x7d\n" ++
            "type Shape interface \x7b Draw(error); ~int | string \x7d\n"
            ).toList)] = .ok package ∧
        package.expand "Bag" = .ok root ∧ root.WellFormedRoot := by
  generalize shape : Package.ofTexts _ _ _ = result
  have expands : (result.bind (·.expand "Bag")).toOption.isSome = true := by
    rw [← shape]
    decide +kernel
  rcases eq_ok_of_isSome expands with ⟨root, succeeds⟩
  cases result with
  | error fault => cases succeeds
  | ok package =>
      exact ⟨package, root, rfl, succeeds,
        expand_wellFormed shape succeeds⟩

end GoUnion
