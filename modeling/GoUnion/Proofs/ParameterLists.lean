import GoUnion.Proofs.Insertion
import GoUnion.Proofs.NamedRoots
import GoUnion.Proofs.Spelling.Parameters
import GoUnion.Proofs.SyntaxEquality

/-!
# Type parameters are read back

The type parameters of a declaration may be written behind the name of another
type in the same file.  They are read as type parameters again, with the same
names and with constraints that denote the same types, unless the constraint of
the first one opens with a star.

A list like that is read where the first parameters share a constraint, because
a comma stands behind the first name then.  It is written with a constraint
behind every name, and there the star makes the list the length of an array.
It has two parameters or more, so the comma between them could tell it from a
length.
-/

namespace GoUnion

open Lexeme (IsName)
open Reader (Reads ReadsDeclaration ReadsTypeDeclaration ReadsParameters
  bind_eq_ok)
open Token

/-! ## Lists that are read -/

/-- Whether the constraint of the first of some type parameters opens with a star. -/
def startWithStar : List TypeParameter → Bool
  | [] => false
  | first :: _ => first.constraint.opensWithStar

section Denotation

variable {scope : Scope} {expression : TypeExpr} {type : GoType}
  {source : List Char} {tokens : List Token}

/-- Only pointers and unions denote types whose text opens with a star. -/
theorem TypeExpr.denote_opensWithStar
    (denotes : expression.denote scope = .ok type)
    (star : type.opensWithStar = true) :
    (∃ span inner, expression = .pointer span inner) ∨
      ∃ span terms, expression = .union span terms := by
  cases expression with
  | pointer span inner => exact .inl ⟨span, inner, rfl⟩
  | union span terms => exact .inr ⟨span, terms, rfl⟩
  | name span qualifier identifier arguments =>
      rw [TypeExpr.denote] at denotes
      rcases bind_eq_ok denotes with ⟨resolved, resolves, denotes⟩
      rcases bind_eq_ok denotes with ⟨types, applied, yields⟩
      have names := (resolve_resolvesByName resolves types type
        (denoteAll_length applied) yields).1
      cases names with
      | _ => cases star
  | interface span members =>
      rw [TypeExpr.denote] at denotes
      rcases bind_eq_ok denotes with ⟨⟨methods, embeds⟩, -, yields⟩
      cases yields
      cases star
  | array | map =>
      rw [TypeExpr.denote] at denotes
      rcases bind_eq_ok denotes with ⟨_, -, denotes⟩
      rcases bind_eq_ok denotes with ⟨_, -, yields⟩
      cases yields
      cases star
  | _ =>
      rw [TypeExpr.denote] at denotes
      rcases bind_eq_ok denotes with ⟨_, -, yields⟩
      cases yields
      cases star

namespace Reader.Reads

theorem opensWithStar_of_type
    (reads : Reads source tokens (.type expression))
    (denotes : expression.denote scope = .ok type)
    (star : type.opensWithStar = true)
    (noParens : kind tokens ≠ .symbol .leftParen) :
    kind tokens = .symbol .star := by
  rcases TypeExpr.denote_opensWithStar denotes star with
    ⟨span, inner, rfl⟩ | ⟨span, terms, rfl⟩
  · cases reads with
    | named reads => cases reads
    | parens opens => exact absurd opens noParens
    | pointer isStar => exact isStar
  · cases reads with
    | named reads => cases reads
    | parens opens => exact absurd opens noParens

/-- A constraint without parentheses opens with a star if the text of what it denotes does. -/
theorem opensWithStar_of_constraint
    (reads : Reads source tokens (.constraint expression))
    (denotes : expression.denote scope = .ok type)
    (star : type.opensWithStar = true)
    (noParens : kind tokens ≠ .symbol .leftParen) :
    kind tokens = .symbol .star := by
  cases reads with
  | single reads => exact reads.opensWithStar_of_type denotes star noParens
  | @union _ parts separated reads =>
      rw [TypeExpr.denote] at denotes
      rcases bind_eq_ok denotes with ⟨members, succeeds, yields⟩
      cases yields
      have each := denoteTerms_eq_ok succeeds
      rcases members with _ | ⟨⟨approximate, first⟩, others⟩
      · cases star
      rcases GoType.opensWithStar_union star with ⟨exactly, starFirst⟩
      cases exactly
      rcases parts with _ | ⟨⟨piece, _, inner⟩, parts⟩
      · cases each
      rcases List.forall₂_cons.mp each with ⟨⟨same, denotesFirst⟩, -⟩
      cases same
      have readsFirst := reads _ List.mem_cons_self
      rcases separated.opens with ⟨rest, rfl⟩
      rw [kind_append _ _ readsFirst.ne_nil] at noParens ⊢
      cases readsFirst with
      | plainTerm reads =>
          exact reads.opensWithStar_of_type denotesFirst starFirst noParens

end Reader.Reads

end Denotation

namespace Reader

variable {source : List Char} {pending : List Identifier}
  {tokens : List Token} {expressions : List TypeParameterExpr}

/-- There are more type parameters than names that wait for their constraint, unless there are
none of both. -/
theorem ReadsParameters.pending_lt
    (reads : ReadsParameters source pending tokens expressions) :
    pending = [] ∧ expressions = [] ∨
      pending.length < expressions.length := by
  induction reads with
  | close => exact .inl ⟨rfl, rfl⟩
  | name _ _ _ ih =>
      rcases ih with ⟨waiting, -⟩ | longer
      · simp at waiting
      · right
        rw [List.length_append] at longer
        exact Nat.lt_of_succ_lt longer
  | constrained | last =>
      right
      simp only [List.length_append, List.length_map, List.length_singleton]
      omega

/-- A bracket that opens type parameters has neither a star nor a parenthesis behind the first
name. -/
theorem kind_of_opensParameters
    {opening name : Token} {rest : List Token}
    (opens : opensParameters (opening :: name :: (tokens ++ rest)) = true)
    (nonempty : tokens ≠ []) :
    kind tokens ≠ .symbol .star ∧ kind tokens ≠ .symbol .leftParen := by
  rw [opensParameters, kindAt_two nonempty] at opens
  constructor
  · intro isStar
    simp [isStar] at opens
  · intro isParen
    simp [isParen] at opens

end Reader

/-- Type parameters that are read and whose first constraint opens with a star are two or more. -/
theorem two_le_of_startWithStar
    {source : List Char} {last : Bool} {tokens : List Token}
    {declaration : TypeDeclaration} {scope : Scope}
    {parameters : List TypeParameter}
    (reads : ReadsTypeDeclaration source last tokens declaration)
    (denotes :
      denoteParameters scope declaration.parameters = .ok parameters)
    (star : startWithStar parameters = true) :
    2 ≤ parameters.length := by
  have each := mapM_eq_ok denotes
  have notFirst {opening name : Token} {front rest : List Token}
      {identifier : Identifier} {constraint : TypeExpr}
      {others : List TypeParameterExpr}
      (opens :
        Reader.opensParameters (opening :: name :: (front ++ rest)) = true)
      (reads : Reads source front (.constraint constraint)) :
      declaration.parameters ≠ ⟨identifier, constraint⟩ :: others := by
    intro isList
    rw [isList] at each
    rcases List.forall₂_cons_left_iff.mp each with
      ⟨first, _, yieldsFirst, -, rfl⟩
    rcases bind_eq_ok yieldsFirst with ⟨type, succeeds, yields⟩
    cases yields
    rcases Reader.kind_of_opensParameters opens reads.ne_nil with
      ⟨noStar, noParens⟩
    exact noStar
      (reads.opensWithStar_of_constraint succeeds star noParens)
  have empty (none : declaration.parameters = []) : False := by
    rw [none] at each
    cases each
    cases star
  rw [← each.length_eq]
  cases reads with
  | declare _ readsParameters =>
      cases readsParameters with
      | none => exact (empty rfl).elim
      | list opens reads =>
          cases reads with
          | close => exact (empty rfl).elim
          | name _ _ later =>
              rcases later.pending_lt with ⟨waiting, -⟩ | longer
              · simp at waiting
              · exact longer
          | constrained _ reads => exact absurd rfl (notFirst opens reads)
          | last _ reads => exact absurd rfl (notFirst opens reads)

/-! ## Written declarations -/

/-- A type parameter is denoted by an expression wherever the names of its constraint are read
back. -/
def TypeParameter.DenotedBy
    (qualify : Qualifier) (parameter : TypeParameter)
    (expression : TypeParameterExpr) : Prop :=
  expression.identifier.name = parameter.name ∧
    Denotes qualify expression.constraint parameter.constraint

/-- A declared type is the empty struct with type parameters that denote some parameters, unless
those start with a star; then it is an array without type parameters. -/
structure DeclaresGeneric
    (qualify : Qualifier) (name : String) (parameters : List TypeParameter)
    (added : TypeDeclaration) : Prop where
  name : added.identifier.name = name
  generic : startWithStar parameters = false →
    List.Forall₂ (TypeParameter.DenotedBy qualify) parameters
        added.parameters ∧
      ∃ span, added.type = .record span []
  array : startWithStar parameters = true →
    added.parameters = [] ∧ ∃ span words element,
      added.type = .array span (.expression words) element

section Written

variable {qualify : Qualifier} {name : String}
  {parameters : List TypeParameter}

/-- A name with written parameters and a struct behind it declares a type. -/
theorem declaresGeneric_of_listed
    {source : List Char} {front tokens : List Token} {span : Text.Span}
    (isName : IsName name) (nonempty : parameters ≠ [])
    (listed : Listed name
      (fun parameter piece => ∃ expression,
        ReadsParameter source qualify parameter piece expression)
      parameters front)
    (reads : Reads source tokens (.type (.record span []))) :
    ∃ added, ReadsTypeDeclaration source false (front ++ tokens) added ∧
      DeclaresGeneric qualify name parameters added := by
  cases listed with
  | none => exact absurd rfl nonempty
  | @some _ opening closing inner pieces offset _ opens closes separated
      found =>
      rcases exists_parts found with ⟨parts, rfl, each⟩
      have forms : ∀ part ∈ parts, FormsParameter source part.1 part.2 :=
        forall_mem_of_forall₂ each fun _ _ reads => reads.forms
      have isIdentifier := wordToken_kind isName offset
      have denotes :
          List.Forall₂ (TypeParameter.DenotedBy qualify) parameters
            (parts.map (·.2)) := by
        rw [List.forall₂_map_right_iff]
        exact each.imp fun _ _ reads => ⟨reads.name, reads.denotes⟩
      have isOpen :
          Reader.opensParameters (opening :: (inner ++ [closing])) = true ↔
            startWithStar parameters = false := by
        rcases exists_first_parameter separated forms with
          ⟨part, isPart, isFirst, rest, rfl⟩
        cases each with
        | nil => cases isPart
        | cons first =>
            cases isFirst
            rcases first.forms with ⟨name, tokens, shape, isName, -, reads⟩
            have noParens := first.noParens
            have star := first.star
            rw [shape, List.tail_cons] at noParens star
            rw [shape, List.append_assoc, List.cons_append,
              opensParameters_of_constraint opens isName reads noParens,
              startWithStar, ← Bool.not_eq_true, ne_eq, star]
      cases starts : startWithStar parameters with
      | false =>
          have readsParameters :=
            readsParameters_of_parts separated forms closes
          have declares : ReadsTypeDeclaration source false _ _ :=
            .declare isIdentifier
              (.list (isOpen.mpr starts) readsParameters) .absent reads
          exact ⟨_, declares, rfl, fun _ => ⟨denotes, span, rfl⟩,
            fun isStar => absurd (starts.symm.trans isStar) (by decide)⟩
      | true =>
          rcases lengthTokens_of_parts separated forms closes with
            ⟨words, isLength⟩
          have isArray : Reader.opensParameters
              ([] ++ (opening :: (inner ++ [closing] ++ tokens))) =
                false := by
            rw [← Bool.not_eq_true, List.nil_append]
            intro isOpen'
            rcases parameters_shape separated forms with
              ⟨name, second, others, rfl⟩
            rw [isOpen.mp isOpen'] at starts
            cases starts
          have declares : ReadsTypeDeclaration source false _ _ :=
            .declare isIdentifier (.none isArray) .absent
              (.array opens isLength reads)
          exact ⟨_, declares, rfl,
            fun noStar => absurd (starts.symm.trans noStar) (by decide),
            fun _ => ⟨rfl, _, words, _, rfl⟩⟩

/-- The text of a struct with type parameters. -/
def genericStruct
    (qualify : Qualifier) (name : String) (parameters : List TypeParameter) :
    String :=
  "type " ++ name ++ "[" ++ spellParameters qualify parameters ++
    "] struct\x7b\x7d\n"

theorem declaresType_genericStruct
    (isName : IsName name) (nonempty : parameters ≠ [])
    (names : ∀ parameter ∈ parameters, IsName parameter.name)
    (wellFormed : ∀ parameter ∈ parameters,
      WellFormed false .typeSet parameter.constraint)
    (qualifies : ∀ parameter ∈ parameters,
      QualifiesBy qualify parameter.constraint.nodes) :
    DeclaresType (genericStruct qualify name parameters).toList
      (DeclaresGeneric qualify name parameters) where
  opens := by
    refine ⟨(" " ++ (name ++ ("[" ++ (spellParameters qualify parameters ++
      "] struct\x7b\x7d\n")))).toList, ?_⟩
    rw [← String.toList_append]
    simp only [genericStruct, Keyword.spelling, String.append_assoc]
    rfl
  scans := by
    intro source offset pending rest
    have forms := forms_listed isName
      (fun parameter : TypeParameter =>
        parameter.name ++ " " ++ parameter.constraint.spell qualify)
      fun parameter isIn => forms_parameter (names parameter isIn)
        (wellFormed parameter isIn) (qualifies parameter isIn) source
    have same :
        (genericStruct qualify name parameters).toList =
          Part.render [.word .type, .space] ++
            ((name ++ Spelling.bracketed (parameters.map fun parameter =>
              parameter.name ++ " " ++
                parameter.constraint.spell qualify)).toList ++
              Part.render [.space, .word .struct, .leftBrace, .rightBrace,
                .newline]) := by
      simp [genericStruct, Spelling.bracketed, nonempty, spellParameters,
        Keyword.spelling, Symbol.spelling]
    rcases Part.scans_around forms same rfl rfl rfl rfl rfl rfl offset
      pending rest with ⟨opening, front, closing, scans, leave, listed,
        leaveBack⟩
    rcases leave with _ | ⟨⟨word, rfl⟩, _ | ⟨⟨rfl⟩, ⟨⟩⟩⟩
    rcases leaveBack with _ | ⟨⟨rfl⟩, _ | ⟨⟨struct, rfl⟩,
      _ | ⟨⟨brace, rfl⟩, _ | ⟨⟨stop, rfl⟩, _ | ⟨⟨line, rfl⟩, ⟨⟩⟩⟩⟩⟩⟩
    have leading : Reader.Semicolons [] := by simp [Reader.Semicolons]
    have enclosed : Reader.Enclosed (.symbol .rightBrace) []
        [markToken .rightBrace stop] :=
      .close leading rfl
    have readsRecord :=
      @Reads.record source (wordToken Keyword.struct.spelling struct)
        (markToken .leftBrace brace) [markToken .rightBrace stop] []
        (wordToken_keyword .struct struct) rfl enclosed (by simp)
    rcases declaresGeneric_of_listed isName nonempty listed readsRecord with
      ⟨added, readsType, declares⟩
    have scansLine :
        Scans rest offset pending (genericStruct qualify name parameters).toList
          ((wordToken Keyword.type.spelling word ::
            (front ++ [wordToken Keyword.struct.spelling struct,
              markToken .leftBrace brace, markToken .rightBrace stop])) ++
                [lineEnd line]) false := by
      simpa [Part.endsStatement, Part.rightBrace, lineEnd?,
        TokenKind.endsStatement] using scans
    exact ⟨_, lineEnd line, added, scansLine, rfl,
      .types (wordToken_keyword .type word)
        (.single readsType.noParens readsType), declares⟩

end Written

/-! ## Written names -/

/-- A qualifier writes the references of a type so that they stand for themselves in the file of a
declaration: bare where they may be a type parameter, a type of the package or a name of the
universe, and otherwise with a name that the file binds to their package. -/
structure Declared.Writes
    (package : Package) (declared : Declared) (qualify : Qualifier)
    (type : GoType) : Prop where
  bare : ∀ reference ∈ type.references, qualify reference = none →
    ∃ kind, kind ≠ .imported ∧ declared.Refers package reference kind
  qualified : ∀ reference ∈ type.references,
    ∀ name, qualify reference = some name →
      IsName name ∧
        declared.file.importPath? name = some reference.package ∧
        declared.Refers package reference .imported ∧
        reference.parameters = []
  bindsUnsafe : .basic .unsafePointer ∈ type.nodes →
    declared.file.importPath? "unsafe" = some "unsafe"

theorem Scope.Names.underlying
    {scope : Scope} {reference : NamedType}
    (names : scope.Names (.named reference)) :
    reference.underlying = none := by
  cases names with
  | _ => rfl

section Names

variable {package : Package} {declared : Declared} {reference : NamedType}

/-- What a reference is made of tells that its name alone stands for it, unless it can only be
one to another package. -/
theorem Declared.Refers.finds
    {kind : ReferenceKind}
    (refers : declared.Refers package reference kind)
    (notImported : kind ≠ .imported)
    (names : (Scope.ofDeclared package declared).Names (.named reference)) :
    (Scope.ofDeclared package declared).Finds none reference.name
      reference.arguments (.named reference) := by
  cases names with
  | parameter isParameter => exact .parameter isParameter
  | declared notParameter found arity carried =>
      exact .declared notParameter found arity carried
  | predeclared notParameter undeclared notBasic found =>
      exact .universal notParameter undeclared
        (Scope.universal?_predeclared notBasic found)
  | @imported _ name path arguments bound notUnsafe isExported =>
      -- The file imports its own package, and the name means the same without the import.
      cases kind with
      | parameter =>
          rcases refers with ⟨rfl, rfl, parameter, isIn, sameName⟩
          refine .parameter (List.any_eq_true.mpr ⟨parameter, isIn, ?_⟩)
          exact decide_eq_true sameName
      | declared =>
          rcases refers with ⟨rfl, other, found, arity, uncarried⟩
          have plain : other.declaration.parameters = [] :=
            List.map_eq_nil_iff.mp uncarried.symm
          rw [plain] at arity
          cases List.length_eq_zero_iff.mp arity
          cases isParameter :
              (Scope.ofDeclared package declared).isParameter name with
          | true => exact .parameter isParameter
          | false =>
              have isNamed : other.name = name := by
                simpa using List.find?_some found
              have carried :
                  (Scope.ofDeclared package declared).carried other =
                    .ok [] := by
                show denoteParameters _ other.declaration.parameters = _
                rw [plain]
                rfl
              subst isNamed
              exact .declared isParameter found
                (congrArg List.length plain).symm carried
      | universal =>
          have isPredeclared : name ∈ Scope.predeclaredNames := refers.2.2
          simp only [Scope.predeclaredNames, List.mem_cons,
            List.not_mem_nil, or_false] at isPredeclared
          rcases isPredeclared with rfl | rfl | rfl
          all_goals exact absurd isExported (by decide)
      | imported => exact absurd rfl notImported

namespace Declared.Writes

variable {qualify : Qualifier} {type : GoType}

theorem qualifiesBy
    (writes : declared.Writes package qualify type) :
    QualifiesBy qualify type.nodes := by
  intro reference isNode name qualified
  exact (writes.qualified reference (mem_references.mpr isNode) name
    qualified).1

/-- All names of a type that a declaration denotes are read back as they are written. -/
theorem readsAll
    (writes : declared.Writes package qualify type)
    (namesAll :
      (Scope.ofDeclared package declared).NamesAll type.nodes) :
    (Scope.ofDeclared package declared).ReadsAll qualify type.nodes := by
  intro node isNode
  cases node with
  | basic basic =>
      have isNamed : (GoType.basic basic).ownName?.isSome = true := by
        cases basic with
        | _ => rfl
      cases namesAll _ isNode isNamed with
      | basic notParameter undeclared found =>
          exact Scope.readsBack_basic notParameter undeclared found
      | unsafePointer =>
          rw [Scope.ReadsBack]
          exact .unsafePointer (writes.bindsUnsafe isNode)
  | named reference =>
      have names := namesAll _ isNode rfl
      have isReference := mem_references.mpr isNode
      rw [Scope.ReadsBack]
      cases qualified : qualify reference with
      | none =>
          rcases writes.bare reference isReference qualified with
            ⟨kind, notImported, refers⟩
          exact refers.finds notImported names
      | some name =>
          rcases writes.qualified reference isReference name qualified with
            ⟨-, bound, ⟨isExported, notUnsafe, -⟩, uncarried⟩
          rcases reference with ⟨_, _, _, _, _⟩
          cases names.underlying
          cases uncarried
          exact .imported bound notUnsafe isExported
  | _ => trivial

end Declared.Writes

end Names

/-! ## Lists of type parameters -/

/-- The type parameters of what is expanded are those of its declaration. -/
theorem Package.denoteParameters_of_expand
    {package : Package} {declared : Declared} {name : String}
    {root : NamedType}
    (found : package.type? name = some declared)
    (expands : package.expand name = .ok root) :
    denoteParameters (.ofDeclared package declared)
      declared.declaration.parameters = .ok root.parameters := by
  rw [Package.expand, found] at expands
  rcases bind_eq_ok expands with ⟨parameters, denotes, expands⟩
  rcases bind_eq_ok expands with ⟨type, -, yields⟩
  cases yields
  exact denotes

/-- All names in the constraints of type parameters are names of the scope. -/
theorem denoteParameters_namesAll
    {scope : Scope} {expressions : List TypeParameterExpr}
    {parameters : List TypeParameter}
    (denotes : denoteParameters scope expressions = .ok parameters)
    {parameter : TypeParameter} (isIn : parameter ∈ parameters) :
    scope.NamesAll parameter.constraint.nodes := by
  rcases exists_of_forall₂ (mapM_eq_ok denotes) isIn with
    ⟨expression, -, denotes⟩
  rcases bind_eq_ok denotes with ⟨constraint, succeeds, yields⟩
  cases yields
  exact expression.constraint.denote_namesAll succeeds

/-- Expressions that denote some type parameters wherever their names are read back. -/
theorem denoteParameters_of_denotes
    {scope : Scope} {qualify : Qualifier}
    {parameters : List TypeParameter} {expressions : List TypeParameterExpr}
    (each : List.Forall₂ (TypeParameter.DenotedBy qualify) parameters
      expressions)
    (readsAll : ∀ parameter ∈ parameters,
      scope.ReadsAll qualify parameter.constraint.nodes) :
    denoteParameters scope expressions = .ok parameters := by
  induction each with
  | nil => rfl
  | @cons parameter expression parameters expressions first _ ih =>
      have denotes :=
        first.2 scope (readsAll parameter List.mem_cons_self)
      have others :=
        ih fun other isIn => readsAll other (List.mem_cons_of_mem _ isIn)
      rw [denoteParameters] at others ⊢
      rw [List.mapM_cons, denotes, others, first.1]
      cases parameter
      rfl

theorem Scope.isParameter_of_names
    {package package' : Package} {declared declared' : Declared}
    (same :
      declared.declaration.parameters.map (·.identifier.name) =
        declared'.declaration.parameters.map (·.identifier.name))
    (name : String) :
    (Scope.ofDeclared package declared).isParameter name =
      (Scope.ofDeclared package' declared').isParameter name := by
  have inNames (declaration : TypeDeclaration) :
      (declaration.parameters.any fun parameter =>
          decide (parameter.identifier.name = name)) =
        (declaration.parameters.map (·.identifier.name)).any
          fun other => decide (other = name) := by
    rw [List.any_map]
    rfl
  show declared.declaration.parameters.any _ =
    declared'.declaration.parameters.any _
  rw [inNames, inNames, same]

/--
The type parameters of whatever is expanded may be written behind the name of a
struct in the same file.  They are read as type parameters with the same names
and constraints exactly if the first constraint does not open with a star;
otherwise they are read as the length of an array, which is an error.
-/
theorem Package.expand_parameterList
    {directory path name fresh : String}
    {texts : List (String × List Char)} {package : Package}
    {declared : Declared} {root : NamedType} {qualify : Qualifier}
    (loads : Package.ofTexts directory path texts = .ok package)
    (found : package.type? name = some declared)
    (expands : package.expand name = .ok root)
    (generic : root.parameters ≠ [])
    (writes : ∀ parameter ∈ root.parameters,
      declared.Writes package qualify parameter.constraint)
    (isName : IsName fresh) (notBlank : fresh ≠ "_")
    (undeclared : package.type? fresh = none)
    (notUniversal : Scope.universal? fresh = none) :
    ∃ before front back after package' declared',
      texts =
          before ++ (declared.file.path, declared.file.text) :: after ∧
        declared.file.text = front ++ back ∧
        Package.ofTexts directory path
            (before ++ (declared.file.path,
              front ++ ((genericStruct qualify fresh
                root.parameters).toList ++ back)) :: after) =
          .ok package' ∧
        package'.type? fresh = some declared' ∧
        (startWithStar root.parameters = false →
          declared'.declaration.parameters.map (·.identifier.name) =
              root.parameters.map (·.name) ∧
            package'.expand fresh =
              .ok ⟨fresh, package.path, some (.record []),
                root.parameters, []⟩) ∧
        (startWithStar root.parameters = true →
          2 ≤ root.parameters.length ∧
            declared'.declaration.parameters = [] ∧
              ∃ length location, package'.expand fresh =
                .error (.unsupported (.expressionLength length) none
                  location)) := by
  have denotes := denoteParameters_of_expand found expands
  have wellFormed := expand_wellFormed loads expands
  have declares := declaresType_genericStruct isName generic
    wellFormed.names wellFormed.constraints
    fun parameter isIn => (writes parameter isIn).qualifiesBy
  rcases ofTexts_inserted loads found with
    ⟨before, front, back, after, split, isText, inserts⟩
  have isFree (added : TypeDeclaration)
      (means : DeclaresGeneric qualify fresh root.parameters added) :
      added.identifier.name ≠ "_" ∧
        package.type? added.identifier.name = none := by
    rw [means.name]
    exact ⟨notBlank, undeclared⟩
  rcases inserts _ _ declares isFree with
    ⟨package', added, loads', means, gains, imports⟩
  have isFresh : added.name = fresh := means.name
  have found' : package'.type? fresh = some added := by
    rw [← isFresh]
    exact gains.type?_added
  refine ⟨before, front, back, after, package', added, split, isText,
    loads', found', ?_, ?_⟩
  · intro noStar
    rcases means.generic noStar with ⟨each, span, isRecord⟩
    have sameNames :
        added.declaration.parameters.map (·.identifier.name) =
          root.parameters.map (·.name) :=
      (map_eq_of_forall₂ each fun _ _ same => same.1.symm).symm
    have isParameter := @Scope.isParameter_of_names package package' _ _
      ((denoteParameters_names denotes).symm.trans sameNames.symm)
    have denotes' :
        denoteParameters (.ofDeclared package' added)
          added.declaration.parameters = .ok root.parameters := by
      refine denoteParameters_of_denotes each ?_
      intro parameter isIn node isNode
      have readsBack := (writes parameter isIn).readsAll
        (denoteParameters_namesAll denotes isIn) node isNode
      exact gains.readsBack (isFresh ▸ notBlank) (isFresh ▸ notUniversal)
        isParameter imports readsBack
    refine ⟨sameNames, ?_⟩
    rw [Package.expand, found']
    dsimp only
    rw [denotes', underlying_record isRecord, ← gains.path]
    rfl
  · intro star
    rcases means.array star with ⟨plain, span, length, element, isArray⟩
    have several : 2 ≤ root.parameters.length := by
      rcases ofTexts_formed loads declared
        (List.mem_of_find?_eq_some found) with
        ⟨_, _, -, _, _, -, reads⟩
      exact two_le_of_startWithStar reads denotes star
    refine ⟨several, plain, length, added.file.locate span, ?_⟩
    rw [Package.expand, found']
    dsimp only
    rw [plain]
    unfold Package.underlying
    simp only [isArray]
    rfl

section Views

variable {parameters : List TypeParameter} {parameter : TypeParameter}

/-- What is seen of the references in some constraints is seen of each of them. -/
theorem view_mem
    {α : Type} {view : NamedType → α} {views : List α}
    {reference : NamedType}
    (seen :
      (parameters.flatMap (·.constraint.references)).map view = views)
    (isIn : parameter ∈ parameters)
    (isReference : reference ∈ parameter.constraint.references) :
    view reference ∈ views := by
  rw [← seen]
  exact List.mem_map_of_mem
    (List.mem_flatMap.mpr ⟨parameter, isIn, isReference⟩)

theorem unsafePointer_not_mem
    (noPointer :
      "Pointer" ∉
        (parameters.flatMap (·.constraint.nodes)).filterMap (·.ownName?))
    (isIn : parameter ∈ parameters) :
    .basic .unsafePointer ∉ parameter.constraint.nodes := by
  intro isNode
  have isWritten :
      .basic .unsafePointer ∈
        parameters.flatMap (·.constraint.nodes) :=
    List.mem_flatMap.mpr ⟨parameter, isIn, isNode⟩
  exact noPointer (List.mem_filterMap.mpr ⟨_, isWritten, rfl⟩)

end Views

/-- Grouped parameters with a union as their constraint, and a parameter with an interface that
mentions an imported type. -/
theorem Package.expand_parameterList_pair :
    let text := ("package pairs\nimport sh \"example/shapes\"\n" ++
      "type Set[K comparable] map[K]int\n" ++
      "type Pair[A, B ~int | Set[A], C interface\x7b Draw(sh.Shape) \x7d] " ++
      "struct \x7b\n\ta A\n\tb B\n\x7d\n").toList
    let qualify : Qualifier := fun reference =>
      if reference.package = "example/shapes" then some "sh" else none
    ∃ package declared root front back package',
      Package.ofTexts "pairs" "example/pairs" [("pair.go", text)] =
          .ok package ∧
        package.type? "Pair" = some declared ∧
        package.expand "Pair" = .ok root ∧
        (∀ parameter ∈ root.parameters,
          declared.Writes package qualify parameter.constraint) ∧
        IsName "Copy" ∧ "Copy" ≠ "_" ∧ package.type? "Copy" = none ∧
        Scope.universal? "Copy" = none ∧
        root.parameters.map (·.name) = ["A", "B", "C"] ∧
        text = front ++ back ∧
        Package.ofTexts "pairs" "example/pairs"
            [("pair.go", front ++ ((genericStruct qualify "Copy"
              root.parameters).toList ++ back))] = .ok package' ∧
        package'.expand "Copy" =
          .ok ⟨"Copy", package.path, some (.record []), root.parameters,
            []⟩ := by
  intro text qualify
  generalize shape :
    Package.ofTexts "pairs" "example/pairs" [("pair.go", text)] = result
  have seen :
      (result.toOption.bind fun package =>
        (package.type? "Pair").bind fun declared =>
          (package.expand "Pair").toOption.map fun root => decide <|
            package.path = "example/pairs" ∧
            (package.type? "Copy").isNone = true ∧
            (package.type? "Set").map (·.declaration.parameters.map
              (·.identifier.name)) = some ["K"] ∧
            declared.declaration.parameters.map (·.identifier.name) =
              ["A", "B", "C"] ∧
            declared.file.importPath? "sh" = some "example/shapes" ∧
            root.parameters.map (·.name) = ["A", "B", "C"] ∧
            startWithStar root.parameters = false ∧
            "Pointer" ∉ (root.parameters.flatMap
              (·.constraint.nodes)).filterMap (·.ownName?) ∧
            (root.parameters.flatMap (·.constraint.references)).map
              (fun reference => (reference.name, reference.package,
                reference.arguments.length,
                reference.parameters.map (·.name))) =
              [("Set", "example/pairs", 1, ["K"]),
                ("A", "example/pairs", 0, []),
                ("Set", "example/pairs", 1, ["K"]),
                ("A", "example/pairs", 0, []),
                ("Shape", "example/shapes", 0, [])]) =
        some true := by
    rw [← shape]
    decide +kernel
  rcases exists_expanded seen with
    ⟨package, declared, root, rfl, found, expands, seen⟩
  rcases of_decide_eq_true seen with
    ⟨path, isFree, isSet, names, bound, parameters, noStar, noPointer,
      references⟩
  have undeclared := Option.isNone_iff_eq_none.mp isFree
  rcases Option.map_eq_some_iff.mp isSet with ⟨set, isSet, setNames⟩
  have isOneOf {parameter : TypeParameter} {reference : NamedType}
      (isIn : parameter ∈ root.parameters)
      (isReference : reference ∈ parameter.constraint.references) :
      (reference.name = "Set" ∧ reference.package = "example/pairs" ∧
          reference.arguments.length = 1 ∧
          reference.parameters.map (·.name) = ["K"]) ∨
        (reference.name = "A" ∧ reference.package = "example/pairs" ∧
          reference.arguments = []) ∨
        (reference.name = "Shape" ∧ reference.package = "example/shapes" ∧
          reference.parameters = []) := by
    have isView := view_mem references isIn isReference
    simp only [List.mem_cons, Prod.mk.injEq, List.length_eq_zero_iff,
      List.map_eq_nil_iff, List.not_mem_nil, or_false] at isView
    rcases isView with isSet | isA | isSet | isA | isShape
    · exact .inl isSet
    · exact .inr (.inl ⟨isA.1, isA.2.1, isA.2.2.1⟩)
    · exact .inl isSet
    · exact .inr (.inl ⟨isA.1, isA.2.1, isA.2.2.1⟩)
    · exact .inr (.inr ⟨isShape.1, isShape.2.1, isShape.2.2.2⟩)
  have writes : ∀ parameter ∈ root.parameters,
      declared.Writes package qualify parameter.constraint := by
    intro parameter isIn
    refine ⟨?_, ?_, ?_⟩
    · intro reference isReference unqualified
      rcases isOneOf isIn isReference with
        ⟨isNamed, own, arity, carried⟩ | ⟨isNamed, own, plain⟩ |
          ⟨-, isShapes, -⟩
      · refine ⟨.declared, by decide, own.trans path.symm, set, ?_, ?_,
          carried.trans setNames.symm⟩
        · rw [isNamed, isSet]
        · have count := congrArg List.length setNames
          rw [List.length_map] at count
          exact arity.trans count.symm
      · have isParameter :
            "A" ∈ declared.declaration.parameters.map
              (·.identifier.name) := by
          rw [names]
          decide
        rcases List.mem_map.mp isParameter with ⟨first, isFirst, isA⟩
        exact ⟨.parameter, by decide, own.trans path.symm, plain, first,
          isFirst, isA.trans isNamed.symm⟩
      · simp [qualify, isShapes] at unqualified
    · intro reference isReference name qualified
      rcases isOneOf isIn isReference with
        ⟨-, own, -⟩ | ⟨-, own, -⟩ | ⟨isNamed, isShapes, uncarried⟩
      · simp [qualify, own] at qualified
      · simp [qualify, own] at qualified
      · have isName : name = "sh" := by
          simpa [qualify, isShapes] using qualified.symm
        rw [isName, isShapes]
        refine ⟨by decide, bound, ⟨?_, ?_, "sh", ?_⟩, uncarried⟩
        · rw [NamedType.isExported, isNamed]
          decide
        · rw [isShapes]
          decide
        · rw [isShapes]
          exact bound
    · intro isNode
      exact absurd isNode (unsafePointer_not_mem noPointer isIn)
  have generic : root.parameters ≠ [] := by
    intro none
    rw [none] at parameters
    cases parameters
  have isName : IsName "Copy" := by decide
  have notUniversal : Scope.universal? "Copy" = none := by decide
  rcases Package.expand_parameterList shape found expands generic writes
      isName (by decide) undeclared notUniversal with
    ⟨before, front, back, after, package', declared', split, isText, loads',
      -, reads, -⟩
  rcases List.singleton_eq_append_iff.mp split with
    ⟨rfl, only⟩ | ⟨-, none⟩
  · simp only [List.cons.injEq, Prod.mk.injEq] at only
    rcases only with ⟨⟨isPath, isWhole⟩, rfl⟩
    rw [isPath] at loads'
    exact ⟨package, declared, root, front, back, package', rfl, found,
      expands, writes, isName, by decide, undeclared, notUniversal,
      parameters, isWhole.symm.trans isText, loads', (reads noStar).2⟩
  · cases none

/-- Two type parameters that share a pointer as their constraint are read in a group, but not
as they are written. -/
theorem Package.expand_parameterList_grouped :
    let text := "package p\ntype C struct\x7b\x7d\n" ++
      "type D[A, B *C] struct \x7b a A; b B \x7d\n"
    let qualify : Qualifier := fun _ => none
    ∃ package declared root package' declared',
      Package.ofTexts "p" "example/p" [("p.go", text.toList)] =
          .ok package ∧
        package.type? "D" = some declared ∧
        package.expand "D" = .ok root ∧
        root.parameters.map (·.name) = ["A", "B"] ∧
        (∀ parameter ∈ root.parameters,
          declared.Writes package qualify parameter.constraint) ∧
        genericStruct qualify "X" root.parameters =
          "type X[A *C, B *C] struct\x7b\x7d\n" ∧
        Package.ofTexts "p" "example/p"
            [("p.go", (text ++ genericStruct qualify "X"
              root.parameters).toList)] = .ok package' ∧
        package'.type? "X" = some declared' ∧
        declared'.declaration.parameters = [] ∧
        (∃ span element, declared'.declaration.type =
          .array span (.expression "A *C, B *C") element) ∧
        ∃ fault, package'.expand "X" = .error fault := by
  intro text qualify
  generalize shape :
    Package.ofTexts "p" "example/p" [("p.go", text.toList)] = result
  have seen :
      (result.toOption.bind fun package =>
        (package.type? "D").bind fun declared =>
          (package.expand "D").toOption.map fun root => decide <|
            package.path = "example/p" ∧
            (package.type? "C").map
              (·.declaration.parameters.length) = some 0 ∧
            root.parameters.map (·.name) = ["A", "B"] ∧
            "Pointer" ∉ (root.parameters.flatMap
              (·.constraint.nodes)).filterMap (·.ownName?) ∧
            (root.parameters.flatMap (·.constraint.references)).map
              (fun reference => (reference.name, reference.package,
                reference.arguments.length,
                reference.parameters.length)) =
              [("C", "example/p", 0, 0), ("C", "example/p", 0, 0)] ∧
            genericStruct qualify "X" root.parameters =
              "type X[A *C, B *C] struct\x7b\x7d\n") =
        some true := by
    rw [← shape]
    decide +kernel
  rcases exists_expanded seen with
    ⟨package, declared, root, rfl, found, expands, seen⟩
  rcases of_decide_eq_true seen with
    ⟨path, isC, parameters, noPointer, references, written⟩
  rcases Option.map_eq_some_iff.mp isC with ⟨other, isC, plain⟩
  have writes : ∀ parameter ∈ root.parameters,
      declared.Writes package qualify parameter.constraint := by
    intro parameter isIn
    refine ⟨?_, ?_, ?_⟩
    · intro reference isReference _
      have isView := view_mem references isIn isReference
      simp only [List.mem_cons, Prod.mk.injEq, List.not_mem_nil, or_false,
        or_self] at isView
      rcases isView with ⟨isNamed, own, arity, carried⟩
      refine ⟨.declared, by decide, own.trans path.symm, other, ?_, ?_, ?_⟩
      · rw [isNamed, isC]
      · rw [arity, plain]
      · rw [List.length_eq_zero_iff.mp carried,
          List.length_eq_zero_iff.mp plain]
        rfl
    · intro reference _ name qualified
      cases qualified
    · intro isNode
      exact absurd isNode (unsafePointer_not_mem noPointer isIn)
  generalize shape' :
    Package.ofTexts "p" "example/p"
      [("p.go", (text ++ genericStruct qualify "X"
        root.parameters).toList)] = result'
  have seen' :
      (result'.toOption.bind fun package' =>
        (package'.type? "X").map fun declared' => decide <|
          declared'.declaration.parameters.isEmpty = true ∧
            declared'.declaration.type =
              .array ⟨68, 89⟩ (.expression "A *C, B *C")
                (.record ⟨81, 89⟩ []) ∧
            (package'.expand "X").toOption.isNone = true) =
        some true := by
    rw [← shape', written]
    decide +kernel
  rcases Option.bind_eq_some_iff.mp seen' with ⟨package', loads', seen'⟩
  rcases Option.map_eq_some_iff.mp seen' with ⟨declared', found', seen'⟩
  rcases of_decide_eq_true seen' with ⟨isPlain, isArray, isNone⟩
  have plain' := List.isEmpty_iff.mp isPlain
  have fails :=
    exists_error_of_toOption (Option.isNone_iff_eq_none.mp isNone)
  refine ⟨package, declared, root, package', declared', rfl, found, expands,
    parameters, writes, written, ?_, found', plain', ⟨_, _, isArray⟩, fails⟩
  rw [shape']
  exact eq_ok_of_toOption loads'

end GoUnion
