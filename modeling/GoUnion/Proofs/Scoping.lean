import GoUnion.GoType.Traversal
import GoUnion.Proofs.WellFormed.Expansion
import Mathlib.Data.List.Forall2

/-!
# Scoped references

Where the names inside a type come from.  A name that resolves is a type
parameter, a type of the package with as many arguments as it has parameters, a
name of the universe, or an exported name of a package that the file imports.
Every basic type and every reference inside what an expression denotes came
about in one of these ways.

What a reference is made of does not always tell which way it was.  A type
parameter may hide a type of the package, and a package that a file imports
under a name may be the package itself.  Apart from that the ways exclude each
other.
-/

namespace GoUnion

open Reader (bind_eq_ok)

variable {scope : Scope}

/-! ## Names -/

/-- How a name of a scope comes to stand for a type. -/
inductive Scope.Names (scope : Scope) : GoType → Prop where
  | parameter {name : String}
      (isParameter : scope.isParameter name = true) :
      Names scope (.named (.reference name scope.package.path))
  | declared {declared : Declared} {parameters : List TypeParameter}
      {arguments : List GoType}
      (notParameter : scope.isParameter declared.name = false)
      (found : scope.package.type? declared.name = some declared)
      (arity :
        arguments.length = declared.declaration.parameters.length)
      (carried : scope.carried declared = .ok parameters) :
      Names scope
        (.named ⟨declared.name, scope.package.path, none, parameters,
          arguments⟩)
  | basic {name : String} {type : BasicType}
      (notParameter : scope.isParameter name = false)
      (undeclared : scope.package.type? name = none)
      (found : BasicType.ofName? name = some type) :
      Names scope (.basic type)
  | predeclared {name : String}
      (notParameter : scope.isParameter name = false)
      (undeclared : scope.package.type? name = none)
      (notBasic : BasicType.ofName? name = none)
      (found : name ∈ Scope.predeclaredNames) :
      Names scope (.named (.predeclared name))
  | unsafePointer {qualifier : String}
      (bound : scope.file.importPath? qualifier = some "unsafe") :
      Names scope (.basic .unsafePointer)
  | imported {qualifier name path : String} {arguments : List GoType}
      (bound : scope.file.importPath? qualifier = some path)
      (notUnsafe : path ≠ "unsafe")
      (isExported : Name.isExported name = true) :
      Names scope (.named ⟨name, path, none, [], arguments⟩)

/-- Every basic type and every reference among some types comes from a name of the scope. -/
def Scope.NamesAll (scope : Scope) (nodes : List GoType) : Prop :=
  ∀ node ∈ nodes, node.ownName?.isSome = true → scope.Names node

namespace Scope

@[simp]
theorem namesAll_nil : scope.NamesAll [] := by
  simp [NamesAll]

@[simp]
theorem namesAll_cons {node : GoType} {nodes : List GoType} :
    scope.NamesAll (node :: nodes) ↔
      (node.ownName?.isSome = true → scope.Names node) ∧
        scope.NamesAll nodes :=
  List.forall_mem_cons

@[simp]
theorem namesAll_append {nodes others : List GoType} :
    scope.NamesAll (nodes ++ others) ↔
      scope.NamesAll nodes ∧ scope.NamesAll others :=
  List.forall_mem_append

/-- A type that does not go by a name asks for the names of its parts only. -/
theorem NamesAll.within
    {node : GoType} {nodes : List GoType}
    (unnamed : node.ownName? = none) (inner : scope.NamesAll nodes) :
    scope.NamesAll (node :: nodes) := by
  refine namesAll_cons.mpr ⟨?_, inner⟩
  intro isNamed
  rw [unnamed] at isNamed
  cases isNamed

end Scope

/-- What a name resolves to under its arguments comes from a name of the scope, and nothing is
inside it but the arguments. -/
def ResolvesByName
    (scope : Scope) (count : Nat) (resolved : Scope.Resolved) : Prop :=
  ∀ arguments type, arguments.length = count →
    resolved arguments = .ok type →
      scope.Names type ∧ type.nodes = type :: typeNodes arguments

theorem constant_resolvesByName
    {type : GoType} (names : scope.Names type)
    (nodes : type.nodes = [type]) :
    ResolvesByName scope 0 (Scope.constant type) := by
  intro arguments result isEmpty resolves
  cases resolves
  rw [List.length_eq_zero_iff.mp isEmpty, typeNodes]
  exact ⟨names, nodes⟩

theorem resolveDeclared_resolvesByName
    {declared : Declared} {count : Nat} {span : Text.Span}
    {resolved : Scope.Resolved}
    (notParameter : scope.isParameter declared.name = false)
    (found : scope.package.type? declared.name = some declared)
    (succeeds : scope.resolveDeclared declared count span = .ok resolved) :
    ResolvesByName scope count resolved := by
  simp only [Scope.resolveDeclared] at succeeds
  split at succeeds
  case isTrue arity =>
    cases succeeds
    intro arguments type isLength resolves
    rcases bind_eq_ok resolves with ⟨parameters, carried, result⟩
    cases result
    rw [nodes_named]
    exact ⟨.declared notParameter found (isLength.trans arity.symm) carried,
      rfl⟩
  case isFalse =>
    split at succeeds
    · cases succeeds
    · cases succeeds

theorem universal?_names
    {name : String} {type : GoType}
    (notParameter : scope.isParameter name = false)
    (undeclared : scope.package.type? name = none)
    (found : Scope.universal? name = some type) :
    scope.Names type ∧ type.nodes = [type] := by
  rw [Scope.universal?] at found
  split at found
  case h_1 basic isBasic =>
    cases found
    rw [GoType.nodes]
    exact ⟨.basic notParameter undeclared isBasic, rfl⟩
  case h_2 notBasic =>
    split at found
    case isTrue isPredeclared =>
      cases found
      rw [List.contains_iff_mem] at isPredeclared
      exact ⟨.predeclared notParameter undeclared notBasic isPredeclared,
        rfl⟩
    case isFalse => cases found

theorem resolveLocal_resolvesByName
    {identifier : Identifier} {count : Nat} {span : Text.Span}
    {resolved : Scope.Resolved}
    (succeeds : scope.resolveLocal identifier count span = .ok resolved) :
    ResolvesByName scope count resolved := by
  simp only [Scope.resolveLocal] at succeeds
  split at succeeds
  case isTrue isParameter =>
    split at succeeds
    case isTrue isConstant =>
      cases succeeds
      subst isConstant
      exact constant_resolvesByName (.parameter isParameter) rfl
    case isFalse => cases succeeds
  case isFalse notParameter =>
    rw [Bool.not_eq_true] at notParameter
    split at succeeds
    case h_1 declared found =>
      have named : declared.name = identifier.name := by
        simpa using List.find?_some found
      rw [← named] at notParameter found
      exact resolveDeclared_resolvesByName notParameter found succeeds
    case h_2 undeclared =>
      split at succeeds
      case h_1 type found =>
        split at succeeds
        case isTrue isConstant =>
          cases succeeds
          subst isConstant
          rcases universal?_names notParameter undeclared found with
            ⟨names, nodes⟩
          exact constant_resolvesByName names nodes
        case isFalse => cases succeeds
      case h_2 =>
        split at succeeds
        · cases succeeds
        · cases succeeds

theorem resolveImported_resolvesByName
    {qualifier identifier : Identifier} {count : Nat}
    {resolved : Scope.Resolved}
    (succeeds :
      scope.resolveImported qualifier identifier count = .ok resolved) :
    ResolvesByName scope count resolved := by
  simp only [Scope.resolveImported] at succeeds
  split at succeeds
  case h_1 => cases succeeds
  case h_2 path bound =>
    split at succeeds
    case isTrue isUnsafe =>
      subst isUnsafe
      split at succeeds
      case isTrue isPointer =>
        cases succeeds
        rw [isPointer.2]
        exact constant_resolvesByName (.unsafePointer bound) rfl
      case isFalse => cases succeeds
    case isFalse notUnsafe =>
      split at succeeds
      case isTrue isExported =>
        cases succeeds
        intro arguments type _ resolves
        cases resolves
        rw [nodes_named]
        exact ⟨.imported bound notUnsafe isExported, rfl⟩
      case isFalse => cases succeeds

theorem resolve_resolvesByName
    {qualifier : Option Identifier} {identifier : Identifier} {count : Nat}
    {span : Text.Span} {resolved : Scope.Resolved}
    (succeeds :
      scope.resolve qualifier identifier count span = .ok resolved) :
    ResolvesByName scope count resolved := by
  cases qualifier with
  | none => exact resolveLocal_resolvesByName succeeds
  | some qualifier => exact resolveImported_resolvesByName succeeds

/-! ## Expressions -/

theorem denoteAll_length
    {expressions : List TypeExpr} {types : List GoType}
    (succeeds : denoteAll scope expressions = .ok types) :
    types.length = expressions.length :=
  (denoteAll_eq_ok succeeds).length_eq.symm

theorem denoteParameters_names
    {expressions : List TypeParameterExpr} {parameters : List TypeParameter}
    (denotes : denoteParameters scope expressions = .ok parameters) :
    parameters.map (·.name) = expressions.map (·.identifier.name) := by
  have each := mapM_eq_ok denotes
  clear denotes
  induction each with
  | nil => rfl
  | cons denotes _ ih =>
      rcases bind_eq_ok denotes with ⟨constraint, -, yields⟩
      cases yields
      rw [List.map_cons, List.map_cons, ih]

mutual

/-- All names inside what an expression denotes are names of the scope. -/
theorem TypeExpr.denote_namesAll : ∀ (expression : TypeExpr)
    {type : GoType}, expression.denote scope = .ok type →
      scope.NamesAll type.nodes
  | .name span qualifier identifier arguments, type, succeeds => by
      rw [TypeExpr.denote] at succeeds
      rcases bind_eq_ok succeeds with ⟨resolved, resolves, succeeds⟩
      rcases bind_eq_ok succeeds with ⟨types, denotes, yields⟩
      rcases resolve_resolvesByName resolves types type
        (denoteAll_length denotes) yields with ⟨names, nodes⟩
      rw [nodes, Scope.namesAll_cons]
      exact ⟨fun _ => names, denoteAll_namesAll arguments denotes⟩
  | .pointer _ element, type, succeeds => by
      rw [TypeExpr.denote] at succeeds
      rcases bind_eq_ok succeeds with ⟨inner, denotes, yields⟩
      cases yields
      exact .within rfl (element.denote_namesAll denotes)
  | .array span length element, type, succeeds => by
      rw [TypeExpr.denote] at succeeds
      rcases bind_eq_ok succeeds with ⟨count, -, succeeds⟩
      rcases bind_eq_ok succeeds with ⟨inner, denotes, yields⟩
      cases yields
      exact .within rfl (element.denote_namesAll denotes)
  | .slice _ element, type, succeeds => by
      rw [TypeExpr.denote] at succeeds
      rcases bind_eq_ok succeeds with ⟨inner, denotes, yields⟩
      cases yields
      exact .within rfl (element.denote_namesAll denotes)
  | .map _ key value, type, succeeds => by
      rw [TypeExpr.denote] at succeeds
      rcases bind_eq_ok succeeds with ⟨first, denotesKey, succeeds⟩
      rcases bind_eq_ok succeeds with ⟨second, denotesValue, yields⟩
      cases yields
      exact .within rfl (Scope.namesAll_append.mpr
        ⟨key.denote_namesAll denotesKey,
          value.denote_namesAll denotesValue⟩)
  | .channel _ direction element, type, succeeds => by
      rw [TypeExpr.denote] at succeeds
      rcases bind_eq_ok succeeds with ⟨inner, denotes, yields⟩
      cases yields
      exact .within rfl (element.denote_namesAll denotes)
  | .function _ function, type, succeeds => by
      rw [TypeExpr.denote] at succeeds
      rcases bind_eq_ok succeeds with ⟨signature, denotes, yields⟩
      cases yields
      exact .within rfl (function.denote_namesAll denotes)
  | .record _ fields, type, succeeds => by
      rw [TypeExpr.denote] at succeeds
      rcases bind_eq_ok succeeds with ⟨inner, denotes, yields⟩
      cases yields
      exact .within rfl (denoteFields_namesAll fields denotes)
  | .interface _ members, type, succeeds => by
      rw [TypeExpr.denote] at succeeds
      rcases bind_eq_ok succeeds with ⟨⟨methods, embeds⟩, denotes, yields⟩
      cases yields
      exact .within rfl (denoteMembers_namesAll members denotes)
  | .union _ terms, type, succeeds => by
      rw [TypeExpr.denote] at succeeds
      rcases bind_eq_ok succeeds with ⟨inner, denotes, yields⟩
      cases yields
      exact .within rfl (denoteTerms_namesAll terms denotes)

theorem denoteAll_namesAll : ∀ (expressions : List TypeExpr)
    {types : List GoType}, denoteAll scope expressions = .ok types →
      scope.NamesAll (typeNodes types)
  | [], types, succeeds => by
      cases succeeds
      exact Scope.namesAll_nil
  | expression :: expressions, types, succeeds => by
      rw [denoteAll] at succeeds
      rcases bind_eq_ok succeeds with ⟨first, denotes, succeeds⟩
      rcases bind_eq_ok succeeds with ⟨others, denotesOthers, yields⟩
      cases yields
      exact Scope.namesAll_append.mpr ⟨expression.denote_namesAll denotes,
        denoteAll_namesAll expressions denotesOthers⟩

theorem FunctionExpr.denote_namesAll : ∀ (function : FunctionExpr)
    {signature : Signature}, function.denote scope = .ok signature →
      scope.NamesAll signature.nodes
  | ⟨parameters, results, variadic⟩, signature, succeeds => by
      rw [FunctionExpr.denote] at succeeds
      rcases bind_eq_ok succeeds with
        ⟨first, denotesParameters, succeeds⟩
      rcases bind_eq_ok succeeds with ⟨second, denotesResults, yields⟩
      cases yields
      exact Scope.namesAll_append.mpr
        ⟨denoteVariables_namesAll parameters denotesParameters,
          denoteVariables_namesAll results denotesResults⟩

theorem denoteVariables_namesAll : ∀ (list : List ParameterExpr)
    {variadic : Bool} {items : List Variable},
      denoteVariables scope variadic list = .ok items →
        scope.NamesAll (variableNodes items)
  | [], variadic, items, succeeds => by
      cases succeeds
      exact Scope.namesAll_nil
  | ⟨identifier, expression⟩ :: list, variadic, items, succeeds => by
      have spread {type : GoType}
          (denotes : expression.denote scope = .ok type) :
          scope.NamesAll
            (if variadic then GoType.slice type else type).nodes := by
        have inner := expression.denote_namesAll denotes
        cases variadic with
        | false => exact inner
        | true => exact .within rfl inner
      cases list with
      | nil =>
          rw [denoteVariables] at succeeds
          rcases bind_eq_ok succeeds with ⟨type, denotes, yields⟩
          cases yields
          exact Scope.namesAll_append.mpr
            ⟨spread denotes, Scope.namesAll_nil⟩
      | cons second rest =>
          rw [denoteVariables] at succeeds
          · rcases bind_eq_ok succeeds with ⟨type, denotes, succeeds⟩
            rcases bind_eq_ok succeeds with ⟨others, denotesOthers, yields⟩
            cases yields
            exact Scope.namesAll_append.mpr
              ⟨expression.denote_namesAll denotes,
                denoteVariables_namesAll (second :: rest) denotesOthers⟩
          · simp

theorem denoteFields_namesAll : ∀ (list : List FieldExpr)
    {fields : List Field}, denoteFields scope list = .ok fields →
      scope.NamesAll (fieldNodes fields)
  | [], fields, succeeds => by
      cases succeeds
      exact Scope.namesAll_nil
  | ⟨identifier, expression, tag, embedded⟩ :: list, fields, succeeds => by
      rw [denoteFields] at succeeds
      rcases bind_eq_ok succeeds with ⟨first, denotes, succeeds⟩
      rcases bind_eq_ok succeeds with ⟨others, denotesOthers, yields⟩
      cases yields
      exact Scope.namesAll_append.mpr ⟨expression.denote_namesAll denotes,
        denoteFields_namesAll list denotesOthers⟩

theorem denoteMembers_namesAll : ∀ (list : List MemberExpr)
    {methods : List Method} {embeds : List GoType},
      denoteMembers scope list = .ok (methods, embeds) →
        scope.NamesAll (methodNodes methods ++ typeNodes embeds)
  | [], methods, embeds, succeeds => by
      cases succeeds
      exact Scope.namesAll_nil
  | .method identifier function :: list, methods, embeds, succeeds => by
      rw [denoteMembers] at succeeds
      rcases bind_eq_ok succeeds with ⟨signature, denotes, succeeds⟩
      rcases bind_eq_ok succeeds with
        ⟨⟨others, types⟩, denotesOthers, yields⟩
      cases yields
      rw [methodNodes, List.append_assoc]
      exact Scope.namesAll_append.mpr ⟨function.denote_namesAll denotes,
        denoteMembers_namesAll list denotesOthers⟩
  | .embed expression :: list, methods, embeds, succeeds => by
      rw [denoteMembers] at succeeds
      rcases bind_eq_ok succeeds with ⟨type, denotes, succeeds⟩
      rcases bind_eq_ok succeeds with
        ⟨⟨others, types⟩, denotesOthers, yields⟩
      cases yields
      have inner := expression.denote_namesAll denotes
      have outer := denoteMembers_namesAll list denotesOthers
      rw [Scope.namesAll_append] at outer
      rw [typeNodes, Scope.namesAll_append, Scope.namesAll_append]
      exact ⟨outer.1, inner, outer.2⟩

theorem denoteTerms_namesAll : ∀ (list : List TermExpr)
    {members : List UnionMember}, denoteTerms scope list = .ok members →
      scope.NamesAll (memberNodes members)
  | [], members, succeeds => by
      cases succeeds
      exact Scope.namesAll_nil
  | ⟨approximate, expression⟩ :: list, members, succeeds => by
      rw [denoteTerms] at succeeds
      rcases bind_eq_ok succeeds with ⟨first, denotes, succeeds⟩
      rcases bind_eq_ok succeeds with ⟨others, denotesOthers, yields⟩
      cases yields
      exact Scope.namesAll_append.mpr ⟨expression.denote_namesAll denotes,
        denoteTerms_namesAll list denotesOthers⟩

end

/-! ## Declarations -/

/-- What a reference may be to a declaration that mentions it. -/
inductive ReferenceKind where
  /-- A type parameter of the declaration. -/
  | parameter
  /-- A type of the same package. -/
  | declared
  /-- A name of the universe. -/
  | universal
  /-- An exported name of a package that the file imports. -/
  | imported
  deriving DecidableEq

/-- A reference has what a reference of some kind is made of. -/
def Declared.Refers
    (package : Package) (declared : Declared) (reference : NamedType) :
    ReferenceKind → Prop
  | .parameter =>
    reference.package = package.path ∧ reference.arguments = [] ∧
      ∃ parameter ∈ declared.declaration.parameters,
        parameter.identifier.name = reference.name
  | .declared =>
    reference.package = package.path ∧
      ∃ other, package.type? reference.name = some other ∧
        reference.arguments.length = other.declaration.parameters.length ∧
        reference.parameters.map (·.name) =
          other.declaration.parameters.map (·.identifier.name)
  | .universal =>
    reference.package = "" ∧ reference.arguments = [] ∧
      reference.name ∈ Scope.predeclaredNames
  | .imported =>
    reference.isExported = true ∧ reference.package ≠ "unsafe" ∧
      ∃ name, declared.file.importPath? name = some reference.package

/-- The kinds of references to a declaration exclude each other: no type parameter hides a type
of the package, the file does not import its own package, and the package has a path. -/
structure Declared.TellsApart
    (package : Package) (declared : Declared) : Prop where
  unhidden : ∀ parameter ∈ declared.declaration.parameters,
    package.type? parameter.identifier.name = none
  foreign : ∀ name, declared.file.importPath? name ≠ some package.path
  placed : package.path ≠ ""

/-- The references that a declaration is written with: those of its structure and those of the
constraints of its type parameters. -/
def NamedType.written (type : NamedType) : List NamedType :=
  (type.underlying.toList ++ type.parameters.map (·.constraint)).flatMap
    (·.references)

theorem mem_references {type : GoType} {reference : NamedType} :
    reference ∈ type.references ↔ .named reference ∈ type.nodes := by
  rw [GoType.references, List.mem_filterMap]
  constructor
  · rintro ⟨node, isIn, found⟩
    cases node with
    | named other =>
        cases found
        exact isIn
    | _ => cases found
  · intro isIn
    exact ⟨_, isIn, rfl⟩

/-- A reference that comes from a name of the scope has one of the four kinds. -/
theorem Scope.Names.refers
    {package : Package} {declared : Declared} {reference : NamedType}
    (names : (Scope.ofDeclared package declared).Names (.named reference)) :
    ∃ kind, declared.Refers package reference kind := by
  cases names with
  | @parameter name isParameter =>
      rw [Scope.isParameter, List.any_eq_true] at isParameter
      rcases isParameter with ⟨parameter, isIn, same⟩
      exact ⟨.parameter, rfl, rfl, parameter, isIn, of_decide_eq_true same⟩
  | @declared other parameters arguments _ found arity carried =>
      refine ⟨.declared, rfl, other, found, arity, ?_⟩
      exact denoteParameters_names carried
  | predeclared _ _ _ found =>
      exact ⟨.universal, rfl, rfl, found⟩
  | imported bound notUnsafe isExported =>
      exact ⟨.imported, isExported, notUnsafe, _, bound⟩

theorem Declared.exists_refers
    {package : Package} {declared : Declared} {type : GoType}
    {reference : NamedType}
    (names :
      (Scope.ofDeclared package declared).NamesAll type.nodes)
    (isIn : reference ∈ type.references) :
    ∃ kind, declared.Refers package reference kind :=
  (names _ (mem_references.mp isIn) rfl).refers

/-- The structure of a declaration that does not just name another type has names of its scope
only. -/
theorem underlying_namesReferences
    {package : Package} {steps : Nat} {declared : Declared} {type : GoType}
    (ownType : ∀ span identifier,
      declared.declaration.type ≠ .name span none identifier [])
    (succeeds : package.underlying steps declared = .ok type) :
    ∀ reference ∈ type.references,
      ∃ kind, declared.Refers package reference kind := by
  intro reference isIn
  cases underlying_eq_ok succeeds with
  | pointer => cases isIn
  | anything => cases isIn
  | failure => cases isIn
  | denoted denotes =>
      exact Declared.exists_refers
        (TypeExpr.denote_namesAll _ denotes) isIn
  | record shape denotes =>
      have names :
          (Scope.ofDeclared package declared).NamesAll
            (GoType.record _).nodes :=
        .within rfl
          (denoteFields_namesAll _ (rootFields_eq_ok.mp denotes))
      exact Declared.exists_refers names isIn
  | follows shape => exact absurd shape (ownType _ _)

/-- Where the kinds of references exclude each other, a reference is of one kind at most. -/
theorem Declared.TellsApart.unique
    {package : Package} {declared : Declared} {reference : NamedType}
    {kind kind' : ReferenceKind}
    (apart : declared.TellsApart package)
    (refers : declared.Refers package reference kind)
    (refers' : declared.Refers package reference kind') :
    kind = kind' := by
  have notBoth :
      declared.Refers package reference .parameter →
        ¬ declared.Refers package reference .declared := by
    rintro ⟨-, -, parameter, isIn, same⟩ ⟨-, other, found, -⟩
    rw [← same, apart.unhidden parameter isIn] at found
    cases found
  have notUniversal
      (own : reference.package = package.path) :
      ¬ declared.Refers package reference .universal := by
    rintro ⟨isEmpty, -⟩
    exact apart.placed (own.symm.trans isEmpty)
  have notImported
      (own : reference.package = package.path) :
      ¬ declared.Refers package reference .imported := by
    rintro ⟨-, -, name, bound⟩
    rw [own] at bound
    exact apart.foreign name bound
  have notExported :
      declared.Refers package reference .universal →
        ¬ declared.Refers package reference .imported := by
    rintro ⟨-, -, isIn⟩ ⟨isExported, -⟩
    have hidden :
        ∀ name ∈ Scope.predeclaredNames, Name.isExported name = false := by
      decide
    rw [NamedType.isExported, hidden _ isIn] at isExported
    cases isExported
  cases kind <;> cases kind'
  case parameter.parameter | declared.declared | universal.universal |
      imported.imported => rfl
  case parameter.declared => exact absurd refers' (notBoth refers)
  case declared.parameter => exact absurd refers (notBoth refers')
  case parameter.universal | declared.universal =>
    exact absurd refers' (notUniversal refers.1)
  case universal.parameter | universal.declared =>
    exact absurd refers (notUniversal refers'.1)
  case parameter.imported | declared.imported =>
    exact absurd refers' (notImported refers.1)
  case imported.parameter | imported.declared =>
    exact absurd refers (notImported refers'.1)
  case universal.imported => exact absurd refers' (notExported refers)
  case imported.universal => exact absurd refers (notExported refers')

theorem PackageFile.path_of_importPath?
    {file : PackageFile} {name path : String}
    (bound : file.importPath? name = some path) :
    path ∈ file.syntaxTree.imports.map (·.path) := by
  rcases List.lookup_eq_some_iff.mp bound with ⟨front, back, shape, -⟩
  have isIn :
      (name, path) ∈ file.syntaxTree.imports.filterMap binding? := by
    rw [← List.mem_reverse, shape]
    exact List.mem_append_right _ List.mem_cons_self
  rcases List.mem_filterMap.mp isIn with ⟨spec, inImports, binds⟩
  have samePath : spec.path = path := by
    rw [binding?] at binds
    split at binds
    case h_1 => exact congrArg Prod.snd (Option.some.inj binds)
    case h_2 =>
      split at binds
      case isTrue => cases binds
      case isFalse => exact congrArg Prod.snd (Option.some.inj binds)
  exact samePath ▸ List.mem_map_of_mem inImports

/-- Every reference that a declaration is written with is a type parameter, a type of the package,
a name of the universe or an exported name of an imported package; only one of these where the
declaration tells them apart. -/
theorem Package.expand_scoped
    {package : Package} {declared : Declared} {name : String}
    {root : NamedType}
    (found : package.type? name = some declared)
    (ownType : ∀ span identifier,
      declared.declaration.type ≠ .name span none identifier [])
    (expands : package.expand name = .ok root) :
    ∀ reference ∈ root.written,
      (∃ kind, declared.Refers package reference kind) ∧
        (declared.TellsApart package →
          ∃! kind, declared.Refers package reference kind) := by
  intro reference isWritten
  have some :
      ∃ kind, declared.Refers package reference kind := by
    rw [Package.expand, found] at expands
    rcases bind_eq_ok expands with ⟨parameters, denotes, expands⟩
    rcases bind_eq_ok expands with ⟨type, follows, yields⟩
    cases yields
    rcases List.mem_flatMap.mp isWritten with ⟨part, isPart, isIn⟩
    rcases List.mem_cons.mp isPart with rfl | isConstraint
    · exact underlying_namesReferences ownType follows reference isIn
    · rcases List.mem_map.mp isConstraint with ⟨parameter, inList, rfl⟩
      rcases exists_of_forall₂ (mapM_eq_ok denotes) inList with
        ⟨expression, -, denotes⟩
      rcases bind_eq_ok denotes with ⟨constraint, succeeds, yields⟩
      cases yields
      exact Declared.exists_refers
        (TypeExpr.denote_namesAll _ succeeds) isIn
  rcases some with ⟨kind, refers⟩
  exact ⟨⟨kind, refers⟩, fun apart =>
    ⟨kind, refers, fun kind' refers' => apart.unique refers' refers⟩⟩

theorem eq_ok_of_toOption
    {ε α : Type} {result : Except ε α} {value : α}
    (isSome : result.toOption = some value) :
    result = .ok value := by
  cases result with
  | error fault => cases isSome
  | ok other =>
      cases isSome
      rfl

/-- A declaration that is expanded, with what is seen of it. -/
theorem exists_expanded
    {α : Type} {result : Except LoadError Package} {name : String}
    {view : Package → Declared → NamedType → α} {value : α}
    (seen :
      (result.toOption.bind fun package =>
        (package.type? name).bind fun declared =>
          (package.expand name).toOption.map (view package declared)) =
        some value) :
    ∃ package declared root, result = .ok package ∧
      package.type? name = some declared ∧
      package.expand name = .ok root ∧
      view package declared root = value := by
  rcases Option.bind_eq_some_iff.mp seen with ⟨package, loads, seen⟩
  rcases Option.bind_eq_some_iff.mp seen with ⟨declared, found, seen⟩
  rcases Option.map_eq_some_iff.mp seen with ⟨root, expands, seen⟩
  exact ⟨package, declared, root, eq_ok_of_toOption loads, found,
    eq_ok_of_toOption expands, seen⟩

/-- A generic struct that mentions its parameter, another generic type and itself, an imported
type and names of the universe. -/
theorem Package.expand_scoped_box :
    ∃ package declared root,
      Package.ofTexts "boxes" "example/boxes"
          [("box.go", ("package boxes\n" ++
            "import shapes \"example/shapes\"\n" ++
            "type Pair[A, B any] struct \x7b a A; b B \x7d\n" ++
            "type Box[T comparable] struct \x7b\n" ++
            "\tfirst *T\n\tsecond Pair[T, shapes.Shape]\n" ++
            "\tthird func(error) Box[T]\n\x7d\n").toList)] =
          .ok package ∧
        package.type? "Box" = some declared ∧
        (∀ span identifier,
          declared.declaration.type ≠ .name span none identifier []) ∧
        package.expand "Box" = .ok root ∧
        root.written.map (·.name) =
          ["T", "Pair", "T", "Shape", "error", "Box", "T",
            "comparable"] ∧
        ∀ reference ∈ root.written,
          ∃! kind, declared.Refers package reference kind := by
  generalize shape : Package.ofTexts _ _ _ = result
  have seen :
      (result.toOption.bind fun package =>
        (package.type? "Box").bind fun declared =>
          (package.expand "Box").toOption.map fun root =>
            (declared.declaration.type matches .record ..,
              declared.declaration.parameters.all fun parameter =>
                (package.type? parameter.identifier.name).isNone,
              declared.file.syntaxTree.imports.map (·.path),
              package.path, root.written.map (·.name))) =
        some (true, true, ["example/shapes"], "example/boxes",
          ["T", "Pair", "T", "Shape", "error", "Box", "T",
            "comparable"]) := by
    rw [← shape]
    decide +kernel
  rcases exists_expanded seen with
    ⟨package, declared, root, rfl, found, expands, seen⟩
  simp only [Prod.mk.injEq] at seen
  rcases seen with ⟨isRecord, unhidden, imports, path, names⟩
  have ownType span identifier :
      declared.declaration.type ≠ .name span none identifier [] := by
    intro isName
    rw [isName] at isRecord
    cases isRecord
  have apart : declared.TellsApart package := by
    refine ⟨?_, ?_, ?_⟩
    · intro parameter isIn
      have isNone := List.all_eq_true.mp unhidden parameter isIn
      exact Option.isNone_iff_eq_none.mp isNone
    · intro name bound
      have isIn := PackageFile.path_of_importPath? bound
      rw [imports, path] at isIn
      revert isIn
      decide
    · rw [path]
      decide
  refine ⟨package, declared, root, rfl, found, ownType, expands, names, ?_⟩
  intro reference isWritten
  exact (expand_scoped found ownType expands reference isWritten).2 apart

/-- A file that imports its own package under a name can refer to one type in two ways, and a type
parameter can hide a type of the package: such references are of two kinds. -/
theorem Package.expand_scoped_ambiguous :
    ∃ package declared root,
      Package.ofTexts "pairs" "example/pairs"
          [("pair.go", ("package pairs\n" ++
            "import self \"example/pairs\"\n" ++
            "type Key int\ntype T int\n" ++
            "type Pair[T any] struct \x7b\n" ++
            "\tkey self.Key\n\tvalue T\n\x7d\n").toList)] =
          .ok package ∧
        package.type? "Pair" = some declared ∧
        (∀ span identifier,
          declared.declaration.type ≠ .name span none identifier []) ∧
        package.expand "Pair" = .ok root ∧
        ∃ key value, key ∈ root.written ∧ value ∈ root.written ∧
          declared.Refers package key .declared ∧
          declared.Refers package key .imported ∧
          declared.Refers package value .parameter ∧
          declared.Refers package value .declared ∧
          ¬ ∀ reference ∈ root.written,
            ∃! kind, declared.Refers package reference kind := by
  generalize shape : Package.ofTexts _ _ _ = result
  have seen :
      (result.toOption.bind fun package =>
        (package.type? "Pair").bind fun declared =>
          (package.expand "Pair").toOption.map fun root => decide <|
            (declared.declaration.type matches .record ..) = true ∧
            declared.declaration.parameters.map (·.identifier.name) =
              ["T"] ∧
            declared.file.importPath? "self" = some "example/pairs" ∧
            package.path = "example/pairs" ∧
            (package.type? "Key").map
              (·.declaration.parameters.length) = some 0 ∧
            (package.type? "T").map
              (·.declaration.parameters.length) = some 0 ∧
            root.written.map (fun reference =>
              (reference.name, reference.package,
                reference.arguments.length, reference.parameters.length)) =
              [("Key", "example/pairs", 0, 0),
                ("T", "example/pairs", 0, 0), ("any", "", 0, 0)]) =
        some true := by
    rw [← shape]
    decide +kernel
  rcases exists_expanded seen with
    ⟨package, declared, root, rfl, found, expands, seen⟩
  rcases of_decide_eq_true seen with
    ⟨isRecord, parameters, bound, path, plainKey, plainT, written⟩
  have ownType span identifier :
      declared.declaration.type ≠ .name span none identifier [] := by
    intro isName
    rw [isName] at isRecord
    cases isRecord
  have isDeclared {reference : NamedType} {name : String}
      (plain :
        (package.type? name).map (·.declaration.parameters.length) =
          some 0)
      (made :
        (reference.name, reference.package, reference.arguments.length,
          reference.parameters.length) = (name, "example/pairs", 0, 0)) :
      declared.Refers package reference .declared := by
    simp only [Prod.mk.injEq, List.length_eq_zero_iff] at made
    rcases made with ⟨rfl, own, unapplied, uncarried⟩
    rcases Option.map_eq_some_iff.mp plain with ⟨other, isOther, count⟩
    rw [List.length_eq_zero_iff] at count
    refine ⟨own.trans path.symm, other, isOther, ?_, ?_⟩
    · rw [unapplied, count]
      rfl
    · rw [uncarried, count]
      rfl
  rcases List.map_eq_cons_iff.mp written with
    ⟨key, others, shape, isKey, written⟩
  rcases List.map_eq_cons_iff.mp written with ⟨value, _, rfl, isValue, -⟩
  have keyDeclared := isDeclared plainKey isKey
  have valueDeclared := isDeclared plainT isValue
  simp only [Prod.mk.injEq, List.length_eq_zero_iff] at isKey isValue
  have keyImported : declared.Refers package key .imported := by
    refine ⟨?_, ?_, "self", ?_⟩
    · rw [NamedType.isExported, isKey.1]
      decide
    · rw [isKey.2.1]
      decide
    · rw [bound, isKey.2.1]
  have valueParameter : declared.Refers package value .parameter := by
    rcases List.map_eq_cons_iff.mp parameters with
      ⟨parameter, _, list, isName, -⟩
    refine ⟨isValue.2.1.trans path.symm, isValue.2.2.1, parameter, ?_,
      isName.trans isValue.1.symm⟩
    rw [list]
    exact List.mem_cons_self
  have isIn : key ∈ root.written := by simp [shape]
  refine ⟨package, declared, root, rfl, found, ownType, expands, key, value,
    isIn, by simp [shape], keyDeclared, keyImported, valueParameter,
    valueDeclared, ?_⟩
  intro onlyOne
  rcases onlyOne key isIn with ⟨kind, -, unique⟩
  have same := (unique _ keyDeclared).trans (unique _ keyImported).symm
  cases same

end GoUnion
