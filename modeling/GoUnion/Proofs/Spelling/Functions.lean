import GoUnion.Proofs.Places
import GoUnion.Proofs.Spelling.Types

/-!
# Spelled function types

A list of parameters or results either names all of its entries or none, so its
text is read back entry by entry: without names a lone identifier is a type, and
with names every entry has a type of its own.  A last slice of a variadic list
is written by its element.
-/

namespace GoUnion

open Lexeme (IsName Stops EndsName stops_cons isGap)
open Token
open Text (Span byteLength)
open Reader (Reads Separated ParameterEntry identifierOf)

variable {source : List Char} {qualify : Qualifier}

/-! ## Entries -/

namespace Reader.ParameterEntry

/-- The parameter that an entry declares where all entries of its list have names or none has. -/
def parameter : ParameterEntry → ParameterExpr
  | .bare identifier => ⟨none, .name identifier.span none identifier []⟩
  | .named identifier type _ => ⟨some identifier, type⟩
  | .unnamed type _ => ⟨none, type⟩

theorem withoutName_eq
    {entry : ParameterEntry} (unnamed : entry.isNamed = false) :
    entry.withoutName = entry.parameter := by
  cases entry with
  | bare => rfl
  | named => cases unnamed
  | unnamed => rfl

theorem shareTypes_named
    (close : Span) {entries : List ParameterEntry}
    (named : ∀ entry ∈ entries, entry.isNamed = true) :
    shareTypes close [] entries = .ok (entries.map parameter) := by
  induction entries with
  | nil => rfl
  | cons entry entries ih =>
      rcases List.forall_mem_cons.mp named with ⟨first, others⟩
      cases entry with
      | bare => cases first
      | named identifier type spread =>
          rw [shareTypes, ih others]
          rfl
      | unnamed => cases first

/-- Entries that all have names or that all have none declare one parameter each. -/
theorem resolve_uniform
    {allowed named spreads : Bool} {close : Span}
    {entries : List ParameterEntry}
    (uniform : ∀ entry ∈ entries, entry.isNamed = named)
    (isVariadic : variadic allowed close entries = .ok spreads) :
    resolve allowed close entries =
      .ok (entries.map parameter, spreads) := by
  rw [resolve, isVariadic]
  show (if entries.any isNamed = true then _ else _) = _
  split
  case isTrue some' =>
    rcases List.any_eq_true.mp some' with ⟨entry, isIn, isNamed⟩
    have all : named = true := (uniform entry isIn).symm.trans isNamed
    subst all
    rw [shareTypes_named close uniform]
    rfl
  case isFalse noName =>
    have all : ∀ entry ∈ entries, entry.withoutName = entry.parameter := by
      intro entry isIn
      apply withoutName_eq
      rw [← Bool.not_eq_true]
      intro isNamed
      exact noName (List.any_eq_true.mpr ⟨entry, isIn, isNamed⟩)
    rw [List.map_congr_left all]
    rfl

theorem findIdx?_isVariadic (entries : List ParameterEntry) :
    entries.findIdx? isVariadic =
      (entries.map isVariadic).findIdx? id := by
  rw [List.findIdx?_map]
  rfl

theorem variadic_none
    {allowed : Bool} {close : Span} {entries : List ParameterEntry}
    (none : ∀ mark ∈ entries.map isVariadic, mark = false) :
    variadic allowed close entries = .ok false := by
  have missing : (entries.map isVariadic).findIdx? id = Option.none :=
    List.findIdx?_eq_none_iff.mpr none
  rw [variadic, findIdx?_isVariadic, missing]

theorem variadic_last
    {close : Span} {entries : List ParameterEntry} {front : List Bool}
    (marks : entries.map isVariadic = front ++ [true])
    (none : ∀ mark ∈ front, mark = false) :
    variadic true close entries = .ok true := by
  have length : front.length + 1 = entries.length := by
    rw [← List.length_map (f := isVariadic), marks, List.length_append]
    rfl
  have found : (front ++ [true]).findIdx? id = some front.length := by
    have missing : front.findIdx? id = Option.none :=
      List.findIdx?_eq_none_iff.mpr none
    rw [List.findIdx?_append, missing]
    simp
  rw [variadic, findIdx?_isVariadic, marks, found]
  simp [length]

end Reader.ParameterEntry

/-- A type of one token is a name. -/
theorem Reader.Reads.eq_of_singleton
    {token : Token} {expression : TypeExpr}
    (reads : Reads source [token] (.type expression)) :
    token.kind = .identifier ∧
      expression = .name (spanTo [token] []) none (identifierOf token)
        [] := by
  refine ⟨reads.kind_of_singleton, ?_⟩
  have isName := reads.kind_of_singleton
  generalize shape : [token] = tokens at reads
  cases reads with
  | named reads =>
      cases reads with
      | plainName =>
          cases shape
          rfl
      | genericName => simp at shape
      | qualifiedName => simp at shape
  | parens isFirst | pointer isFirst | slice isFirst | array isFirst
  | map isFirst | channel isFirst | sending isFirst | receiving isFirst
  | functionType isFirst | record isFirst | interface isFirst =>
      injection shape with isToken
      subst isToken
      rw [isName] at isFirst
      cases isFirst

theorem denote_name_span
    {scope : Scope} {span : Span} {owner : Option Identifier}
    {identifier : Identifier} {arguments : List TypeExpr} {type : GoType}
    (denotes : (TypeExpr.name span owner identifier arguments).denote
      scope = .ok type) (span' : Span) :
    (TypeExpr.name span' owner identifier arguments).denote scope =
      .ok type := by
  have same :
      (TypeExpr.name span owner identifier arguments).unplaced =
        (TypeExpr.name span' owner identifier arguments).unplaced := by
    rw [TypeExpr.unplaced, TypeExpr.unplaced]
  exact (TypeExpr.denote_of_unplaced (.refl scope) same).eq_ok denotes

/-! ## Variables as they are written -/

/-- A variable as it is written: with the element of its slice behind an ellipsis where it is the
last one of a variadic list. -/
structure WrittenVariable where
  name : String
  type : GoType
  spreads : Bool

namespace WrittenVariable

/-- The text of a variable in a list that names its variables or not. -/
def spell
    (qualify : Qualifier) (named : Bool) (item : WrittenVariable) :
    String :=
  Spelling.declared named item.name
    ((if item.spreads then "..." else "") ++ item.type.spell qualify)

/-- What the tokens of a variable form. -/
structure Entry
    (source : List Char) (qualify : Qualifier) (named : Bool)
    (item : WrittenVariable) (tokens : List Token)
    (entry : ParameterEntry) : Prop where
  reads : Reads source tokens (.entry entry)
  isNamed : entry.isNamed = named
  isVariadic : entry.isVariadic = item.spreads
  name : parameterName entry.parameter.identifier =
    if named then item.name else ""
  denotes : Denotes qualify entry.parameter.type item.type

end WrittenVariable

/-- The variables of a list as they are written. -/
def written (variadic : Bool) : List Variable → List WrittenVariable
  | [] => []
  | [⟨name, .slice element⟩] =>
    [if variadic then ⟨name, element, true⟩
      else ⟨name, .slice element, false⟩]
  | ⟨name, type⟩ :: rest => ⟨name, type, false⟩ :: written variadic rest

theorem spellVariables_eq
    (named variadic : Bool) (list : List Variable) :
    spellVariables qualify named variadic list =
      (written variadic list).map (·.spell qualify named) := by
  fun_induction written variadic list with
  | case1 => rfl
  | case2 name element =>
      rw [spellVariables]
      cases variadic with
      | true => simp [WrittenVariable.spell]
      | false => simp [WrittenVariable.spell, GoType.spell]
  | case3 name type rest notLast ih =>
      rw [spellVariables, ih]
      · simp [WrittenVariable.spell]
      · intro element isSlice isLast
        exact notLast element isSlice isLast

theorem written_cons_cons
    (variadic : Bool) (first second : Variable) (rest : List Variable) :
    written variadic (first :: second :: rest) =
      ⟨first.name, first.type, false⟩ ::
        written variadic (second :: rest) := by
  rcases first with ⟨name, type⟩
  rw [written]
  simp

@[simp]
theorem length_written (variadic : Bool) (list : List Variable) :
    (written variadic list).length = list.length := by
  fun_induction written variadic list with
  | case1 => rfl
  | case2 => rfl
  | case3 name type rest notLast ih =>
      rw [List.length_cons, ih, List.length_cons]

theorem mem_written
    {variadic : Bool} {list : List Variable} {item : WrittenVariable}
    (isIn : item ∈ written variadic list) :
    ∃ origin ∈ list, item.name = origin.name ∧
      (item.type = origin.type ∨ origin.type = .slice item.type) := by
  fun_induction written variadic list with
  | case1 => cases isIn
  | case2 name element =>
      refine ⟨_, List.mem_singleton_self _, ?_⟩
      rw [List.mem_singleton] at isIn
      subst isIn
      split
      · exact ⟨rfl, .inr rfl⟩
      · exact ⟨rfl, .inl rfl⟩
  | case3 name type rest notLast ih =>
      rcases List.mem_cons.mp isIn with rfl | later
      · exact ⟨_, List.mem_cons_self, rfl, .inl rfl⟩
      · rcases ih later with ⟨item', isIn', same⟩
        exact ⟨item', List.mem_cons_of_mem _ isIn', same⟩

theorem written_false : ∀ list : List Variable,
    written false list = list.map fun item => ⟨item.name, item.type, false⟩
  | [] => rfl
  | [⟨name, type⟩] => by
      cases type with
      | _ => rfl
  | first :: second :: rest => by
      rw [written_cons_cons, written_false (second :: rest)]
      rfl

theorem written_of_endsWithSlice
    {list : List Variable} (ends : EndsWithSlice list) :
    ∃ front last, written true list = front ++ [last] ∧
      (∀ item ∈ front, item.spreads = false) ∧ last.spreads = true := by
  rcases ends with ⟨front, name, element, rfl⟩
  induction front with
  | nil => exact ⟨[], ⟨name, element, true⟩, rfl, by simp, rfl⟩
  | cons first front ih =>
      rcases ih with ⟨others, last, shape, none, spreads⟩
      refine ⟨⟨first.name, first.type, false⟩ :: others, last, ?_,
        List.forall_mem_cons.mpr ⟨rfl, none⟩, spreads⟩
      cases front with
      | nil =>
          rw [List.nil_append] at shape
          rw [List.cons_append, List.nil_append, written_cons_cons, shape,
            List.cons_append]
      | cons second front =>
          rw [List.cons_append] at shape
          rw [List.cons_append, List.cons_append, written_cons_cons, shape,
            List.cons_append]

/-- Parameters denote a list when they denote its variables as they are written. -/
theorem denoteVariables_of_written
    {scope : Scope} {variadic : Bool} {list : List Variable}
    {parameters : List ParameterExpr}
    (spreads : variadic = true → EndsWithSlice list)
    (each : List.Forall₂
      (fun item parameter =>
        parameterName parameter.identifier = item.name ∧
          parameter.type.denote scope = .ok item.type)
      (written variadic list) parameters) :
    denoteVariables scope variadic parameters = .ok list := by
  fun_induction written variadic list generalizing parameters with
  | case1 =>
      cases each
      rfl
  | case2 name element =>
      cases each with
      | @cons _ parameter _ _ first later =>
          cases later
          rcases parameter with ⟨identifier, type⟩
          rcases first with ⟨isName, denotes⟩
          rw [denoteVariables]
          cases variadic with
          | true =>
              rw [denotes, Reader.ok_bind, isName]
              rfl
          | false =>
              rw [denotes, Reader.ok_bind, isName]
              rfl
  | case3 name type rest notLast ih =>
      cases each with
      | @cons _ parameter _ parameters first later =>
          rcases parameter with ⟨identifier, expression⟩
          rcases first with ⟨isName, denotes⟩
          cases parameters with
          | nil =>
              have isEmpty : rest = [] := by
                rw [← List.length_eq_zero_iff,
                  ← length_written variadic rest, later.length_eq]
                rfl
              subst isEmpty
              rw [denoteVariables, denotes, Reader.ok_bind, isName]
              cases variadic with
              | false => rfl
              | true =>
                  rcases spreads rfl with ⟨front, name', element, shape⟩
                  cases front with
                  | nil =>
                      cases shape
                      exact (notLast element rfl rfl).elim
                  | cons _ front =>
                      have long := congrArg List.length shape
                      simp at long
          | cons parameter parameters =>
              rw [denoteVariables_cons_cons, denotes, Reader.ok_bind,
                isName, ih ?_ later]
              · rfl
              · intro isVariadic
                rcases spreads isVariadic with
                  ⟨front, name', element, shape⟩
                cases front with
                | nil =>
                    cases shape
                    cases later
                | cons _ front =>
                    cases shape
                    exact ⟨front, name', element, rfl⟩

theorem readsAll_written
    {scope : Scope} {variadic : Bool} {list : List Variable}
    (readsAll : scope.ReadsAll qualify (variableNodes list))
    {item : WrittenVariable} (isIn : item ∈ written variadic list) :
    scope.ReadsAll qualify item.type.nodes := by
  have each : ∀ origin ∈ list, scope.ReadsAll qualify origin.type.nodes := by
    clear isIn
    induction list with
    | nil => simp
    | cons first rest ih =>
        rcases first with ⟨name, type⟩
        rw [variableNodes, Scope.readsAll_append] at readsAll
        exact List.forall_mem_cons.mpr ⟨readsAll.1, ih readsAll.2⟩
  rcases mem_written isIn with ⟨origin, inList, -, same | isSlice⟩
  · rw [same]
    exact each origin inList
  · have whole := each origin inList
    rw [isSlice, GoType.nodes, Scope.readsAll_cons] at whole
    exact whole.2

/-! ## Texts of entries -/

section Entries

variable {item : WrittenVariable}
  (type' : FormsType qualify item.type)

include type'

theorem forms_unnamed (plain : item.spreads = false) :
    Forms (item.spell qualify false).toList fun tokens =>
      ∃ entry, item.Entry source qualify false tokens entry := by
  have same : item.spell qualify false = item.type.spell qualify := by
    simp [WrittenVariable.spell, Spelling.declared, plain]
  rw [same]
  apply (type' source).imp
  rintro tokens ⟨expression, readsAs⟩
  by_cases single : tokens.length = 1
  · rcases List.length_eq_one_iff.mp single with ⟨token, rfl⟩
    rcases readsAs.reads.eq_of_singleton with ⟨isName, rfl⟩
    refine ⟨.bare (identifierOf token), .bareEntry isName, rfl, ?_, rfl,
      ?_⟩
    · rw [plain]
      rfl
    · intro scope readsAll
      exact denote_name_span (readsAs.denotes scope readsAll) _
  · exact ⟨.unnamed expression false,
      .unnamedEntry single readsAs.reads, rfl, plain.symm, rfl,
      readsAs.denotes⟩

theorem forms_unnamedSpread (spreads : item.spreads = true) :
    Forms (item.spell qualify false).toList fun tokens =>
      ∃ entry, item.Entry source qualify false tokens entry := by
  have same :
      (item.spell qualify false).toList =
        "...".toList ++ (item.type.spell qualify).toList := by
    simp [WrittenVariable.spell, Spelling.declared, spreads]
  rw [same]
  apply ((type' source).behind _
    (fun offset => [markToken .ellipsis offset])
    ⟨'.', ['.', '.'], rfl, by decide, by decide⟩
    fun offset pending rest _ => ⟨false, scans_ellipsis⟩).imp
  rintro _ ⟨offset, tokens, rfl, expression, readsAs⟩
  exact ⟨.unnamed expression true, .spreadEntry rfl readsAs.reads, rfl,
    spreads.symm, rfl, readsAs.denotes⟩

variable (isName : IsName item.name)

include isName

theorem forms_namedEntry (plain : item.spreads = false) :
    Forms (item.spell qualify true).toList fun tokens =>
      ∃ entry, item.Entry source qualify true tokens entry := by
  have same :
      (item.spell qualify true).toList =
        (item.name.toList ++ [' ']) ++
          (item.type.spell qualify).toList := by
    simp [WrittenVariable.spell, Spelling.declared, plain,
      isName.ne_empty]
  rw [same]
  apply ((type' source).behind _
    (fun offset => [wordToken item.name offset])
    ((solid_name isName).append _)
    fun offset pending rest solid => ⟨true,
      (scans_name isName (stops_cons.mpr (by decide))).append
        (scans_space solid.stops)⟩).imp
  rintro _ ⟨offset, tokens, rfl, expression, readsAs⟩
  exact ⟨.named (identifierOf (wordToken item.name offset)) expression
      false,
    .namedEntry (wordToken_kind isName offset) readsAs.reads, rfl,
    plain.symm, rfl, readsAs.denotes⟩

theorem forms_namedSpread (spreads : item.spreads = true) :
    Forms (item.spell qualify true).toList fun tokens =>
      ∃ entry, item.Entry source qualify true tokens entry := by
  have same :
      (item.spell qualify true).toList =
        (item.name.toList ++ ([' '] ++ "...".toList)) ++
          (item.type.spell qualify).toList := by
    simp [WrittenVariable.spell, Spelling.declared, spreads,
      isName.ne_empty]
  rw [same]
  apply ((type' source).behind _
    (fun offset => [wordToken item.name offset,
      markToken .ellipsis
        (offset + byteLength item.name.toList + byteLength [' '])])
    ((solid_name isName).append _)
    fun offset pending rest _ => ⟨false,
      (scans_name isName (stops_cons.mpr (by decide))).append
        ((scans_space (stops_cons.mpr (by decide))).append
          scans_ellipsis)⟩).imp
  rintro _ ⟨offset, tokens, rfl, expression, readsAs⟩
  exact ⟨.named (identifierOf (wordToken item.name offset)) expression
      true,
    .namedSpreadEntry (wordToken_kind isName offset) rfl readsAs.reads,
    rfl, spreads.symm, rfl, readsAs.denotes⟩

end Entries

/-- The text of a variable forms an entry for it. -/
theorem forms_entry
    {item : WrittenVariable} {named : Bool}
    (type' : FormsType qualify item.type)
    (isName : named = true → IsName item.name) :
    Forms (item.spell qualify named).toList fun tokens =>
      ∃ entry, item.Entry source qualify named tokens entry := by
  cases named with
  | false =>
      cases spreads : item.spreads with
      | false => exact forms_unnamed type' spreads
      | true => exact forms_unnamedSpread type' spreads
  | true =>
      cases spreads : item.spreads with
      | false => exact forms_namedEntry type' (isName rfl) spreads
      | true => exact forms_namedSpread type' (isName rfl) spreads

/-! ## Lists between parentheses -/

theorem eq_empty_of_not_anyNamed
    {list : List Variable} (none : Spelling.anyNamed list = false) :
    ∀ item ∈ list, item.name = "" := by
  intro item isIn
  by_contra isNamed
  rw [← Bool.not_eq_true] at none
  exact none (List.any_eq_true.mpr ⟨item, isIn, decide_eq_true isNamed⟩)

theorem NamesAgree.ne_empty
    {list : List Variable} (agree : NamesAgree list)
    (some' : Spelling.anyNamed list = true) :
    ∀ item ∈ list, item.name ≠ "" := by
  rcases List.any_eq_true.mp some' with ⟨item, isIn, isNamed⟩
  rcases agree with none | all
  · exact absurd (none item isIn) (of_decide_eq_true isNamed)
  · exact all

/-- What the tokens of a list of variables between parentheses form. -/
def ReadsVariables
    (source : List Char) (qualify : Qualifier) (allowed variadic : Bool)
    (list : List Variable) (tokens : List Token) : Prop :=
  ∃ parameters,
    Reads source tokens (.parameters allowed parameters variadic) ∧
      ∀ scope : Scope, scope.ReadsAll qualify (variableNodes list) →
        denoteVariables scope variadic parameters = .ok list

/-- Entries declare the variables that they were written for. -/
theorem resolve_written
    {allowed variadic named : Bool} {list : List Variable} {close : Span}
    {parts : List (List Token × ParameterEntry)}
    (spreads : variadic = true → EndsWithSlice list)
    (allows : variadic = true → allowed = true)
    (each : List.Forall₂
      (fun item part => item.Entry source qualify named part.1 part.2)
      (written variadic list) parts) :
    ParameterEntry.resolve allowed close (parts.map (·.2)) =
      .ok ((parts.map (·.2)).map (·.parameter), variadic) := by
  have uniform : ∀ entry ∈ parts.map (·.2), entry.isNamed = named := by
    intro entry isIn
    rcases List.mem_map.mp isIn with ⟨part, inParts, rfl⟩
    exact forall_mem_of_forall₂ each (fun _ _ entry => entry.isNamed) part
      inParts
  have marks :
      (written variadic list).map (·.spreads) =
        (parts.map (·.2)).map (·.isVariadic) := by
    rw [List.map_map]
    exact map_eq_of_forall₂ each fun _ _ entry => entry.isVariadic.symm
  apply ParameterEntry.resolve_uniform uniform
  cases variadic with
  | false =>
      apply ParameterEntry.variadic_none
      intro mark isIn
      rw [← marks] at isIn
      rw [written_false, List.map_map] at isIn
      rcases List.mem_map.mp isIn with ⟨item, -, rfl⟩
      rfl
  | true =>
      cases allows rfl
      rcases written_of_endsWithSlice (spreads rfl) with
        ⟨front, last, shape, none, isLast⟩
      rw [shape, List.map_append, List.map_singleton, isLast] at marks
      apply ParameterEntry.variadic_last marks.symm
      intro mark isIn
      rcases List.mem_map.mp isIn with ⟨item, inFront, rfl⟩
      exact none item inFront

theorem forms_parameters
    {allowed variadic : Bool} {list : List Variable}
    (types : ∀ item ∈ written variadic list, FormsType qualify item.type)
    (agree : NamesAgree list)
    (names : ∀ item ∈ list, item.name ≠ "" → IsName item.name)
    (spreads : variadic = true → EndsWithSlice list)
    (allows : variadic = true → allowed = true) :
    Forms ("(" ++ Spelling.joined ", " (spellVariables qualify
        (Spelling.anyNamed list) variadic list) ++ ")").toList
      (ReadsVariables source qualify allowed variadic list) := by
  by_cases isEmpty : list = []
  · subst isEmpty
    have plain : variadic = false := by
      rw [← Bool.not_eq_true]
      intro isVariadic
      rcases spreads isVariadic with ⟨front, name, element, shape⟩
      exact absurd shape.symm (by simp)
    subst plain
    have same :
        ("(" ++ Spelling.joined ", " (spellVariables qualify
          (Spelling.anyNamed []) false []) ++ ")").toList =
            "(".toList ++ Symbol.rightParen.spelling.toList := by
      simp [spellVariables, Spelling.joined, Symbol.spelling]
    rw [same]
    refine ⟨⟨'(', [')'], rfl, by decide, by decide⟩, ?_⟩
    intro offset pending rest _
    have opening :
        Scans (Symbol.rightParen.spelling.toList ++ rest) offset pending
          "(".toList [markToken .leftParen offset] false :=
      scans_mark .leftParen (by decide) (endsMark_of_closed (by decide) _)
    exact ⟨_, opening.append closing_rightParen.scans, [],
      .noParameters rfl rfl, fun _ _ => rfl⟩
  · have same :
        ("(" ++ Spelling.joined ", " (spellVariables qualify
          (Spelling.anyNamed list) variadic list) ++ ")").toList =
            "(".toList ++ ((Spelling.joined ", "
              ((written variadic list).map (·.spell qualify
                (Spelling.anyNamed list)))).toList ++
                  Symbol.rightParen.spelling.toList) := by
      rw [spellVariables_eq]
      simp [Symbol.spelling]
    have nonempty : written variadic list ≠ [] := by
      rw [← List.length_pos_iff, length_written]
      exact List.length_pos_iff.mpr isEmpty
    have entries : ∀ item ∈ written variadic list,
        Forms (item.spell qualify (Spelling.anyNamed list)).toList
          fun tokens => ∃ entry, item.Entry source qualify
            (Spelling.anyNamed list) tokens entry := by
      intro item isIn
      apply forms_entry (types item isIn)
      intro someNamed
      rcases mem_written isIn with ⟨origin, inList, sameName, -⟩
      rw [sameName]
      exact names origin inList (agree.ne_empty someNamed origin inList)
    rw [same]
    apply (((forms_joined separates_comma _ nonempty entries).closed
      closing_rightParen).behind _
        (fun offset => [markToken .leftParen offset])
        ⟨'(', [], rfl, by decide, by decide⟩
        fun offset pending rest _ => ⟨false,
          scans_mark .leftParen (by decide)
            (endsMark_of_closed (by decide) rest)⟩).imp
    rintro _ ⟨offset, _, rfl, tokens, offset', rfl, pieces, separated,
      found⟩
    rcases exists_parts found with ⟨parts, rfl, each⟩
    refine ⟨_, .parameters rfl separated.trailing' ?_ rfl
      (resolve_written spreads allows each), ?_⟩
    · exact forall_mem_of_forall₂ each fun _ _ entry => entry.reads
    · intro scope readsAll
      apply denoteVariables_of_written spreads
      rw [List.map_map, List.forall₂_map_right_iff]
      apply forall₂_of_mem each
      intro item part isIn entry
      refine ⟨entry.name.trans ?_,
        entry.denotes scope (readsAll_written readsAll isIn)⟩
      split
      case isTrue => rfl
      case isFalse noName =>
        rcases mem_written isIn with ⟨origin, inList, sameName, -⟩
        rw [sameName, eq_empty_of_not_anyNamed (Bool.not_eq_true _ ▸ noName)
          origin inList]

/-! ## Function types -/

/-- What the tokens of the results of a function form, in any form in which they are written. -/
def ReadsResults
    (source : List Char) (qualify : Qualifier) (list : List Variable)
    (tokens : List Token) : Prop :=
  ∃ results,
    (∀ parameterTokens parameters variadic,
      Reads source parameterTokens
        (.parameters true parameters variadic) →
          Reads source (parameterTokens ++ tokens)
            (.function ⟨parameters, results, variadic⟩)) ∧
      ∀ scope : Scope, scope.ReadsAll qualify (variableNodes list) →
        denoteVariables scope false results = .ok list

/-- The text of the results of a function behind its parameters forms them. -/
def FormsResults
    (qualify : Qualifier) (list : List Variable) (text : List Char) :
    Prop :=
  ∀ source rest offset, EndsName rest → EndsName (text ++ rest) ∧
    ∃ tokens, Scans rest offset true text tokens true ∧
      ReadsResults source qualify list tokens

theorem forms_noResults : FormsResults qualify [] [] := by
  intro source rest offset ends
  refine ⟨ends, [], .stop, [], ?_, fun _ _ => rfl⟩
  intro parameterTokens parameters variadic reads
  rw [List.append_nil]
  exact .procedure reads

theorem forms_bareResult
    {type : GoType} (type' : FormsType qualify type) :
    FormsResults qualify [⟨"", type⟩]
      ([' '] ++ (type.spell qualify).toList) := by
  intro source rest offset ends
  rcases (type' source).scans (offset + byteLength [' ']) true rest ends
    with ⟨tokens, scans, expression, readsAs⟩
  refine ⟨stops_cons.mpr (by decide), tokens,
    (scans_space ((type' source).solid.append rest).stops).append scans,
    [⟨none, expression⟩], ?_, ?_⟩
  · intro parameterTokens parameters variadic reads
    exact .oneResult reads readsAs.noParens readsAs.reads
  · intro scope readsAll
    rw [variableNodes, Scope.readsAll_append] at readsAll
    rw [denoteVariables, readsAs.denotes scope readsAll.1]
    rfl

theorem forms_resultList
    {list : List Variable}
    (types : ∀ item ∈ list, FormsType qualify item.type)
    (agree : NamesAgree list)
    (names : ∀ item ∈ list, item.name ≠ "" → IsName item.name) :
    FormsResults qualify list
      ([' '] ++ ("(" ++ Spelling.joined ", " (spellVariables qualify
        (Spelling.anyNamed list) false list) ++ ")").toList) := by
  intro source rest offset ends
  have written' : ∀ item ∈ written false list,
      FormsType qualify item.type := by
    rw [written_false]
    intro item isIn
    rcases List.mem_map.mp isIn with ⟨origin, inList, rfl⟩
    exact types origin inList
  have forms :
      Forms ("(" ++ Spelling.joined ", " (spellVariables qualify
        (Spelling.anyNamed list) false list) ++ ")").toList
        (ReadsVariables source qualify false false list) :=
    forms_parameters written' agree names (by simp) (by simp)
  rcases forms.scans (offset + byteLength [' ']) true rest ends
    with ⟨tokens, scans, results, reads, denotes⟩
  refine ⟨stops_cons.mpr (by decide), tokens,
    (scans_space (forms.solid.append rest).stops).append scans,
    results, ?_, denotes⟩
  intro parameterTokens parameters variadic readsParameters
  exact .results readsParameters reads

theorem forms_results
    {list : List Variable}
    (types : ∀ item ∈ list, FormsType qualify item.type)
    (agree : NamesAgree list)
    (names : ∀ item ∈ list, item.name ≠ "" → IsName item.name) :
    FormsResults qualify list
      (Spelling.results (Spelling.isBareResult list)
        (spellVariables qualify (Spelling.anyNamed list) false
          list)).toList := by
  by_cases isEmpty : list = []
  · subst isEmpty
    exact forms_noResults
  · have nonempty :
        (spellVariables qualify (Spelling.anyNamed list) false
          list).isEmpty = false := by
      rw [spellVariables_eq, written_false, List.map_map,
        List.isEmpty_map, List.isEmpty_eq_false_iff]
      exact isEmpty
    rw [Spelling.results, nonempty, if_neg Bool.false_ne_true]
    split
    case isTrue isBare =>
      rcases list with _ | ⟨⟨name, type⟩, _ | ⟨second, others⟩⟩
      · cases isBare
      · rw [Spelling.isBareResult, decide_eq_true_eq] at isBare
        subst isBare
        have same :
            (" " ++ Spelling.joined ", " (spellVariables qualify
              (Spelling.anyNamed [⟨"", type⟩]) false
                [⟨"", type⟩])).toList =
                  [' '] ++ (type.spell qualify).toList := by
          rw [spellVariables_eq, written_false]
          simp [Spelling.joined, WrittenVariable.spell,
            Spelling.declared, Spelling.anyNamed]
        rw [same]
        exact forms_bareResult (types _ (List.mem_singleton_self _))
      · cases isBare
    case isFalse =>
      have same :
          (" (" ++ Spelling.joined ", " (spellVariables qualify
            (Spelling.anyNamed list) false list) ++ ")").toList =
              [' '] ++ ("(" ++ Spelling.joined ", "
                (spellVariables qualify (Spelling.anyNamed list) false
                  list) ++ ")").toList := by
        simp
      rw [same]
      exact forms_resultList types agree names

/-- The text of a function type behind its keyword or its name. -/
theorem forms_signature
    {parameters results : List Variable} {variadic : Bool}
    (parameterTypes : ∀ item ∈ written variadic parameters,
      FormsType qualify item.type)
    (resultTypes : ∀ item ∈ results, FormsType qualify item.type)
    (parametersAgree : NamesAgree parameters)
    (resultsAgree : NamesAgree results)
    (parameterNames : ∀ item ∈ parameters,
      item.name ≠ "" → IsName item.name)
    (resultNames : ∀ item ∈ results, item.name ≠ "" → IsName item.name)
    (spreads : variadic = true → EndsWithSlice parameters) :
    FormsSignature qualify
      ⟨none, [], parameters, results, [], variadic⟩ := by
  intro source
  have forms :
      Forms ("(" ++ Spelling.joined ", " (spellVariables qualify
        (Spelling.anyNamed parameters) variadic parameters) ++ ")").toList
        (ReadsVariables source qualify true variadic parameters) :=
    forms_parameters parameterTypes parametersAgree parameterNames spreads
      fun _ => rfl
  rw [Signature.spell, String.toList_append]
  refine ⟨forms.solid.append _, ?_⟩
  intro offset pending rest ends
  rcases forms_results resultTypes resultsAgree resultNames source rest
    (offset + byteLength ("(" ++ Spelling.joined ", " (spellVariables
      qualify (Spelling.anyNamed parameters) variadic parameters) ++
        ")").toList) ends with
    ⟨endsFirst, resultTokens, scansResults, readResults, reads, denotes⟩
  rcases forms.scans offset pending _ endsFirst with
    ⟨tokens, scans, readParameters, readsParameters, denotes'⟩
  refine ⟨tokens ++ resultTokens, scans.append scansResults,
    ⟨readParameters, readResults, variadic⟩,
    reads tokens readParameters variadic readsParameters, ?_⟩
  intro scope readsAll
  rw [Signature.nodes, receiverNodes, parameterNodes, List.nil_append,
    List.nil_append, List.nil_append, Scope.readsAll_append] at readsAll
  rw [FunctionExpr.denote, denotes' scope readsAll.1, Reader.ok_bind,
    denotes scope readsAll.2]
  rfl

theorem endsName_signature (signature : Signature) (rest : List Char) :
    EndsName ((signature.spell qualify).toList ++ rest) := by
  rcases signature with ⟨_, _, parameters, results, _, variadic⟩
  rw [Signature.spell]
  simp only [String.toList_append, List.append_assoc]
  exact stops_cons.mpr (by decide)

theorem forms_function
    {signature : Signature}
    (signature' : FormsSignature qualify signature) :
    FormsType qualify (.function signature) := by
  intro source
  have same :
      ((GoType.function signature).spell qualify).toList =
        Keyword.func.spelling.toList ++
          (signature.spell qualify).toList := by
    simp [GoType.spell, Keyword.spelling]
  rw [same]
  refine ⟨⟨'f', _, rfl, by decide, by decide⟩, ?_⟩
  intro offset pending rest ends
  rcases (signature' source).scans
    (offset + byteLength Keyword.func.spelling.toList) false rest ends with
    ⟨tokens, scans, expression, reads, denotes⟩
  have word :
      Scans ((signature.spell qualify).toList ++ rest) offset pending
        Keyword.func.spelling.toList
        [wordToken Keyword.func.spelling offset] false :=
    scans_keyword .func (endsName_signature signature rest)
  refine ⟨_, word.append scans, _, .other rfl (by simp)
    (.functionType (wordToken_keyword .func offset) reads) ?_ ?_ ?_⟩
  · intro scope readsAll
    rw [GoType.nodes, Scope.readsAll_cons] at readsAll
    rw [TypeExpr.denote, denotes scope readsAll.2]
    rfl
  · exact ne_of_eq_of_ne (wordToken_keyword .func offset) (by decide)
  · intro isArrow
    exact absurd ((wordToken_keyword .func offset).symm.trans isArrow)
      (by decide)

end GoUnion
