import GoUnion.Proofs.Output.Functions
import GoUnion.Proofs.Spelling.Parameters

/-!
# The declarations of a union

A generated file declares two types and the constants of the states.  The
constants and the fields of the union type stand in groups of indented lines, so
both are read line by line.  The union type of a generic record may be read as an
array type, since a list of type parameters may look like the length of an array;
its name is the same then.
-/

namespace GoUnion

open Lexeme (IsName)
open Reader (Declaration Enclosed Reads ReadsConstant ReadsDeclaration
  ReadsDeclarations ReadsTypeDeclaration identifierOf)
open Token
open Text (byteLength)

/-! ## Groups of lines -/

/-- An indented line is scanned to what its text forms, with the end of a statement. -/
theorem scans_line
    {text : String} {Forming : List Token → Prop}
    (forms : Forms text.toList Forming) (offset : Nat) (rest : List Char) :
    ∃ tokens stop,
      Scans rest offset false ('\t' :: text.toList ++ ['\n'])
          (tokens ++ [lineEnd stop]) false ∧ Forming tokens := by
  have scansTab {later : List Char} (solid : Lexeme.Stops Lexeme.isGap later) :
      Scans later offset false ['\t'] [] false :=
    scans_gap (by simp) (List.forall_mem_singleton.mpr rfl) solid
  rcases forms.scans (offset + byteLength ['\t']) false ('\n' :: rest)
    (Lexeme.stops_cons.mpr (by decide)) with ⟨tokens, scansText, forming⟩
  have scansFront :=
    (scansTab (forms.solid.append ('\n' :: rest)).stops).append scansText
  exact ⟨tokens, _, scansFront.append scans_newline, forming⟩

/-- Lines up to a closing mark that are scanned to the pieces of a group. -/
def Groups
    (mark : Symbol) (lines : List String)
    (Holds : List (List Token) → Prop) : Prop :=
  ∀ offset rest, ∃ inner pieces stop,
    Scans rest offset false (linesText lines).toList
        (inner ++ [lineEnd stop]) false ∧
      Enclosed (.symbol mark) pieces inner ∧ Holds pieces

namespace Groups

variable {mark : Symbol} {lines : List String}

theorem close (closing : Closing mark) :
    Groups mark [mark.spelling] fun pieces => pieces = [] := by
  intro offset rest
  rcases @scans_lastLine _ closing rest offset with ⟨stop, scans⟩
  have noSemicolons : Reader.Semicolons [] := by simp [Reader.Semicolons]
  exact ⟨[markToken mark offset], [], stop, scans,
    .close noSemicolons rfl, rfl⟩

theorem imp
    {Holds Holds' : List (List Token) → Prop}
    (groups : Groups mark lines Holds)
    (implies : ∀ pieces, Holds pieces → Holds' pieces) :
    Groups mark lines Holds' := by
  intro offset rest
  rcases groups offset rest with ⟨inner, pieces, stop, scans, enclosed, holds⟩
  exact ⟨inner, pieces, stop, scans, enclosed, implies pieces holds⟩

/-- A line of a group is one piece of it. -/
theorem line
    {Holds : List (List Token) → Prop} {text : String}
    {Forming : List Token → Prop}
    (forms : Forms text.toList Forming) (groups : Groups mark lines Holds) :
    Groups mark (("\t" ++ text) :: lines) fun pieces =>
      ∃ piece others, pieces = piece :: others ∧ Forming piece ∧
        Holds others := by
  intro offset rest
  have same :
      (linesText (("\t" ++ text) :: lines)).toList =
        ('\t' :: text.toList ++ ['\n']) ++ (linesText lines).toList := by
    simp
  rw [same]
  rcases scans_line forms offset ((linesText lines).toList ++ rest) with
    ⟨piece, stop, scans, forming⟩
  rcases groups (offset + byteLength ('\t' :: text.toList ++ ['\n'])) rest
    with ⟨inner, pieces, stop', scans', enclosed, holds⟩
  have noSemicolons : Reader.Semicolons [] := by simp [Reader.Semicolons]
  refine ⟨piece ++ lineEnd stop :: inner, piece :: pieces, stop', ?_,
    .cons noSemicolons rfl enclosed, piece, pieces, rfl, forming, holds⟩
  simpa using scans.append scans'

/-- Lines that differ by an item are one piece for each. -/
theorem map
    {α : Type} (closing : Closing mark) (text : α → String)
    {Forming : α → List Token → Prop} {items : List α}
    (forms : ∀ item ∈ items, Forms (text item).toList (Forming item)) :
    Groups mark (items.map (fun item => "\t" ++ text item) ++
        [mark.spelling])
      (List.Forall₂ Forming items) := by
  induction items with
  | nil =>
      apply (close closing).imp
      rintro _ rfl
      exact .nil
  | cons item items ih =>
      rcases List.forall_mem_cons.mp forms with ⟨first, others⟩
      apply (line first (ih others)).imp
      rintro _ ⟨piece, pieces, rfl, forming, holds⟩
      exact .cons forming holds

end Groups

/-! ## The constants of the states -/

/-- The name of a constant with its value. -/
def ConstantDeclaration.binding (constant : ConstantDeclaration) :
    String × ConstantValue :=
  (constant.identifier.name, constant.value)

/-- The constant of a specification with one name. -/
theorem ConstantSpec.declareFrom_single
    (iota : Nat) (previous : List ConstantExpr) (identifier : Identifier)
    (expressions : Option (List ConstantExpr)) {expression : ConstantExpr}
    (inForce : expressions.getD previous = [expression])
    (specs : List ConstantSpec) :
    declareFrom iota previous (⟨[identifier], expressions⟩ :: specs) =
      ⟨identifier, evaluate iota expression⟩ ::
        declareFrom (iota + 1) [expression] specs := by
  rw [declareFrom, inForce]
  rfl

/-- Constants that repeat an expression that counts are numbered from the first on. -/
theorem ConstantSpec.declareFrom_repeated
    {expression : ConstantExpr}
    (counts : ∀ iota,
      evaluate iota expression = .integer (UInt64.ofNat iota))
    {α : Type} {name : α → String} {items : List α}
    {specs : List ConstantSpec}
    (repeats : List.Forall₂ (fun item spec =>
      ∃ identifier : Identifier, identifier.name = name item ∧
        spec = ⟨[identifier], none⟩) items specs)
    (start : Nat) :
    (declareFrom start [expression] specs).map (·.binding) =
      items.mapIdx fun index item =>
        (name item, .integer (UInt64.ofNat (start + index))) := by
  induction repeats generalizing start with
  | nil => rfl
  | cons first others ih =>
      rcases first with ⟨identifier, named, rfl⟩
      rw [declareFrom_single start _ identifier none rfl, List.map_cons,
        List.mapIdx_cons, ih, ConstantDeclaration.binding, named, counts]
      simp only [Nat.add_assoc, Nat.add_comm 1, Nat.add_zero]

namespace UnionSource

/-- The constants of the states with their values. -/
def stateBindings (source : UnionSource) : List (String × ConstantValue) :=
  source.states.mapIdx fun index state =>
    (source.state state, .integer (UInt64.ofNat index))

/-- What the lines of the states declare. -/
def DeclaresStates
    (source : UnionSource) (text : List Char) (pieces : List (List Token)) :
    Prop :=
  ∃ parts : List (List Token × ConstantSpec),
    parts.map (·.1) = pieces ∧
      (∀ part ∈ parts, ReadsConstant text false part.1 part.2) ∧
        (ConstantSpec.declareAll (parts.map (·.2))).map (·.binding) =
          source.stateBindings

namespace Legible

variable {source : UnionSource} (legible : source.Legible)

include legible

theorem states : ∀ state ∈ source.states, IsName (source.state state) := by
  intro state isState
  refine legible.state ?_
  rcases List.mem_append.mp isState with isInvalid | isVariant
  · exact legible.plan.invalid state (Option.mem_toList.mp isInvalid)
  · rcases List.mem_map.mp isVariant with ⟨variant, isIn, rfl⟩
    exact legible.variants variant isIn

/-- The first state names the type and starts the count. -/
theorem forms_firstState
    {state : String} (isName : IsName (source.state state))
    (text : List Char) :
    Forms (source.state state ++ " " ++ source.discriminant ++
        " = iota").toList fun tokens =>
      ∃ identifier : Identifier, ∃ expression,
        identifier.name = source.state state ∧
          (∀ iota, ConstantSpec.evaluate iota expression =
            .integer (UInt64.ofNat iota)) ∧
            ReadsConstant text false tokens
              ⟨[identifier], some [expression]⟩ := by
  have isType := legible.discriminant
  have isIota : IsName "iota" := by decide
  have same :
      (source.state state ++ " " ++ source.discriminant ++
          " = iota").toList =
        Part.render [.name _ isName, .space, .name _ isType, .space,
          .assign, .space, .name "iota" isIota] := by
    simp [Symbol.spelling]
  rw [same]
  apply (Part.forms_render ((solid_name isName).append _) rfl rfl rfl).imp
  rintro tokens ⟨pending, leave⟩
  rcases leave with _ | ⟨⟨start, rfl⟩, _ | ⟨⟨rfl⟩, _ | ⟨⟨middle, rfl⟩,
    _ | ⟨⟨rfl⟩, _ | ⟨⟨assign, rfl⟩, _ | ⟨⟨rfl⟩,
      _ | ⟨⟨stop, rfl⟩, ⟨⟩⟩⟩⟩⟩⟩⟩⟩
  refine ⟨identifierOf (wordToken (source.state state) start),
    [wordToken "iota" stop], rfl, ?_, ?_⟩
  · intro iota
    simp [ConstantSpec.evaluate, wordToken, isIota.wordKind_eq]
  · have hasType :
        Reader.ConstantType text [wordToken source.discriminant middle] :=
      .present (.named (.plainName (wordToken_kind isType middle)))
    have isAssign :
        (markToken .assign assign).kind = .symbol .assign := rfl
    have values :
        Reader.expressionsOf 0 [wordToken "iota" stop] =
          some [[wordToken "iota" stop]] := by
      simp [Reader.expressionsOf, wordToken_kind isIota, Reader.intoFirst]
    have reads := ReadsConstant.valued (.one (wordToken_kind isName start))
      hasType isAssign values
    exact reads

theorem groups_stateLines (text : List Char) :
    Groups .rightParen (source.stateLines ++ [")"])
      (source.DeclaresStates text) := by
  have areNames := legible.states
  rw [stateLines]
  split
  case h_1 noStates =>
    apply (Groups.close closing_rightParen).imp
    rintro _ rfl
    refine ⟨[], rfl, by simp, ?_⟩
    rw [stateBindings, noStates]
    rfl
  case h_2 first others isStates =>
    rw [isStates] at areNames
    rcases List.forall_mem_cons.mp areNames with ⟨isFirst, areOthers⟩
    have later : ∀ state ∈ others, Forms (source.state state).toList
        fun tokens => ∃ spec : ConstantSpec,
          ReadsConstant text false tokens spec ∧
            ∃ identifier : Identifier,
              identifier.name = source.state state ∧
                spec = ⟨[identifier], none⟩ := by
      intro state isState
      have isName := areOthers state isState
      apply (forms_name isName).imp
      rintro _ ⟨offset, rfl⟩
      exact ⟨_, .names (.one (wordToken_kind isName offset)), _, rfl, rfl⟩
    have groups := Groups.line (legible.forms_firstState isFirst text)
      (Groups.map closing_rightParen source.state later)
    have sameLines :
        s!"\t{source.state first} {source.discriminant} = iota" ::
            others.map (fun name => s!"\t{source.state name}") ++ [")"] =
          ("\t" ++ (source.state first ++ " " ++ source.discriminant ++
              " = iota")) ::
            (others.map (fun state => "\t" ++ source.state state) ++
              [Symbol.rightParen.spelling]) := by
      simp [String.append_assoc, Symbol.spelling]
    rw [sameLines]
    apply groups.imp
    rintro _ ⟨piece, pieces, rfl, ⟨identifier, expression, named, counts,
      reads⟩, found⟩
    rcases exists_parts found with ⟨parts, rfl, each⟩
    refine ⟨(piece, ⟨[identifier], some [expression]⟩) :: parts, rfl,
      List.forall_mem_cons.mpr ⟨reads, forall_mem_of_forall₂ each
        fun _ _ holds => holds.1⟩, ?_⟩
    have repeats : List.Forall₂ (fun state spec =>
        ∃ identifier : Identifier, identifier.name = source.state state ∧
          spec = ⟨[identifier], none⟩) others (parts.map (·.2)) := by
      rw [List.forall₂_map_right_iff]
      exact each.imp fun _ _ holds => holds.2
    rw [List.map_cons, ConstantSpec.declareAll,
      ConstantSpec.declareFrom_single 0 _ identifier _ rfl, List.map_cons,
      ConstantSpec.declareFrom_repeated counts repeats,
      ConstantDeclaration.binding, named, counts, stateBindings, isStates,
      List.mapIdx_cons]
    simp only [Nat.zero_add, Nat.add_comm 1]

/-- The type of discriminants is declared to be an integer type. -/
theorem declares_discriminantType :
    Declares ["",
        s!"// {source.discriminant} identifies the active variant of a {source.config.typeName}.",
        s!"type {source.discriminant} int"] fun _ declared =>
      ∃ declaration, declared = [declaration] ∧
        ∃ type : TypeDeclaration, declaration = .types [type] ∧
          type.identifier.name = source.discriminant := by
  have isType := legible.discriminant
  have isInt : IsName "int" := by decide
  refine .one ?_
  intro text offset rest
  have oneLine : '\n' ∉ (" " ++ source.discriminant ++
      " identifies the active variant of a " ++ source.config.typeName ++
        ".").toList := by
    simp [isType.oneLine, legible.typeName.oneLine]
  have same :
      (linesText ["",
        s!"// {source.discriminant} identifies the active variant of a {source.config.typeName}.",
        s!"type {source.discriminant} int"]).toList =
        Part.render [.newline, .comment _ oneLine, .newline, .word .type,
          .space, .name _ isType, .space, .name "int" isInt, .newline] := by
    simp [Keyword.spelling]
  rcases Part.scans_lines same rfl rfl offset false rest with
    ⟨tokens, scans, leave⟩
  rcases leave with _ | ⟨⟨_, rfl⟩, _ | ⟨⟨rfl⟩, _ | ⟨⟨_, rfl⟩,
    _ | ⟨⟨word, rfl⟩, _ | ⟨⟨rfl⟩, _ | ⟨⟨start, rfl⟩, _ | ⟨⟨rfl⟩,
      _ | ⟨⟨middle, rfl⟩, _ | ⟨⟨stop, rfl⟩, ⟨⟩⟩⟩⟩⟩⟩⟩⟩⟩⟩
  refine ⟨[wordToken Keyword.type.spelling word,
      wordToken source.discriminant start, wordToken "int" middle], stop,
    _, scans, .types (wordToken_keyword .type word) (.single ?_
      (.declare (wordToken_kind isType start) (.none ?_) .absent
        (.named (.plainName (wordToken_kind isInt middle))))),
    _, rfl, rfl⟩
  · simp [wordToken_kind isType]
  · exact Reader.opensParameters_of_kind (by simp [wordToken_kind isInt])

/-- The constants of the states are declared in one group. -/
theorem declares_states :
    Declares (["", "const ("] ++ (source.stateLines ++ [")"]))
      fun _ declared => ∃ declaration, declared = [declaration] ∧
        ∃ constants, declaration = .constants constants ∧
          constants.map (·.binding) = source.stateBindings := by
  refine .one ?_
  intro text offset rest
  have same :
      (linesText ["", "const ("]).toList =
        Part.render [.newline, .word .const, .space, .leftParen,
          .newline] := by
    simp [Keyword.spelling, Symbol.spelling]
  rw [toList_linesText_append]
  rcases Part.scans_lines same rfl rfl offset false
    ((linesText (source.stateLines ++ [")"])).toList ++ rest) with
    ⟨tokens, scans, leave⟩
  rcases leave with _ | ⟨⟨_, rfl⟩, _ | ⟨⟨word, rfl⟩, _ | ⟨⟨rfl⟩,
    _ | ⟨⟨start, rfl⟩, _ | ⟨⟨_, rfl⟩, ⟨⟩⟩⟩⟩⟩⟩
  rcases legible.groups_stateLines text
    (offset + byteLength (linesText ["", "const ("]).toList) rest with
    ⟨inner, _, stop, scans', enclosed, parts, rfl, reads, bindings⟩
  exact ⟨wordToken Keyword.const.spelling word ::
      markToken .leftParen start :: inner, stop, _, scans.append scans',
    .constants (wordToken_keyword .const word)
      (.several rfl enclosed reads), _, rfl, bindings⟩

/-- The type of discriminants is declared before its constants. -/
theorem declares_discriminantLines :
    Declares source.discriminantLines fun _ declared =>
      ∃ type : TypeDeclaration, ∃ constants,
        declared = [.types [type], .constants constants] ∧
          type.identifier.name = source.discriminant ∧
            constants.map (·.binding) = source.stateBindings := by
  have declares :=
    (legible.declares_discriminantType).append legible.declares_states
  have sameLines :
      ["", s!"// {source.discriminant} identifies the active variant of a {source.config.typeName}.",
          s!"type {source.discriminant} int"] ++
          (["", "const ("] ++ (source.stateLines ++ [")"])) =
        source.discriminantLines := by
    simp [discriminantLines]
  rw [sameLines] at declares
  apply declares.imp
  rintro text _ ⟨_, _, rfl, ⟨_, rfl, type, rfl, named⟩,
    ⟨_, rfl, constants, rfl, bindings⟩⟩
  exact ⟨type, constants, rfl, named, bindings⟩

end Legible

/-! ## The union type -/

/-- A struct with a field for the discriminant and one for each variant, or one for all values. -/
def HasSlots (source : UnionSource) (type : TypeExpr) : Prop :=
  ∃ span fields, type = .record span fields ∧
    fields.map (·.identifier.name) =
        source.plan.discriminant ::
          (if source.config.features.publicValue then [source.plan.inner]
            else source.descriptor.variantNames) ∧
      ∀ field ∈ fields, field.tag = none ∧ field.embedded = false

theorem slots_names (source : UnionSource) :
    source.slots.map (·.1) =
      source.plan.discriminant ::
        (if source.config.features.publicValue then [source.plan.inner]
          else source.descriptor.variantNames) := by
  rw [slots, isCompact, List.map_cons, UnionDescriptor.variantNames]
  split
  · rfl
  · rw [List.map_map]
    rfl

/-- The text of a type that is only a name. -/
theorem forms_plainName
    {name : String} (isName : IsName name) (text : List Char) :
    Forms name.toList fun tokens =>
      ∃ type, Reads text tokens (.type type) := by
  apply (forms_name isName).imp
  rintro _ ⟨offset, rfl⟩
  exact ⟨_, .named (.plainName (wordToken_kind isName offset))⟩

/-- The text of a slot, its name filled up with spaces. -/
theorem forms_slot
    {slot : String × String} (width : Nat) {text : List Char}
    (isName : IsName slot.1)
    (forms : Forms slot.2.toList fun tokens =>
      ∃ type, Reads text tokens (.type type)) :
    Forms (padded width slot.1 ++ " " ++ slot.2).toList fun tokens =>
      ∃ field : FieldExpr, Reads text tokens (.fields [field]) ∧
        field.identifier.name = slot.1 ∧ field.tag = none ∧
          field.embedded = false := by
  let gap := List.replicate (width - slot.1.length) ' ' ++ [' ']
  have areGaps : ∀ c ∈ gap, Lexeme.isGap c = true := by
    intro c isIn
    rcases List.mem_append.mp isIn with filled | last
    · rw [List.eq_of_mem_replicate filled]
      decide
    · rw [List.mem_singleton.mp last]
      decide
  have endsName (rest : List Char) : Lexeme.EndsName (gap ++ rest) := by
    rcases shape : gap with _ | ⟨c, tail⟩
    · exact absurd shape (by simp [gap])
    · have isGap : Lexeme.isGap c = true :=
        areGaps c (by rw [shape]; exact List.mem_cons_self)
      exact Lexeme.stops_cons.mpr (Part.ends_of_gap (.inl isGap)).1
  have same :
      (padded width slot.1 ++ " " ++ slot.2).toList =
        (slot.1.toList ++ gap) ++ slot.2.toList := by
    simp [padded, gap]
  rw [same]
  apply (forms.behind (slot.1.toList ++ gap)
    (fun offset => [wordToken slot.1 offset])
    ((solid_name isName).append _)
    fun offset pending rest solid => ⟨true,
      (scans_name isName (endsName rest)).append
        (scans_gap (by simp [gap]) areGaps solid.stops)⟩).imp
  rintro _ ⟨offset, inner, rfl, type, reads⟩
  have readsField := Reads.namedFields
    (.one (wordToken_kind isName offset)) reads .absent
  rw [List.append_nil] at readsField
  exact ⟨⟨identifierOf (wordToken slot.1 offset), type, none, false⟩,
    readsField, rfl, rfl, rfl⟩

/-- What the lines of the slots declare. -/
def DeclaresSlots
    (source : UnionSource) (text : List Char) (pieces : List (List Token)) :
    Prop :=
  ∃ parts : List (List Token × List FieldExpr),
    parts.map (·.1) = pieces ∧
      (∀ part ∈ parts, Reads text part.1 (.fields part.2)) ∧
        (parts.map (·.2)).flatten.map (·.identifier.name) =
            source.slots.map (·.1) ∧
          ∀ field ∈ (parts.map (·.2)).flatten,
            field.tag = none ∧ field.embedded = false

/-- Tokens that declare the union type if those of a struct stand behind them. -/
def DeclaresName
    (source : UnionSource) (text : List Char) (front : List Token) :
    Prop :=
  Reader.kind front = .identifier ∧
    ∀ tokens expression, Reads text tokens (.type expression) →
      Reader.kind tokens = .keyword .struct →
        ∃ type : TypeDeclaration,
          ReadsTypeDeclaration text false (front ++ tokens) type ∧
            type.identifier.name = source.config.typeName ∧
              (source.descriptor.parameters = [] →
                type.type = expression)

/-- A parameter is one with some expression. -/
theorem exists_formsParameter
    {text : List Char} {piece : List Token}
    (isParameter : IsParameter text piece) :
    ∃ expression, FormsParameter text piece expression := by
  rcases isParameter with ⟨name, tokens, constraint, rfl, isName, reads⟩
  exact ⟨⟨Reader.identifierOf name, constraint⟩, name, tokens, rfl, isName,
    rfl, reads⟩

namespace Legible

variable {source : UnionSource} (legible : source.Legible)

include legible

/-- The slots have names, and what is written behind them are types. -/
theorem slots (text : List Char) :
    ∀ slot ∈ source.slots, IsName slot.1 ∧
      Forms slot.2.toList fun tokens =>
        ∃ type, Reads text tokens (.type type) := by
  intro slot isSlot
  rw [UnionSource.slots] at isSlot
  rcases List.mem_cons.mp isSlot with rfl | isValue
  · exact ⟨legible.plan.discriminant,
      forms_plainName legible.discriminant text⟩
  · split at isValue
    case isTrue =>
      cases List.mem_singleton.mp isValue
      have isAny : IsName "any" := by decide
      exact ⟨legible.plan.inner, forms_plainName isAny text⟩
    case isFalse =>
      rcases List.mem_map.mp isValue with ⟨variant, isVariant, rfl⟩
      refine ⟨legible.variants variant isVariant, ?_⟩
      apply (legible.types variant isVariant text).imp
      rintro tokens ⟨type, readsAs⟩
      exact ⟨type, readsAs.reads⟩

theorem groups_slotLines (text : List Char) :
    Groups .rightBrace (slotLines source.slots ++ ["\x7d"])
      (source.DeclaresSlots text) := by
  let width := slotWidth (source.slots.map (·.1))
  have groups := Groups.map closing_rightBrace
    (fun slot : String × String => padded width slot.1 ++ " " ++ slot.2)
    fun slot isSlot => forms_slot width (legible.slots text slot isSlot).1
      (legible.slots text slot isSlot).2
  have sameLines :
      source.slots.map (fun slot =>
          "\t" ++ (padded width slot.1 ++ " " ++ slot.2)) =
        slotLines source.slots := by
    rw [slotLines_eq]
    simp only [String.append_assoc, width]
  rw [sameLines] at groups
  apply groups.imp
  intro pieces found
  rcases exists_parts found with ⟨parts, rfl, each⟩
  have flat :
      ((parts.map fun part => (part.1, [part.2])).map (·.2)).flatten =
        parts.map (·.2) := by
    rw [List.map_map]
    exact flatten_map_singleton parts (·.2)
  refine ⟨parts.map fun part => (part.1, [part.2]), by simp, ?_, ?_, ?_⟩
  · intro _ isPart
    rcases List.mem_map.mp isPart with ⟨part, isIn, rfl⟩
    exact forall_mem_of_forall₂ each (fun _ _ holds => holds.1) part isIn
  · rw [flat, List.map_map]
    exact (map_eq_of_forall₂ each fun _ _ holds => holds.2.1.symm).symm
  · rw [flat, List.forall_mem_map]
    exact forall_mem_of_forall₂ each fun _ _ holds => holds.2.2

/-- The union type is declared by its name and its type parameters. -/
theorem declaresName_of_listed
    {text : List Char} {tokens : List Token}
    (listed : Listed source.config.typeName (fun _ => IsParameter text)
      source.descriptor.parameters tokens) :
    source.DeclaresName text tokens := by
  generalize isList : source.descriptor.parameters = parameters at listed
  cases listed with
  | none offset =>
      have isName := wordToken_kind legible.typeName offset
      refine ⟨isName, ?_⟩
      intro tokens expression reads isStruct
      have noBracket : Reader.opensParameters tokens = false :=
        Reader.opensParameters_of_kind (by simp [isStruct])
      have declares : ReadsTypeDeclaration text false _ _ :=
        .declare isName (.none (by exact noBracket)) .absent reads
      exact ⟨_, declares, rfl, fun _ => rfl⟩
  | @some _ opening closing inner pieces offset nonempty opens closes
      separated found =>
      have isName := wordToken_kind legible.typeName offset
      rcases exists_parts (found.imp fun _ _ => exists_formsParameter) with
        ⟨parts, rfl, forms⟩
      have each : ∀ part ∈ parts, FormsParameter text part.1 part.2 :=
        forall_mem_of_forall₂ forms fun _ _ forms => forms
      refine ⟨isName, ?_⟩
      intro tokens expression reads isStruct
      by_cases isOpen :
          Reader.opensParameters (opening :: (inner ++ [closing])) = true
      · have readsParameters :=
          readsParameters_of_parts separated each closes
        have declares : ReadsTypeDeclaration text false _ _ :=
          .declare isName (.list isOpen readsParameters) .absent reads
        exact ⟨_, declares, rfl,
          fun none => absurd (isList.symm.trans none) nonempty⟩
      · -- The list is taken for the length of an array of such structs.
        rcases lengthTokens_of_parts separated each closes with
          ⟨words, isLength⟩
        have isArray : Reader.opensParameters
            (opening :: (inner ++ [closing] ++ tokens)) = false := by
          rcases parameters_shape separated each with
            ⟨name, second, others, rfl⟩
          exact Bool.eq_false_of_not_eq_true isOpen
        have declares : ReadsTypeDeclaration text false _ _ :=
          .declare isName (.none (by exact isArray)) .absent
            (.array opens isLength reads)
        exact ⟨_, declares, rfl,
          fun none => absurd (isList.symm.trans none) nonempty⟩

/-- The line that opens the union type. -/
theorem scans_typeHead (text : List Char) (offset : Nat) (rest : List Char) :
    ∃ word front struct brace,
      Scans rest offset false
          (linesText ["",
            s!"// {source.config.typeName} holds exactly one of the fields of {source.descriptor.name}.",
            s!"type {source.config.typeName}{source.declaredParameters} struct \x7b"]).toList
          (word :: (front ++ [struct, brace])) false ∧
        word.kind = .keyword .type ∧ source.DeclaresName text front ∧
          struct.kind = .keyword .struct ∧
            brace.kind = .symbol .leftBrace := by
  have oneLine : '\n' ∉ (" " ++ source.config.typeName ++
      " holds exactly one of the fields of " ++ source.descriptor.name ++
        ".").toList := by
    simp [legible.typeName.oneLine, legible.recordName.oneLine]
  have forms : Forms _ (source.DeclaresName text) :=
    (legible.forms_declaredParameters legible.typeName text).imp
      fun _ listed => legible.declaresName_of_listed listed
  have same :
      (linesText ["",
        s!"// {source.config.typeName} holds exactly one of the fields of {source.descriptor.name}.",
        s!"type {source.config.typeName}{source.declaredParameters} struct \x7b"]).toList =
        Part.render [.newline, .comment _ oneLine, .newline, .word .type,
            .space] ++
          ((source.config.typeName ++ source.declaredParameters).toList ++
            Part.render [.space, .word .struct, .space, .leftBrace,
              .newline]) := by
    simp [Keyword.spelling, Symbol.spelling]
  rcases Part.scans_around forms same rfl rfl rfl rfl rfl rfl offset false
    rest with ⟨opening, front, closing, scans, leave, declares, leaveBack⟩
  rcases leave with _ | ⟨⟨_, rfl⟩, _ | ⟨⟨rfl⟩, _ | ⟨⟨_, rfl⟩,
    _ | ⟨⟨word, rfl⟩, _ | ⟨⟨rfl⟩, ⟨⟩⟩⟩⟩⟩⟩
  rcases leaveBack with _ | ⟨⟨rfl⟩, _ | ⟨⟨struct, rfl⟩, _ | ⟨⟨rfl⟩,
    _ | ⟨⟨brace, rfl⟩, _ | ⟨⟨_, rfl⟩, ⟨⟩⟩⟩⟩⟩⟩
  refine ⟨wordToken Keyword.type.spelling word, front,
    wordToken Keyword.struct.spelling struct, markToken .leftBrace brace, ?_,
    wordToken_keyword .type word, declares,
    wordToken_keyword .struct struct, rfl⟩
  exact scans

/-- The union type is declared with its slots. -/
theorem declares_typeLines :
    Declares source.typeLines fun _ declared =>
      ∃ declaration, declared = [declaration] ∧
        ∃ type : TypeDeclaration, declaration = .types [type] ∧
          type.identifier.name = source.config.typeName ∧
            (source.descriptor.parameters = [] →
              source.HasSlots type.type) := by
  rw [typeLines, List.append_assoc]
  refine .one ?_
  intro text offset rest
  rw [toList_linesText_append]
  rcases legible.scans_typeHead text offset
    ((linesText (slotLines source.slots ++ ["\x7d"])).toList ++ rest) with
    ⟨word, front, struct, brace, scans, isType, ⟨isName, declares⟩, isStruct,
      isBrace⟩
  rcases legible.groups_slotLines text (offset + byteLength _) rest with
    ⟨inner, _, stop, scans', enclosed, parts, rfl, reads, named, plain⟩
  have readsRecord := Reads.record isStruct isBrace enclosed reads
  rcases declares _ _ readsRecord isStruct with
    ⟨type, readsType, isTypeName, isRecord⟩
  have noParens :
      Reader.kind (front ++ struct :: brace :: inner) ≠
        .symbol .leftParen := by
    cases front with
    | nil => cases isName
    | cons name others =>
        rw [Reader.kind_cons] at isName
        simp [isName]
  refine ⟨word :: (front ++ struct :: brace :: inner), stop, _, ?_,
    .types isType (.single noParens readsType), type, rfl, isTypeName,
    fun none => ⟨_, _, isRecord none, named.trans source.slots_names,
      plain⟩⟩
  simpa using scans.append scans'

end Legible

end UnionSource

end GoUnion
