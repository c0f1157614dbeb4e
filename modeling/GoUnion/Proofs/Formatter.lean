import GoUnion.GoType.Traversal
import GoUnion.Proofs.Fragments

/-!
# Writing types step by step

A formatter keeps the text that it has written and appends to it.  It asks for
the qualifier of a reference when it comes to that reference, and asking may
have an effect of its own, so what a formatter does says in which order it asks.

Writing a type has the effects of asking for the references in the order in
which they are visited, each once, and appends the spelling of the type.  Which
effects these are plays no part: a qualifier that keeps a list of what it was
asked for ends up with the list of visited references.
-/

namespace GoUnion

open Spelling

/-- Work of a formatter: it changes the text written so far. -/
abbrev Formatter (m : Type → Type) : Type :=
  StateT String m Unit

namespace Formatter

variable {m : Type → Type} [Monad m]

/-- Append a text. -/
def push (text : String) : Formatter m :=
  modify (· ++ text)

/-- Pieces of work with a separator between them. -/
def separated (separator : String) : List (Formatter m) → Formatter m
  | [] => pure ()
  | [step] => step
  | step :: steps => do
    step
    push separator
    separated separator steps

/-- Work between two texts, if there is any. -/
def enclosed
    (opening separator closing : String) (steps : List (Formatter m)) :
    Formatter m := do
  unless steps.isEmpty do
    push opening
    separated separator steps
    push closing

/-- The members of a struct or interface between braces. -/
def braced (opening : String) (steps : List (Formatter m)) : Formatter m :=
  if steps.isEmpty then push (opening ++ "\x7b\x7d")
  else enclosed (opening ++ "\x7b ") "; " " \x7d" steps

/-- The name of a parameter or result.  In a list where some have names, the others are blank. -/
def declare (named : Bool) (name : String) : Formatter m := do
  if named then
    push (if name = "" then "_" else name)
    push " "

/-- A tag after a field. -/
def tagged : Option String → Formatter m
  | none => pure ()
  | some text => do
    push " "
    push (tag text)

end Formatter

open Formatter

section Writing

variable {m : Type → Type} [Monad m]

mutual

/-- Write a type behind what is already written. -/
def GoType.write (ask : NamedType → m (Option String)) :
    GoType → Formatter m
  | .basic type => push type.name
  | .named reference => reference.write ask
  | .pointer element => do
    push "*"
    element.write ask
  | .array length element => do
    push ("[" ++ toString length.toNat ++ "]")
    element.write ask
  | .slice element => do
    push "[]"
    element.write ask
  | .map key value => do
    push "map["
    key.write ask
    push "]"
    value.write ask
  | .channel direction element => do
    push (channelOpening direction)
    if needsParens direction element then
      push "("
      element.write ask
      push ")"
    else
      element.write ask
  | .function signature => do
    push "func"
    signature.write ask
  | .record fields => braced "struct" (writeFields ask fields)
  | .interface methods embeds =>
    braced "interface" (writeMethods ask methods ++ writeTypes ask embeds)
  | .union members => separated " | " (writeMembers ask members)

/-- Write a reference, with the qualifier that the answer gives. -/
def NamedType.write (ask : NamedType → m (Option String)) :
    NamedType → Formatter m
  | ⟨name, package, underlying, parameters, arguments⟩ => do
    let qualifier ← ask ⟨name, package, underlying, parameters, arguments⟩
    push (qualification qualifier)
    push name
    enclosed "[" ", " "]" (writeTypes ask arguments)

/-- Write a function type behind its keyword or its name. -/
def Signature.write (ask : NamedType → m (Option String)) :
    Signature → Formatter m
  | ⟨_, _, parameters, outcomes, _, variadic⟩ => do
    push "("
    separated ", "
      (writeVariables ask (anyNamed parameters) variadic parameters)
    push ")"
    if isBareResult outcomes then
      enclosed " " ", " "" (writeVariables ask (anyNamed outcomes) false outcomes)
    else
      enclosed " (" ", " ")" (writeVariables ask (anyNamed outcomes) false outcomes)

/-- Write some types. -/
def writeTypes (ask : NamedType → m (Option String)) :
    List GoType → List (Formatter m)
  | [] => []
  | type :: types => type.write ask :: writeTypes ask types

/-- Write parameters or results.  A last variadic parameter is written by the element of its
slice. -/
def writeVariables
    (ask : NamedType → m (Option String)) (named variadic : Bool) :
    List Variable → List (Formatter m)
  | [] => []
  | [⟨name, .slice element⟩] =>
    [do
      declare named name
      push (if variadic then "..." else "[]")
      element.write ask]
  | ⟨name, type⟩ :: rest =>
    (do
      declare named name
      type.write ask) :: writeVariables ask named variadic rest

/-- Write the fields of a struct. -/
def writeFields (ask : NamedType → m (Option String)) :
    List Field → List (Formatter m)
  | [] => []
  | ⟨name, type, tag, embedded⟩ :: fields =>
    (do
      push (if embedded then "" else name ++ " ")
      type.write ask
      tagged tag) :: writeFields ask fields

/-- Write the methods of an interface. -/
def writeMethods (ask : NamedType → m (Option String)) :
    List Method → List (Formatter m)
  | [] => []
  | ⟨name, signature⟩ :: methods =>
    (do
      push name
      signature.write ask) :: writeMethods ask methods

/-- Write the terms of a union. -/
def writeMembers (ask : NamedType → m (Option String)) :
    List UnionMember → List (Formatter m)
  | [] => []
  | ⟨approximate, type⟩ :: members =>
    (do
      push (if approximate then "~" else "")
      type.write ask) :: writeMembers ask members

end

end Writing

/-! ## What writing does -/

/-- The reference that a node is. -/
def GoType.reference? : GoType → Option NamedType
  | .named reference => some reference
  | _ => none

/-- The references among some nodes. -/
def referencesOf (nodes : List GoType) : List NamedType :=
  nodes.filterMap GoType.reference?

@[simp]
theorem referencesOf_append (nodes others : List GoType) :
    referencesOf (nodes ++ others) =
      referencesOf nodes ++ referencesOf others :=
  List.filterMap_append

/-- A type that is no reference has only the references inside it. -/
theorem referencesOf_within
    {node : GoType} (isOther : node.reference? = none)
    (nodes : List GoType) :
    referencesOf (node :: nodes) = referencesOf nodes :=
  List.filterMap_cons_none isOther

theorem GoType.references_eq (type : GoType) :
    type.references = referencesOf type.nodes :=
  List.filterMap_congr fun node _ => by cases node <;> rfl

namespace Formatter

variable {m : Type → Type} [Monad m]

/-- A qualifier whose use leaves a note. -/
def noting (note : NamedType → m Unit) (qualify : Qualifier) :
    NamedType → m (Option String) := fun reference => do
  note reference
  return qualify reference

/-- The work appends a text, and leaves notes of some references in order. -/
def Writes
    (note : NamedType → m Unit) (step : Formatter m) (text : String)
    (asked : List NamedType) : Prop :=
  ∀ output, step.run output = do
    asked.forM note
    return ((), output ++ text)

variable [LawfulMonad m] {note : NamedType → m Unit}
  {step more : Formatter m} {text other : String}
  {asked others : List NamedType}

theorem Writes.push (text : String) :
    Writes note (push text) text [] := by
  intro output
  simp [Formatter.push]

theorem Writes.skip : Writes note (pure ()) "" [] := by
  intro output
  simp

/-- One piece of work after another. -/
theorem Writes.append
    (first : Writes note step text asked)
    (later : Writes note more other others) :
    Writes note (do step; more) (text ++ other) (asked ++ others) := by
  intro output
  simp [first output, later (output ++ text), List.forM_append,
    String.append_assoc]

theorem Writes.after
    (opening : String) (writes : Writes note step text asked) :
    Writes note (do Formatter.push opening; step) (opening ++ text)
      asked :=
  (Writes.push opening).append writes

theorem Writes.before
    (writes : Writes note step text asked) (closing : String) :
    Writes note (do step; Formatter.push closing) (text ++ closing)
      asked := by
  rw [← List.append_nil asked]
  exact writes.append (.push closing)

/-- Asking for a qualifier leaves a note, and its answer is that of the qualifier. -/
theorem Writes.ask
    {qualify : Qualifier} {next : Option String → Formatter m}
    (reference : NamedType)
    (writes : Writes note (next (qualify reference)) text asked) :
    Writes note
      (do
        let answer ← (noting note qualify reference : m (Option String))
        next answer)
      text (reference :: asked) := by
  intro output
  simp [noting, writes output]

/-- Pieces of work that append a text each. -/
inductive WritesAll (note : NamedType → m Unit) :
    List (Formatter m) → List String → List NamedType → Prop where
  | nil : WritesAll note [] [] []
  | cons {step : Formatter m} {steps : List (Formatter m)}
      {text : String} {texts : List String}
      {asked others : List NamedType}
      (first : Writes note step text asked)
      (later : WritesAll note steps texts others) :
      WritesAll note (step :: steps) (text :: texts) (asked ++ others)

namespace WritesAll

variable {steps moreSteps : List (Formatter m)}
  {texts moreTexts : List String}

omit [LawfulMonad m] in
theorem append
    (front : WritesAll note steps texts asked)
    (back : WritesAll note moreSteps moreTexts others) :
    WritesAll note (steps ++ moreSteps) (texts ++ moreTexts)
      (asked ++ others) := by
  induction front with
  | nil => exact back
  | cons first _ ih =>
      rw [List.append_assoc]
      exact .cons first ih

omit [LawfulMonad m] in
/-- There is a text where there is work. -/
theorem isEmpty_eq (writes : WritesAll note steps texts asked) :
    steps.isEmpty = texts.isEmpty := by
  cases writes with
  | nil => rfl
  | cons => rfl

theorem separated
    (separator : String) (writes : WritesAll note steps texts asked) :
    Writes note (separated separator steps) (joined separator texts)
      asked := by
  induction writes with
  | nil => exact .skip
  | cons first later ih =>
      cases later with
      | nil =>
          rw [List.append_nil]
          simpa [Formatter.separated, joined] using first
      | cons second rest =>
          rw [joined, String.intercalate_cons_of_ne_nil
            (List.cons_ne_nil _ _), String.append_assoc]
          exact first.append (ih.after separator)

theorem enclosed
    (opening separator closing : String)
    (writes : WritesAll note steps texts asked) :
    Writes note (enclosed opening separator closing steps)
      (if texts.isEmpty then ""
        else opening ++ joined separator texts ++ closing)
      asked := by
  rw [Formatter.enclosed, ← writes.isEmpty_eq]
  cases writes with
  | nil => exact .skip
  | cons first later =>
      have inner :=
        ((WritesAll.cons first later).separated separator).before closing
      rw [String.append_assoc]
      exact inner.after opening

theorem braced
    (opening : String) (writes : WritesAll note steps texts asked) :
    Writes note (braced opening steps) (Spelling.braced opening texts)
      asked := by
  rw [Formatter.braced, Spelling.braced, writes.isEmpty_eq]
  cases writes with
  | nil => exact .push _
  | cons first later =>
      exact (WritesAll.cons first later).enclosed _ _ _

theorem bracketed (writes : WritesAll note steps texts asked) :
    Writes note (Formatter.enclosed "[" ", " "]" steps)
      (Spelling.bracketed texts) asked :=
  writes.enclosed _ _ _

theorem results (bare : Bool) (writes : WritesAll note steps texts asked) :
    Writes note
      (if bare then Formatter.enclosed " " ", " "" steps
        else Formatter.enclosed " (" ", " ")" steps)
      (Spelling.results bare texts) asked := by
  cases bare with
  | true => simpa [Spelling.results] using writes.enclosed " " ", " ""
  | false => exact writes.enclosed _ _ _

end WritesAll

theorem Writes.declared
    (named : Bool) (name : String) (writes : Writes note step text asked) :
    Writes note (do declare named name; step)
      (Spelling.declared named name text) asked := by
  cases named with
  | true =>
      have whole := (writes.after " ").after (if name = "" then "_" else name)
      simpa [declare, Spelling.declared, String.append_assoc] using whole
  | false => simpa [declare, Spelling.declared] using writes

theorem Writes.tagged (tag : Option String) :
    Writes note (Formatter.tagged tag) (tagSuffix tag) [] := by
  cases tag with
  | none => exact .skip
  | some text => exact (Writes.push (Spelling.tag text)).after " "

end Formatter

section Traversal

variable {m : Type → Type} [Monad m] [LawfulMonad m]
  (note : NamedType → m Unit) (qualify : Qualifier)

set_option linter.unusedSectionVars false in
mutual

/-- Writing a type asks for the references inside it, in the order of the traversal. -/
theorem GoType.writes : ∀ (type : GoType), PlainSignatures type.nodes →
    Writes note (type.write (noting note qualify)) (type.spell qualify)
      (referencesOf type.nodes)
  | .basic type, _ => by
      rw [GoType.write, GoType.spell, GoType.nodes]
      exact .push _
  | .named ⟨name, package, underlying, parameters, arguments⟩, plain => by
      rw [nodes_named, plainSignatures_cons] at plain
      rw [GoType.write, NamedType.write, spell_named, nodes_named,
        String.append_assoc]
      have inner := (spellTypes_writes arguments plain.2).bracketed
      exact .ask _ ((inner.after name).after _)
  | .pointer element, plain => by
      rw [GoType.nodes, plainSignatures_cons] at plain
      rw [GoType.write, GoType.spell, GoType.nodes]
      exact (element.writes plain.2).after "*"
  | .array length element, plain => by
      rw [GoType.nodes, plainSignatures_cons] at plain
      rw [GoType.write, GoType.spell, GoType.nodes]
      exact (element.writes plain.2).after _
  | .slice element, plain => by
      rw [GoType.nodes, plainSignatures_cons] at plain
      rw [GoType.write, GoType.spell, GoType.nodes]
      exact (element.writes plain.2).after "[]"
  | .map key value, plain => by
      rw [GoType.nodes, plainSignatures_cons, plainSignatures_append] at plain
      rw [GoType.write, GoType.spell, GoType.nodes, referencesOf_within rfl,
        referencesOf_append]
      have inner := (key.writes plain.2.1).append
        ((value.writes plain.2.2).after "]")
      simpa only [String.append_assoc] using inner.after "map["
  | .channel direction element, plain => by
      rw [GoType.nodes, plainSignatures_cons] at plain
      rw [GoType.write, GoType.spell, GoType.nodes, inParens]
      have inner := element.writes plain.2
      split
      · rw [String.append_assoc]
        exact ((inner.before ")").after "(").after _
      · exact inner.after _
  | .function signature, plain => by
      rw [GoType.nodes, plainSignatures_cons] at plain
      rw [GoType.write, GoType.spell, GoType.nodes]
      exact (signature.writes (plain.1 _ List.mem_cons_self)
        plain.2).after "func"
  | .record fields, plain => by
      rw [GoType.nodes, plainSignatures_cons] at plain
      rw [GoType.write, GoType.spell, GoType.nodes]
      exact (spellFields_writes fields plain.2).braced "struct"
  | .interface methods embeds, plain => by
      rw [GoType.nodes, plainSignatures_cons, plainSignatures_append] at plain
      rw [GoType.write, GoType.spell, GoType.nodes, referencesOf_within rfl,
        referencesOf_append]
      have members := (spellMethods_writes methods
        (fun method isIn => plain.1 _ (List.mem_map_of_mem isIn))
        plain.2.1).append (spellTypes_writes embeds plain.2.2)
      exact members.braced "interface"
  | .union members, plain => by
      rw [GoType.nodes, plainSignatures_cons] at plain
      rw [GoType.write, GoType.spell, GoType.nodes]
      exact (spellMembers_writes members plain.2).separated " | "

theorem Signature.writes : ∀ (signature : Signature), signature.IsPlain →
    PlainSignatures signature.nodes →
      Writes note (signature.write (noting note qualify))
        (signature.spell qualify) (referencesOf signature.nodes)
  | ⟨receiver, receiverParameters, parameters, outcomes, typeParameters,
      variadic⟩, isPlain, plain => by
      rw [isPlain.nodes_eq] at plain ⊢
      rw [plainSignatures_append] at plain
      rw [Signature.write, Signature.spell, referencesOf_append]
      have front := (spellVariables_writes parameters (anyNamed parameters)
        variadic plain.1).separated ", "
      have back := (spellVariables_writes outcomes (anyNamed outcomes) false
        plain.2).results (isBareResult outcomes)
      simpa [String.append_assoc] using (front.append (back.after ")")).after "("

theorem spellTypes_writes : ∀ (types : List GoType),
    PlainSignatures (typeNodes types) →
      WritesAll note (writeTypes (noting note qualify) types)
        (spellTypes qualify types) (referencesOf (typeNodes types))
  | [], _ => .nil
  | type :: types, plain => by
      rw [typeNodes, plainSignatures_append] at plain
      rw [writeTypes, spellTypes, typeNodes, referencesOf_append]
      exact .cons (type.writes plain.1) (spellTypes_writes types plain.2)

theorem spellVariables_writes :
    ∀ (list : List Variable) (named variadic : Bool),
      PlainSignatures (variableNodes list) →
        WritesAll note (writeVariables (noting note qualify) named variadic list)
          (spellVariables qualify named variadic list)
          (referencesOf (variableNodes list))
  | [], _, _, _ => .nil
  | [⟨name, type⟩], named, variadic, plain => by
      rw [variableNodes, variableNodes, List.append_nil] at plain ⊢
      rw [← List.append_nil (referencesOf _)]
      cases type with
      | slice element =>
          rw [GoType.nodes, plainSignatures_cons] at plain
          rw [writeVariables, spellVariables, GoType.nodes]
          exact .cons (((element.writes plain.2).after _).declared named name)
            .nil
      | _ =>
          rw [writeVariables, spellVariables]
          · exact .cons ((GoType.writes _ plain).declared named name) .nil
          all_goals simp
  | ⟨name, type⟩ :: second :: rest, named, variadic, plain => by
      rw [variableNodes, plainSignatures_append] at plain
      rw [variableNodes, referencesOf_append]
      simp only [writeVariables, spellVariables]
      exact .cons ((type.writes plain.1).declared named name)
        (spellVariables_writes (second :: rest) named variadic plain.2)

theorem spellFields_writes : ∀ (fields : List Field),
    PlainSignatures (fieldNodes fields) →
      WritesAll note (writeFields (noting note qualify) fields)
        (spellFields qualify fields) (referencesOf (fieldNodes fields))
  | [], _ => .nil
  | ⟨name, type, tag, embedded⟩ :: fields, plain => by
      rw [fieldNodes, plainSignatures_append] at plain
      rw [writeFields, spellFields, fieldNodes, referencesOf_append]
      have first := ((type.writes plain.1).append (.tagged tag)).after
        (if embedded then "" else name ++ " ")
      rw [List.append_nil, ← String.append_assoc] at first
      exact .cons first (spellFields_writes fields plain.2)

theorem spellMethods_writes : ∀ (methods : List Method),
    (∀ method ∈ methods, method.signature.IsPlain) →
      PlainSignatures (methodNodes methods) →
        WritesAll note (writeMethods (noting note qualify) methods)
          (spellMethods qualify methods) (referencesOf (methodNodes methods))
  | [], _, _ => .nil
  | ⟨name, signature⟩ :: methods, arePlain, plain => by
      rw [methodNodes, plainSignatures_append] at plain
      rw [writeMethods, spellMethods, methodNodes, referencesOf_append]
      exact .cons
        ((signature.writes (arePlain _ List.mem_cons_self) plain.1).after name)
        (spellMethods_writes methods
          (fun method isIn => arePlain _ (List.mem_cons_of_mem _ isIn))
          plain.2)

theorem spellMembers_writes : ∀ (members : List UnionMember),
    PlainSignatures (memberNodes members) →
      WritesAll note (writeMembers (noting note qualify) members)
        (spellMembers qualify members) (referencesOf (memberNodes members))
  | [], _ => .nil
  | ⟨approximate, type⟩ :: members, plain => by
      rw [memberNodes, plainSignatures_append] at plain
      rw [writeMembers, spellMembers, memberNodes, referencesOf_append]
      exact .cons ((type.writes plain.1).after _)
        (spellMembers_writes members plain.2)

end

end Traversal

/-- Put a reference at the end of a list. -/
def NamedType.record (reference : NamedType) :
    StateM (List NamedType) Unit :=
  modify (· ++ [reference])

/-- A qualifier that keeps a list of the references that it was asked for. -/
def Qualifier.recorded (qualify : Qualifier) :
    NamedType → StateM (List NamedType) (Option String) :=
  noting NamedType.record qualify

/-- A qualifier that does nothing but answer. -/
def Qualifier.unrecorded (qualify : Qualifier) :
    NamedType → Id (Option String) :=
  noting (fun _ => pure ()) qualify

theorem forM_record (references asked : List NamedType) :
    (references.forM NamedType.record).run asked =
      ((), asked ++ references) := by
  induction references generalizing asked with
  | nil =>
      rw [List.append_nil]
      rfl
  | cons reference references ih =>
      rw [← List.singleton_append, ← List.append_assoc]
      exact ih (asked ++ [reference])

theorem forM_nothing (references : List NamedType) :
    references.forM (fun _ => (pure () : Id Unit)) = pure () := by
  induction references with
  | nil => rfl
  | cons _ _ ih => exact ih

/-- Writing a type asks for the qualifiers of the references that a traversal of the type visits,
in the same order, and appends the spelling of the type, which does not depend on what was written
before. -/
theorem GoType.write_traversal
    (qualify : Qualifier) (type : GoType)
    (plain : PlainSignatures type.nodes) :
    (∀ output asked,
      ((type.write qualify.recorded).run output).run asked =
        (((), output ++ type.spell qualify), asked ++ type.references)) ∧
    ∀ output,
      (type.write qualify.unrecorded).run output =
        pure ((), output ++ type.spell qualify) := by
  constructor
  · intro output asked
    rw [Qualifier.recorded, type.writes NamedType.record qualify plain output,
      StateT.run_bind, ← references_eq, forM_record]
    rfl
  · intro output
    rw [Qualifier.unrecorded, type.writes _ qualify plain output,
      forM_nothing]
    rfl

/-- A variadic function type whose parameters and result refer to five types, two of them as
arguments. -/
theorem GoType.write_traversal_function :
    let key := NamedType.reference "K" "example/app"
    let node : NamedType := ⟨"Node", "example/tree", none, [], [.named key]⟩
    let type : GoType := .function (.plain
      [⟨"", .map (.named key) (.channel .both (.channel .receive (.named node)))⟩,
        ⟨"rest", .slice (.pointer (.named node))⟩]
      [⟨"", .named (.predeclared "error")⟩] true)
    PlainSignatures type.nodes ∧
      ((type.write Qualifier.fullPath.recorded).run "type F ").run [] =
        (((), "type F " ++
          "func(_ map[example/app.K]chan (<-chan example/tree.Node[example/app.K]), " ++
          "rest ...*example/tree.Node[example/app.K]) error"),
        [key, node, key, node, key, .predeclared "error"]) := by
  intro key node type
  have plain : PlainSignatures type.nodes := by
    simp [type, key, node, PlainSignatures, GoType.nodes,
      NamedType.argumentNodes, Signature.nodes, Signature.plain,
      NamedType.reference, NamedType.predeclared, typeNodes, variableNodes,
      parameterNodes, receiverNodes, GoType.signatures]
    exact ⟨rfl, rfl, rfl⟩
  refine ⟨plain, ?_⟩
  rw [(write_traversal Qualifier.fullPath type plain).1]
  rfl

end GoUnion
