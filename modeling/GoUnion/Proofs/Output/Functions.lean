import GoUnion.Proofs.Emission
import GoUnion.Proofs.Output.Lines
import GoUnion.Proofs.Output.Names

/-!
# Functions are passed over

Every function of a generated file is a block of whole lines, and the reader of
the file passes over it: its brackets are balanced, and no statement ends outside
of them before its last line does.
-/

namespace GoUnion

open Lexeme (IsName)
open Reader (Declaration ReadsDeclaration ReadsDeclarations passing)
open Token
open Text (byteLength)

/-! ## Blocks of lines -/

/-- Lines that are scanned to declarations of which something holds, in front of any others. -/
def Declares
    (lines : List String) (Holds : List Char → List Declaration → Prop) :
    Prop :=
  ∀ source offset rest, ∃ tokens declared,
    Scans rest offset false (linesText lines).toList tokens false ∧
      Holds source declared ∧
        ∀ next others, ReadsDeclarations source next others →
          ReadsDeclarations source (tokens ++ next) (declared ++ others)

/-- Lines that are passed over. -/
def Skips (lines : List String) : Prop :=
  Declares lines fun _ declared =>
    ∀ declaration ∈ declared, declaration = .skipped

theorem toList_linesText_append (front back : List String) :
    (linesText (front ++ back)).toList =
      (linesText front).toList ++ (linesText back).toList := by
  rw [linesText_append, String.toList_append]

theorem Skips.nil : Skips [] := by
  intro source offset rest
  exact ⟨[], [], .stop, by simp, fun next others reads => reads⟩

theorem Declares.imp
    {lines : List String}
    {Holds Holds' : List Char → List Declaration → Prop}
    (declares : Declares lines Holds)
    (implies : ∀ source declared,
      Holds source declared → Holds' source declared) :
    Declares lines Holds' := by
  intro source offset rest
  rcases declares source offset rest with
    ⟨tokens, declared, scans, holds, reads⟩
  exact ⟨tokens, declared, scans, implies source declared holds, reads⟩

theorem Declares.append
    {front back : List String}
    {Holds Holds' : List Char → List Declaration → Prop}
    (first : Declares front Holds) (second : Declares back Holds') :
    Declares (front ++ back) fun source declared =>
      ∃ inFront inBack, declared = inFront ++ inBack ∧
        Holds source inFront ∧ Holds' source inBack := by
  intro source offset rest
  rw [toList_linesText_append]
  rcases first source offset ((linesText back).toList ++ rest) with
    ⟨tokens, declared, scans, holds, reads⟩
  rcases second source (offset + byteLength (linesText front).toList)
    rest with ⟨tokens', declared', scans', holds', reads'⟩
  refine ⟨tokens ++ tokens', declared ++ declared', scans.append scans',
    ⟨declared, declared', rfl, holds, holds'⟩, ?_⟩
  intro next others readsNext
  rw [List.append_assoc, List.append_assoc]
  exact reads _ _ (reads' next others readsNext)

/-- Lines that are scanned to one declaration with the end of a statement behind it. -/
theorem Declares.one
    {lines : List String} {Holds : List Char → Declaration → Prop}
    (reads : ∀ source offset rest, ∃ tokens stop declaration,
      Scans rest offset false (linesText lines).toList
          (tokens ++ [lineEnd stop]) false ∧
        ReadsDeclaration source false tokens declaration ∧
          Holds source declaration) :
    Declares lines fun source declared =>
      ∃ declaration, declared = [declaration] ∧
        Holds source declaration := by
  intro source offset rest
  rcases reads source offset rest with
    ⟨tokens, stop, declaration, scans, readsFirst, holds⟩
  refine ⟨_, [declaration], scans, ⟨declaration, rfl, holds⟩, ?_⟩
  intro next others readsNext
  have noSemicolons : Reader.Semicolons [] := by simp [Reader.Semicolons]
  have isEnd : (lineEnd stop).kind = .symbol .semicolon := rfl
  have more := ReadsDeclarations.more noSemicolons readsFirst
    (.semicolon isEnd) readsNext
  simpa using more

theorem Skips.append
    {front back : List String} (first : Skips front) (second : Skips back) :
    Skips (front ++ back) := by
  apply (Declares.append first second).imp
  rintro source _ ⟨inFront, inBack, rfl, skipped, skipped'⟩
  exact List.forall_mem_append.mpr ⟨skipped, skipped'⟩

theorem Skips.flatMap
    {α : Type} {items : List α} {lines : α → List String}
    (each : ∀ item ∈ items, Skips (lines item)) :
    Skips (items.flatMap lines) := by
  induction items with
  | nil => exact .nil
  | cons item items ih =>
      rcases List.forall_mem_cons.mp each with ⟨first, others⟩
      exact first.append (ih others)

/-- Lines in a declaration that is passed over, by the open groups before and behind them. -/
def PassesOver (depth : Nat) (lines : List String) (depth' : Nat) : Prop :=
  ∀ offset rest, ∃ tokens,
    Scans rest offset false (linesText lines).toList tokens false ∧
      passing depth tokens = some depth'

namespace PassesOver

variable {depth depth' depth'' : Nat} {lines others : List String}

theorem nil : PassesOver depth [] depth := by
  intro offset rest
  exact ⟨[], .stop, rfl⟩

theorem append
    (first : PassesOver depth lines depth')
    (second : PassesOver depth' others depth'') :
    PassesOver depth (lines ++ others) depth'' := by
  intro offset rest
  rw [toList_linesText_append]
  rcases first offset ((linesText others).toList ++ rest) with
    ⟨tokens, scans, passed⟩
  rcases second (offset + byteLength (linesText lines).toList) rest with
    ⟨tokens', scans', passed'⟩
  refine ⟨tokens ++ tokens', scans.append scans', ?_⟩
  rw [passing_append passed, passed']

theorem flatMap
    {α : Type} {items : List α} {lines : α → List String}
    (each : ∀ item ∈ items, PassesOver depth (lines item) depth) :
    PassesOver depth (items.flatMap lines) depth := by
  induction items with
  | nil => exact .nil
  | cons item items ih =>
      rcases List.forall_mem_cons.mp each with ⟨first, others⟩
      exact first.append (ih others)

theorem map
    {α : Type} {items : List α} {line : α → String}
    (each : ∀ item ∈ items, PassesOver depth [line item] depth) :
    PassesOver depth (items.map line) depth := by
  rw [List.map_eq_flatMap]
  exact .flatMap each

/-- Lines made of parts are passed over as the parts are. -/
theorem ofParts
    (parts : List Part)
    (same : (linesText lines).toList = Part.render parts)
    (isChained : Part.chained parts = true)
    (isLast : parts.getLast? = some .newline)
    (behind : Part.depthBehind depth false parts = some depth') :
    PassesOver depth lines depth' := by
  intro offset rest
  rcases Part.scans_lines same isChained isLast offset false rest with
    ⟨tokens, scans, leave⟩
  exact ⟨tokens, scans, leave.passing_eq behind⟩

end PassesOver

/-- Lines that open a function behind a comment, by the open groups behind them. -/
def OpensFunction (lines : List String) (depth : Nat) : Prop :=
  ∀ offset rest, ∃ word tokens,
    Scans rest offset false (linesText lines).toList (word :: tokens)
        false ∧
      word.kind = .keyword .func ∧ passing 0 tokens = some depth

theorem opensFunction
    {lines : List String} {depth : Nat}
    (comment : List Char) (oneLine : '\n' ∉ comment) (parts : List Part)
    (same : (linesText lines).toList =
      Part.render (.newline :: .comment comment oneLine :: .newline ::
        .word .func :: parts))
    (isChained : Part.chained (.word .func :: parts) = true)
    (isLast : parts.getLast? = some .newline)
    (behind : Part.depthBehind 0 false parts = some depth) :
    OpensFunction lines depth := by
  intro offset rest
  have isLast' :
      (Part.newline :: .comment comment oneLine :: .newline ::
        .word .func :: parts).getLast? = some .newline := by
    simp [List.getLast?_cons, isLast]
  have isChained' :
      Part.chained (.newline :: .comment comment oneLine :: .newline ::
        .word .func :: parts) = true := isChained
  rcases Part.scans_lines same isChained' isLast' offset false rest with
    ⟨tokens, scans, leave⟩
  rcases leave with _ | ⟨⟨_, rfl⟩, _ | ⟨⟨rfl⟩, _ | ⟨⟨_, rfl⟩,
    _ | ⟨⟨start, rfl⟩, leave⟩⟩⟩⟩
  exact ⟨_, _, scans, wordToken_keyword .func start,
    leave.passing_eq behind⟩

@[simp]
theorem linesText_nil : linesText [] = "" := rfl

@[simp]
theorem toList_linesText_cons (line : String) (lines : List String) :
    (linesText (line :: lines)).toList =
      line.toList ++ '\n' :: (linesText lines).toList := by
  simp [linesText]

/-- The line that closes a group. -/
theorem scans_lastLine
    {mark : Symbol} (closing : Closing mark) {rest : List Char}
    {offset : Nat} :
    ∃ stop, Scans rest offset false (linesText [mark.spelling]).toList
      [markToken mark offset, lineEnd stop] false := by
  have same :
      (linesText [mark.spelling]).toList =
        mark.spelling.toList ++ ['\n'] := by
    simp
  rw [same]
  exact ⟨_, closing.scans.append scans_newline⟩

/-- A function up to the line of its closing brace is passed over. -/
theorem skips_function
    {front body : List String} {depth : Nat}
    (opens : OpensFunction front depth) (inside : PassesOver depth body 1) :
    Skips (front ++ body ++ ["\x7d"]) := by
  have declares :
      Declares (front ++ body ++ ["\x7d"]) fun _ declared =>
        ∃ declaration, declared = [declaration] ∧
          declaration = .skipped := by
    refine .one ?_
    intro source offset rest
    rw [toList_linesText_append, toList_linesText_append]
    rcases opens offset ((linesText body).toList ++
      ((linesText ["\x7d"]).toList ++ rest)) with
      ⟨word, tokens, scans, isFunc, passed⟩
    rcases inside (offset + byteLength (linesText front).toList)
      ((linesText ["\x7d"]).toList ++ rest) with
      ⟨tokens', scans', passed'⟩
    let last := offset +
      byteLength ((linesText front).toList ++ (linesText body).toList)
    rcases @scans_lastLine _ closing_rightBrace rest last with
      ⟨stop, scansLast⟩
    have balanced :
        passing 0 (tokens ++ (tokens' ++ [markToken .rightBrace last])) =
          some 0 := by
      rw [passing_append passed, passing_append passed']
      rfl
    refine ⟨word :: (tokens ++ (tokens' ++ [markToken .rightBrace last])),
      stop, .skipped, ?_, .skipped (.inr isFunc) balanced, rfl⟩
    simpa using (scans.append scans').append scansLast
  apply declares.imp
  rintro source _ ⟨declaration, rfl, rfl⟩
  simp

/-- A function with one line in its body. -/
theorem skips_lines
    {blank comment head body : String}
    (opens : OpensFunction [blank, comment, head, body] 1) :
    Skips [blank, comment, head, body, "\x7d"] := by
  have skipped :
      Skips ([blank, comment, head, body] ++ [] ++ ["\x7d"]) :=
    skips_function opens .nil
  simpa using skipped

/-! ## Texts that are passed over -/

open Reader (nesting)

/-- Inside a group, no statement ends the declaration that is passed over. -/
theorem passing_of_nesting
    {depth final : Nat} {tokens : List Token}
    (runs : nesting depth tokens = some final) :
    passing (depth + 1) tokens = some (final + 1) := by
  induction tokens generalizing depth with
  | nil =>
      cases runs
      rfl
  | cons token tokens ih =>
      rw [Reader.nesting_cons] at runs
      rcases Option.bind_eq_some_iff.mp runs with ⟨next, step, runs⟩
      rw [Reader.passing_cons, Reader.passAfter,
        if_neg fun stops => absurd stops.1 (Nat.succ_ne_zero depth),
        Reader.depthAfter_succ step]
      exact ih runs

theorem passedFrom_of_balanced
    {tokens : List Token} (balanced : Reader.Balanced tokens) :
    PassedFrom 1 tokens := by
  intro depth inside
  rcases Nat.exists_eq_add_of_lt inside with ⟨others, rfl⟩
  have passed := passing_of_nesting (balanced.nesting_eq others)
  rwa [Nat.zero_add]

theorem passing_cons_of_identifier
    {depth : Nat} {name : Token} (isName : name.kind = .identifier)
    (tokens : List Token) :
    passing depth (name :: tokens) = passing depth tokens := by
  have step : Reader.passAfter depth name = some depth := by
    simp [Reader.passAfter, Reader.depthAfter, isName]
  rw [Reader.passing_cons, step]
  rfl

/-- A group between brackets is passed over anywhere. -/
theorem passedFrom_brackets
    {opening closing : Token} {inner : List Token}
    (opens : opening.kind = .symbol .leftBracket)
    (closes : closing.kind = .symbol .rightBracket)
    (balanced : Reader.Balanced inner) :
    PassedFrom 0 (opening :: (inner ++ [closing])) := by
  intro depth _
  have first : Reader.passAfter depth opening = some (depth + 1) := by
    simp [Reader.passAfter, Reader.depthAfter, opens, Symbol.opens]
  have last : Reader.passAfter (depth + 1) closing = some depth := by
    simp [Reader.passAfter, Reader.depthAfter, closes, Symbol.opens,
      Symbol.closes]
  rw [Reader.passing_cons, first, Option.bind_some,
    passing_append (passedFrom_of_balanced balanced _ (by omega)),
    Reader.passing_cons, last]
  rfl

theorem depthAfter_of_comma
    {mark : Token} (isMark : mark.kind = .symbol .comma) :
    Reader.depthAfter 0 mark = some 0 := by
  simp [Reader.depthAfter, isMark, Symbol.opens, Symbol.closes]

/-- A name with a list between brackets is passed over anywhere. -/
theorem passedFrom_of_listed
    {α : Type} {name : String} (isName : IsName name)
    {Holds : α → List Token → Prop} {items : List α} {tokens : List Token}
    (listed : Listed name Holds items tokens)
    (balanced : ∀ item tokens, Holds item tokens → Reader.Balanced tokens) :
    PassedFrom 0 tokens := by
  intro depth _
  cases listed with
  | none offset =>
      exact passing_cons_of_identifier (wordToken_kind isName offset) []
  | some offset _ opens closes separated found =>
      rw [passing_cons_of_identifier (wordToken_kind isName offset)]
      have inside : Reader.Balanced _ :=
        separated.balanced (fun _ => depthAfter_of_comma)
          (forall_mem_of_forall₂ found balanced)
      exact passedFrom_brackets opens closes inside depth (Nat.zero_le _)

/-! ## Parts of generated lines -/

@[simp]
theorem toString_text (text : String) : toString text = text := rfl

namespace Part

/-- One space. -/
abbrev space : Part :=
  .gap ' ' [] (List.forall_iff_forall_mem.mp (by decide))

/-- The indentation of a line by one step. -/
abbrev tab : Part :=
  .gap '\t' [] (List.forall_iff_forall_mem.mp (by decide))

/-- The indentation of a line by two steps. -/
abbrev tabs : Part :=
  .gap '\t' ['\t'] (List.forall_iff_forall_mem.mp (by decide))

abbrev leftParen : Part := .mark .leftParen rfl

abbrev rightParen : Part := .mark .rightParen rfl

abbrev leftBrace : Part := .mark .leftBrace rfl

abbrev rightBrace : Part := .mark .rightBrace rfl

abbrev comma : Part := .mark .comma rfl

abbrev colon : Part := .mark .colon rfl

abbrev star : Part := .mark .star rfl

abbrev equal : Part := .mark .equal rfl

abbrev notEqual : Part := .mark .notEqual rfl

abbrev andAnd : Part := .mark .andAnd rfl

abbrev assign : Part := .mark .assign rfl

abbrev define : Part := .mark .define rfl

-- Printed lines are compared with lists of parts by the texts of the parts.
attribute [simp] Part.text

variable {parts others : List Part}

@[simp]
theorem render_nil : render [] = [] := rfl

@[simp]
theorem render_cons (part : Part) :
    render (part :: parts) = part.text ++ render parts := rfl

@[simp]
theorem render_append :
    render (parts ++ others) = render parts ++ render others :=
  List.flatMap_append

end Part

/-! ## Legible sources -/

/-- Tokens of one type parameter. -/
def IsParameter (text : List Char) (piece : List Token) : Prop :=
  ∃ name tokens constraint, piece = name :: tokens ∧
    name.kind = .identifier ∧
      Reader.Reads text tokens (.constraint constraint)

theorem IsParameter.balanced
    {text : List Char} {piece : List Token}
    (isParameter : IsParameter text piece) :
    Reader.Balanced piece := by
  rcases isParameter with ⟨name, tokens, constraint, rfl, isName, reads⟩
  exact .cons (by simp [Reader.depthAfter, isName]) reads.balanced

/-- What the names and the types of a source have to be for its text to be read. -/
structure UnionSource.Legible (source : UnionSource) : Prop where
  typeName : IsName source.config.typeName
  packageName : IsName source.config.package
  recordName : IsName source.descriptor.name
  plan : source.plan.AllNames
  variants : ∀ variant ∈ source.descriptor.variants, IsName variant.name
  types : ∀ variant ∈ source.descriptor.variants,
    FormsType source.imports.qualifier variant.type
  parameters : ∀ parameter ∈ source.descriptor.parameters,
    IsName parameter.name
  constraints : ∀ parameter ∈ source.descriptor.parameters,
    FormsConstraint source.imports.qualifier parameter.constraint
  imports : ∀ entry ∈ source.imports.names, IsName entry.2 ∧
    ∀ c ∈ entry.1.toList, Literal.isPlainText c = true

namespace UnionSource

/-- The text of a type parameter with its constraint. -/
def parameterText (source : UnionSource) (parameter : TypeParameter) :
    String :=
  parameter.name ++ " " ++ source.spell parameter.constraint

theorem usedParameters_eq (source : UnionSource) :
    source.usedParameters =
      Spelling.bracketed (source.descriptor.parameters.map (·.name)) := by
  rw [usedParameters, UnionDescriptor.isGeneric, Spelling.bracketed]
  cases source.descriptor.parameters with
  | nil => rfl
  | cons parameter parameters => rfl

theorem declaredParameters_eq (source : UnionSource) :
    source.declaredParameters =
      Spelling.bracketed
        (source.descriptor.parameters.map source.parameterText) := by
  rw [declaredParameters, UnionDescriptor.isGeneric, Spelling.bracketed]
  cases source.descriptor.parameters with
  | nil => rfl
  | cons parameter parameters => rfl

namespace Legible

variable {source : UnionSource} (legible : source.Legible)

include legible

theorem discriminant : IsName source.discriminant :=
  isName_append legible.typeName.word
    (List.forall_iff_forall_mem.mp (by decide)) (c := 'V')
    (List.mem_append_right _ (by decide)) (by decide)

theorem state {name : String} (isName : IsName name) :
    IsName (source.state name) := by
  have isFront : IsName (source.config.typeName ++ "_") :=
    isName_append legible.typeName.word
      (List.forall_iff_forall_mem.mp (by decide)) (c := '_')
      (List.mem_append_right _ (by decide)) (by decide)
  refine isName.behind isFront.word (c := '_') ?_ (by decide)
  rw [String.toList_append]
  exact List.mem_append_right _ (by decide)

theorem slot {variant : Field} (isName : IsName variant.name) :
    IsName (source.slot variant) := by
  rw [UnionSource.slot]
  split
  · exact legible.plan.inner
  · exact isName

/-- The union type as it is used is passed over anywhere. -/
theorem forms_instanceType :
    Forms source.instanceType.toList (PassedFrom 0) := by
  rw [instanceType, usedParameters_eq]
  have names : ∀ parameter ∈ source.descriptor.parameters,
      Forms parameter.name.toList Reader.Balanced := by
    intro parameter isParameter
    have isName := legible.parameters parameter isParameter
    apply (forms_name isName).imp
    rintro _ ⟨offset, rfl⟩
    exact .cons (by simp [Reader.depthAfter, wordToken_kind isName]) .nil
  apply (forms_listed legible.typeName
    (fun parameter : TypeParameter => parameter.name) names).imp
  intro tokens listed
  exact passedFrom_of_listed legible.typeName listed
    fun _ _ balanced => balanced

/-- The text of a type parameter is a name and a constraint. -/
theorem forms_parameterText
    {parameter : TypeParameter}
    (isParameter : parameter ∈ source.descriptor.parameters)
    (text : List Char) :
    Forms (source.parameterText parameter).toList (IsParameter text) := by
  have isName := legible.parameters parameter isParameter
  have same :
      (source.parameterText parameter).toList =
        (parameter.name.toList ++ [' ']) ++
          (source.spell parameter.constraint).toList := by
    simp [parameterText]
  rw [same]
  apply ((legible.constraints parameter isParameter text).behind _
    (fun offset => [wordToken parameter.name offset])
    ((solid_name isName).append _)
    fun offset pending rest solid => ⟨true,
      (scans_name isName (Lexeme.stops_cons.mpr (by decide))).append
        (scans_space solid.stops)⟩).imp
  rintro _ ⟨offset, inner, rfl, constraint, reads, -⟩
  exact ⟨_, inner, constraint, rfl, wordToken_kind isName offset, reads⟩

/-- A name with the declared type parameters behind it is a list of parameters. -/
theorem forms_declaredParameters
    {name : String} (isName : IsName name) (text : List Char) :
    Forms (name ++ source.declaredParameters).toList
      (Listed name (fun _ => IsParameter text)
        source.descriptor.parameters) := by
  rw [declaredParameters_eq]
  exact forms_listed isName source.parameterText
    fun parameter isParameter => legible.forms_parameterText isParameter text

/-- A name with the declared type parameters behind it is passed over anywhere. -/
theorem passes_declaredParameters
    {name : String} (isName : IsName name) :
    Forms (name ++ source.declaredParameters).toList (PassedFrom 0) := by
  apply (legible.forms_declaredParameters isName []).imp
  intro tokens listed
  exact passedFrom_of_listed isName listed
    fun _ _ isParameter => isParameter.balanced

/-- The text of the type of a variant is passed over inside a group. -/
theorem forms_spell
    {variant : Field} (isVariant : variant ∈ source.descriptor.variants) :
    Forms (source.spell variant.type).toList (PassedFrom 1) := by
  apply (legible.types variant isVariant []).imp
  rintro tokens ⟨expression, readsAs⟩
  exact passedFrom_of_balanced readsAs.reads.balanced

end Legible

end UnionSource

/-! ## Functions of a union -/

namespace UnionSource.Legible

open GoUnion.Part

variable {source : UnionSource} (legible : source.Legible)

/-- The receiver of a method. -/
def receiverParts : List Part :=
  [leftParen, .name source.plan.receiver legible.plan.receiver, space,
    star, .form source.instanceType 0 legible.forms_instanceType,
    rightParen]

/-- The discriminant of the receiver. -/
def activeParts : List Part :=
  [.name source.plan.receiver legible.plan.receiver, point,
    .name source.plan.discriminant legible.plan.discriminant]

/-- The value of the union in which a variant is active. -/
def literalParts {variant : Field} (isName : IsName variant.name) :
    List Part :=
  [.form source.instanceType 0 legible.forms_instanceType, leftBrace,
    .name source.plan.discriminant legible.plan.discriminant, colon, space,
    .name (source.state variant.name) (legible.state isName), comma, space,
    .name (source.slot variant) (legible.slot isName), colon, space,
    .name source.plan.valueParameter legible.plan.valueParameter,
    rightBrace]

include legible

/-- A getter gives the value of its variant if it is active. -/
theorem passesOver_activeLines
    {variant : Field}
    (isVariant : variant ∈ source.descriptor.variants) :
    PassesOver 1 (source.activeLines variant) 1 := by
  have isName := legible.variants variant isVariant
  rw [activeLines]
  dsimp only
  split
  · refine .ofParts [tab,
      .name _ legible.plan.valueParameter, comma, space,
      .name "_" (by decide), space, define, space,
      .name _ legible.plan.receiver, point, .name _ legible.plan.inner,
      point, leftParen, .form _ 1 (legible.forms_spell isVariant),
      rightParen, newline, tab, .word .return, space,
      .name _ legible.plan.valueParameter, comma, space,
      .name "true" (by decide), newline] ?_ rfl rfl rfl
    simp [Keyword.spelling, Symbol.spelling]
  · refine .ofParts [tab, .word .return, space,
      .name _ legible.plan.receiver, point, .name _ isName, comma, space,
      .name "true" (by decide), newline] ?_ rfl rfl rfl
    simp [Keyword.spelling, Symbol.spelling]

theorem skips_getterLines
    {variant : Field} {getter : String}
    (isVariant : variant ∈ source.descriptor.variants)
    (isGetter : IsName getter) :
    Skips (source.getterLines variant getter) := by
  have isName := legible.variants variant isVariant
  have type' := legible.forms_spell isVariant
  rw [getterLines]
  refine skips_function (opensFunction
    (" " ++ getter ++ " returns the value of " ++
      variant.name ++ " and whether it is the active variant.").toList
    (by simp [isName.oneLine, isGetter.oneLine])
    ([space] ++ legible.receiverParts ++ [space,
      .name getter isGetter, leftParen, rightParen, space, leftParen,
      .form _ 1 type', comma, space, .name "bool" (by decide), rightParen,
      space, leftBrace, newline, tab, .word .if, space] ++
      legible.activeParts ++ [space, notEqual, space,
      .name _ (legible.state isName), space, leftBrace, newline, tabs,
      .word .var, space, .name _ legible.plan.zero, space,
      .form _ 1 type', newline, tabs, .word .return, space,
      .name _ legible.plan.zero, comma, space, .name "false" (by decide),
      newline, tab, rightBrace, newline]) ?_ rfl rfl rfl)
    (legible.passesOver_activeLines isVariant)
  simp [UnionSource.receiver, receiverParts, activeParts,
    Keyword.spelling, Symbol.spelling]

theorem skips_setterLines
    {variant : Field} {setter : String}
    (isVariant : variant ∈ source.descriptor.variants)
    (isSetter : IsName setter) :
    Skips (source.setterLines variant setter) := by
  have isName := legible.variants variant isVariant
  rw [setterLines]
  refine skips_lines (opensFunction
    (" " ++ setter ++ " makes " ++ variant.name ++
      " the active variant, holding " ++ source.plan.valueParameter ++
        ".").toList
    (by simp [isName.oneLine, isSetter.oneLine,
      legible.plan.valueParameter.oneLine])
    ([space] ++ legible.receiverParts ++ [space,
      .name setter isSetter, leftParen,
      .name _ legible.plan.valueParameter, space,
      .form _ 1 (legible.forms_spell isVariant), rightParen, space,
      leftBrace, newline, tab, star, .name _ legible.plan.receiver, space,
      assign, space] ++ legible.literalParts isName ++ [newline])
    ?_ rfl rfl rfl)
  simp [UnionSource.receiver, receiverParts, UnionSource.literal,
    literalParts, Keyword.spelling,
    Symbol.spelling]

theorem skips_constructorLines
    {variant : Field}
    (isVariant : variant ∈ source.descriptor.variants) :
    Skips (source.constructorLines variant) := by
  have isName := legible.variants variant isVariant
  have isConstructor : IsName (source.constructorName variant) :=
    (legible.state isName).behind (by decide) (c := 'N') (by decide)
      (by decide)
  rw [constructorLines]
  refine skips_lines (opensFunction
    (" " ++ source.constructorName variant ++ " returns a " ++
      source.config.typeName ++ " holding " ++ variant.name ++
        ".").toList
    (by simp [isName.oneLine, isConstructor.oneLine,
      legible.typeName.oneLine])
    ([space, .form _ 0
      (legible.passes_declaredParameters isConstructor), leftParen,
      .name _ legible.plan.valueParameter, space,
      .form _ 1 (legible.forms_spell isVariant), rightParen, space,
      .form _ 0 legible.forms_instanceType, space, leftBrace, newline, tab,
      .word .return, space] ++ legible.literalParts isName ++ [newline])
    ?_ rfl rfl rfl)
  simp [UnionSource.literal, literalParts, Keyword.spelling,
    Symbol.spelling]

theorem skips_variantLines : Skips source.variantLines := by
  rw [variantLines]
  refine skips_lines (opensFunction
    (" " ++ source.plan.variantMethod ++
      " returns the active variant.").toList
    (by simp [legible.plan.variantMethod.oneLine])
    ([space] ++ legible.receiverParts ++ [space,
      .name _ legible.plan.variantMethod, leftParen, rightParen, space,
      .name _ legible.discriminant, space, leftBrace, newline, tab,
      .word .return, space] ++ legible.activeParts ++ [newline])
    ?_ rfl rfl rfl)
  simp [UnionSource.receiver, receiverParts, activeParts,
    Keyword.spelling, Symbol.spelling]

/-- The method that names a discriminant has one case for each variant. -/
theorem skips_stringLines : Skips source.stringLines := by
  have opens : OpensFunction ["", "// String returns the name of the variant.",
      s!"func (v {source.discriminant}) String() string \x7b",
      "\tswitch v \x7b"] 2 := by
    refine opensFunction
      " String returns the name of the variant.".toList
      (by decide)
      [space, leftParen, .name "v" (by decide), space,
        .name _ legible.discriminant, rightParen, space,
        .name "String" (by decide), leftParen, rightParen, space,
        .name "string" (by decide), space, leftBrace, newline, tab,
        .word .switch, space, .name "v" (by decide), space, leftBrace,
        newline] ?_ rfl rfl rfl
    simp [Keyword.spelling, Symbol.spelling]
  have cases' : PassesOver 2 (source.descriptor.variants.flatMap
      fun variant =>
        [s!"\tcase {source.state variant.name}:",
          s!"\t\treturn {Text.quoted variant.name}"]) 2 := by
    refine .flatMap ?_
    intro variant isVariant
    refine .ofParts [tab, .word .case, space,
      .name _ (legible.state (legible.variants variant isVariant)), colon,
      newline, tabs, .word .return, space, .quoted variant.name, newline]
      ?_ rfl rfl rfl
    simp [Keyword.spelling, Symbol.spelling]
  have others : PassesOver 2 ["\tdefault:",
      s!"\t\treturn {Text.quoted source.otherName}", "\t\x7d"] 1 := by
    refine .ofParts [tab, .word .default, colon, newline, tabs,
      .word .return, space, .quoted source.otherName, newline, tab,
      rightBrace, newline] ?_ rfl rfl rfl
    simp [Keyword.spelling, Symbol.spelling]
  have skipped := skips_function opens (cases'.append others)
  simpa [stringLines] using skipped

/-- A union that was never set has the zero value of its first variant. -/
theorem passesOver_defaultValueLines :
    PassesOver 1 source.defaultValueLines 1 := by
  rw [defaultValueLines]
  split
  case h_1 first others isVariants =>
    have isFirst : first ∈ source.descriptor.variants := by
      rw [isVariants]
      exact List.mem_cons_self
    split
    · refine .ofParts ([tab, .word .if, space] ++ legible.activeParts ++
        [space, equal, space,
        .name _ (legible.state (legible.variants first isFirst)), space,
        andAnd, space, .name _ legible.plan.receiver, point,
        .name _ legible.plan.inner, space, equal, space,
        .name "nil" (by decide), space, leftBrace, newline, tabs,
        .word .var, space, .name _ legible.plan.zero, space,
        .form _ 1 (legible.forms_spell isFirst), newline, tabs,
        .word .return, space, .name _ legible.plan.zero, newline, tab,
        rightBrace, newline]) ?_ rfl rfl rfl
      simp [activeParts, Keyword.spelling, Symbol.spelling]
    · exact .nil
  case h_2 => exact .nil

theorem skips_valueLines : Skips source.valueLines := by
  rw [valueLines]
  split
  case h_1 => exact .nil
  case h_2 method isMethod =>
    have isName := legible.plan.valueMethod method isMethod
    have opens : OpensFunction ["",
        s!"// {method} returns the value of the active variant, or nil if there is none.",
        s!"func {source.receiver} {method}() any \x7b"] 1 := by
      refine opensFunction (" " ++ method ++ " returns the value of the " ++
          "active variant, or nil if there is none.").toList
        (by simp [isName.oneLine])
        ([space] ++ legible.receiverParts ++ [space, .name _ isName,
          leftParen, rightParen, space, .name "any" (by decide), space,
          leftBrace, newline]) ?_ rfl rfl rfl
      simp [UnionSource.receiver, receiverParts, Keyword.spelling,
        Symbol.spelling]
    have returns : PassesOver 1
        [s!"\treturn {source.plan.receiver}.{source.plan.inner}"] 1 := by
      refine .ofParts [tab, .word .return, space,
        .name _ legible.plan.receiver, point, .name _ legible.plan.inner,
        newline] ?_ rfl rfl rfl
      simp [Keyword.spelling]
    have skipped := skips_function opens
      (legible.passesOver_defaultValueLines.append returns)
    simpa using skipped

/-- A case of the matching method calls a handler. -/
theorem passesOver_caseLines
    {variant : Field} {handler : String}
    (isVariant : variant ∈ source.descriptor.variants)
    (isHandler : IsName handler) :
    PassesOver 2 (source.caseLines variant handler) 2 := by
  have isName := legible.variants variant isVariant
  rw [caseLines]
  dsimp only
  split
  · refine .ofParts [tab, .word .case, space, .name _ (legible.state isName),
      colon, newline, tabs, .name _ legible.plan.valueParameter, comma,
      space, .name "_" (by decide), space, define, space,
      .name _ legible.plan.receiver, point, .name _ legible.plan.inner,
      point, leftParen, .form _ 1 (legible.forms_spell isVariant),
      rightParen, newline, tabs, .name _ isHandler, leftParen,
      .name _ legible.plan.valueParameter, rightParen, newline]
      ?_ rfl rfl rfl
    simp [Keyword.spelling, Symbol.spelling]
  · refine .ofParts [tab, .word .case, space, .name _ (legible.state isName),
      colon, newline, tabs, .name _ isHandler, leftParen,
      .name _ legible.plan.receiver, point, .name _ isName, rightParen,
      newline] ?_ rfl rfl rfl
    simp [Keyword.spelling, Symbol.spelling]

theorem handled
    {entry : Field × String}
    (isIn : entry ∈ source.named source.plan.handlers) :
    entry.1 ∈ source.descriptor.variants ∧ IsName entry.2 :=
  ⟨of_mem_named isIn,
    legible.plan.handlers _ (List.of_mem_zip isIn).2⟩

/-- The matching method takes a handler for each variant. -/
theorem passesOver_handlerLines :
    PassesOver 1 ((source.named source.plan.handlers).map
      fun (variant, handler) =>
        s!"\t{handler} func({source.spell variant.type}),") 1 := by
  refine .map ?_
  intro entry isIn
  rcases legible.handled isIn with ⟨isVariant, isHandler⟩
  refine .ofParts [tab, .name _ isHandler, space, .word .func,
    leftParen, .form _ 1 (legible.forms_spell isVariant), rightParen,
    comma, newline] ?_ rfl rfl rfl
  simp [Keyword.spelling, Symbol.spelling]

/-- The matching method has a case for each variant. -/
theorem passesOver_caseBlock :
    PassesOver 2 ((source.named source.plan.handlers).flatMap
      fun (variant, handler) => source.caseLines variant handler) 2 := by
  refine .flatMap ?_
  intro entry isIn
  rcases legible.handled isIn with ⟨isVariant, isHandler⟩
  exact legible.passesOver_caseLines isVariant isHandler

/-- The matching method takes a handler for each variant and has a case for each. -/
theorem skips_matchLines : Skips source.matchLines := by
  rw [matchLines]
  split
  case h_1 => exact .nil
  case h_2 method isMethod =>
    have isName := legible.plan.matchMethod method isMethod
    have opens : OpensFunction ["",
        s!"// {method} calls the handler of the active variant with its value.",
        s!"func {source.receiver} {method}("] 1 := by
      refine opensFunction (" " ++ method ++ " calls the handler of the " ++
          "active variant with its value.").toList
        (by simp [isName.oneLine])
        ([space] ++ legible.receiverParts ++ [space, .name _ isName,
          leftParen, newline]) ?_ rfl rfl rfl
      simp [UnionSource.receiver, receiverParts, Keyword.spelling,
        Symbol.spelling]
    have invalidHandler : PassesOver 1
        (if source.plan.invalid.isSome then
          [s!"\t{source.plan.invalidHandler} func(),"] else []) 1 := by
      split
      · refine .ofParts [tab, .name _ legible.plan.invalidHandler, space,
          .word .func, leftParen, rightParen, comma, newline] ?_ rfl rfl rfl
        simp [Keyword.spelling, Symbol.spelling]
      · exact .nil
    have switches : PassesOver 1 [") \x7b",
        s!"\tswitch {source.plan.receiver}.{source.plan.discriminant} \x7b"]
        2 := by
      refine .ofParts ([rightParen, space, leftBrace, newline, tab,
        .word .switch, space] ++ legible.activeParts ++ [space, leftBrace,
        newline]) ?_ rfl rfl rfl
      simp [activeParts, Keyword.spelling, Symbol.spelling]
    have others : PassesOver 2
        (if source.plan.invalid.isSome then
          ["\tdefault:", s!"\t\t{source.plan.invalidHandler}()"]
          else []) 2 := by
      split
      · refine .ofParts [tab, .word .default, colon, newline, tabs,
          .name _ legible.plan.invalidHandler, leftParen, rightParen,
          newline] ?_ rfl rfl rfl
        simp [Keyword.spelling, Symbol.spelling]
      · exact .nil
    have closes : PassesOver 2 ["\t\x7d"] 1 := by
      refine .ofParts [tab, rightBrace, newline] ?_ rfl rfl rfl
      simp [Symbol.spelling]
    have skipped := skips_function opens
      (((((legible.passesOver_handlerLines.append invalidHandler).append
        switches).append legible.passesOver_caseBlock).append
        others).append closes)
    simpa using skipped

/-! ## The functions of the file -/

theorem skips_getterBlock : Skips source.getterBlock := by
  refine .flatMap ?_
  intro entry isIn
  exact legible.skips_getterLines (of_mem_named isIn)
    (legible.plan.getters _ (List.of_mem_zip isIn).2)

theorem skips_setterBlock : Skips source.setterBlock := by
  refine .flatMap ?_
  intro entry isIn
  exact legible.skips_setterLines (of_mem_named isIn)
    (legible.plan.setters _ (List.of_mem_zip isIn).2)

theorem skips_constructorBlock : Skips source.constructorBlock := by
  refine .flatMap ?_
  intro variant isVariant
  exact legible.skips_constructorLines isVariant

end UnionSource.Legible

end GoUnion
