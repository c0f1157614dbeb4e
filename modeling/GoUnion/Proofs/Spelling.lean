import GoUnion.GoType.Spelling
import GoUnion.GoType.Traversal
import GoUnion.Proofs.Grammar
import GoUnion.Proofs.Lexing.Printed
import GoUnion.Proofs.WellFormed
import GoUnion.Resolution
import Mathlib.Data.List.Forall2

/-!
# Spelled types

What it means that the text of a type is read back.  A text forms something if
it is scanned, wherever it stands in front of what ends a name, to tokens of
which that holds.  The text of a type forms an expression that denotes the type
in every scope in which each of its names stands for what it was written for.

The lists that occur in types are texts with a separator between them; what
their texts form, a list of texts forms one after the other.
-/

namespace GoUnion

open Lexeme (IsName Stops EndsName stops_cons isGap startsName)
open Token
open Text (Span byteLength)

/-! ## Texts that form something -/

/-- A text that opens with a character that continues neither a gap nor a mark in front of it. -/
def Solid (text : List Char) : Prop :=
  ∃ c tail, text = c :: tail ∧ isGap c = false ∧ c ≠ '='

theorem Solid.append
    {front : List Char} (solid : Solid front) (back : List Char) :
    Solid (front ++ back) := by
  rcases solid with ⟨c, tail, rfl, noGap, noEqual⟩
  exact ⟨c, tail ++ back, rfl, noGap, noEqual⟩

theorem Solid.stops {text : List Char} (solid : Solid text) :
    Stops isGap text := by
  rcases solid with ⟨c, tail, rfl, noGap, -⟩
  exact stops_cons.mpr noGap

theorem Solid.endsMark_star {text : List Char} (solid : Solid text) :
    EndsMark .star text := by
  rcases solid with ⟨c, tail, rfl, -, noEqual⟩
  apply endsMark_cons
  have only : continuations .star = ['='] := by decide
  rw [only, List.mem_singleton]
  exact noEqual

theorem solid_of_startsName
    {c : Char} (starts : startsName c = true) (tail : List Char) :
    Solid (c :: tail) := by
  refine ⟨c, tail, rfl, ?_, ?_⟩
  · rw [← Bool.not_eq_true]
    intro gap
    simp only [isGap, Bool.or_eq_true, decide_eq_true_eq] at gap
    rcases gap with ((rfl | rfl) | rfl) | rfl
    all_goals
      revert starts
      decide
  · rintro rfl
    revert starts
    decide

theorem solid_name {name : String} (isName : IsName name) :
    Solid name.toList := by
  rcases isName.opens with ⟨c, tail, shape, starts⟩
  rw [shape]
  exact solid_of_startsName starts tail

theorem not_startsName_of_continuation :
    ∀ entry ∈ Lexeme.fixed, ∀ c ∈ entry.1, startsName c = false := by
  have checked : Lexeme.fixed.all (fun entry =>
      entry.1.all fun c => !startsName c) = true := by
    decide
  simpa only [List.all_eq_true, Bool.not_eq_true'] using checked

theorem endsMark_of_startsName
    {mark : Symbol} {c : Char} {tail : List Char}
    (starts : startsName c = true) :
    EndsMark mark (c :: tail) := by
  apply endsMark_cons
  intro isIn
  rcases List.mem_filterMap.mp isIn with ⟨entry, inFixed, found⟩
  have inEntry : c ∈ entry.1 := by
    rw [Option.filter_eq_some_iff] at found
    exact List.mem_of_mem_drop (List.mem_of_head? found.1)
  rw [not_startsName_of_continuation entry inFixed c inEntry] at starts
  cases starts

/-- No operator goes on with a name. -/
theorem endsMark_name
    {name : String} (isName : IsName name) (mark : Symbol)
    (rest : List Char) :
    EndsMark mark (name.toList ++ rest) := by
  rcases isName.opens with ⟨c, tail, shape, starts⟩
  rw [shape, List.cons_append]
  exact endsMark_of_startsName starts

/-- A point in front of a name is no part of a number. -/
theorem stops_isDigit_name
    {name : String} (isName : IsName name) (rest : List Char) :
    Stops Numeral.isDigit (name.toList ++ rest) := by
  rcases isName.opens with ⟨c, tail, shape, starts⟩
  rw [shape, List.cons_append, stops_cons, ← Bool.not_eq_true]
  intro isDigit
  rw [Numeral.isDigit, Bool.and_eq_true, decide_eq_true_eq,
    decide_eq_true_eq] at isDigit
  have isDecimal : c ∈ Literal.decimals :=
    Literal.mem_decimals (Char.isDigit_iff_toNat.mpr isDigit)
  rw [(plain_of_decimal c isDecimal).2.2.2.1] at starts
  cases starts

/-- A text is scanned to tokens of which something holds, wherever it stands in front of what
ends a name. -/
structure Forms (text : List Char) (Holds : List Token → Prop) : Prop where
  solid : Solid text
  scans : ∀ offset pending rest, EndsName rest →
    ∃ tokens, Scans rest offset pending text tokens true ∧ Holds tokens

theorem Forms.imp
    {text : List Char} {Holds Holds' : List Token → Prop}
    (forms : Forms text Holds)
    (implies : ∀ tokens, Holds tokens → Holds' tokens) :
    Forms text Holds' := by
  refine ⟨forms.solid, ?_⟩
  intro offset pending rest ends
  rcases forms.scans offset pending rest ends with ⟨tokens, scans, holds⟩
  exact ⟨tokens, scans, implies tokens holds⟩

/-- What a text forms behind a piece that is scanned to some tokens. -/
theorem Forms.behind
    {text : List Char} {Holds : List Token → Prop}
    (forms : Forms text Holds) (front : List Char)
    (opening : Nat → List Token) (solid : Solid front)
    (opens : ∀ offset pending rest, Solid rest →
      ∃ after, Scans rest offset pending front (opening offset) after) :
    Forms (front ++ text) fun tokens => ∃ offset inner,
      tokens = opening offset ++ inner ∧ Holds inner := by
  refine ⟨solid.append text, ?_⟩
  intro offset pending rest ends
  rcases opens offset pending (text ++ rest) (forms.solid.append rest) with
    ⟨after, scansFront⟩
  rcases forms.scans (offset + byteLength front) after rest ends with
    ⟨tokens, scans, holds⟩
  exact ⟨opening offset ++ tokens, scansFront.append scans, offset, tokens,
    rfl, holds⟩

/-- A name forms one word. -/
theorem forms_name {name : String} (isName : IsName name) :
    Forms name.toList fun tokens =>
      ∃ offset, tokens = [wordToken name offset] := by
  refine ⟨solid_name isName, ?_⟩
  intro offset pending rest ends
  exact ⟨_, scans_name isName ends, offset, rfl⟩

/-- What a text forms behind a name that it does not continue. -/
theorem Forms.named
    {text : List Char} {Holds : List Token → Prop} {name : String}
    (forms : Forms text Holds) (isName : IsName name)
    (ends : ∀ rest, EndsName (text ++ rest)) :
    Forms (name.toList ++ text) fun tokens => ∃ offset inner,
      tokens = wordToken name offset :: inner ∧ Holds inner := by
  refine ⟨(solid_name isName).append _, ?_⟩
  intro offset pending rest ends'
  rcases forms.scans (offset + byteLength name.toList) true rest ends' with
    ⟨tokens, scans, holds⟩
  exact ⟨[wordToken name offset] ++ tokens,
    (scans_name isName (ends rest)).append scans, offset, tokens, rfl,
    holds⟩

/-- A mark of one character that ends a statement and continues nothing. -/
structure Closing (mark : Symbol) : Prop where
  opens : mark.spelling.toList.head?.all opensMark = true
  closed : continuations mark = []
  endsStatement : (TokenKind.symbol mark).endsStatement = true
  endsName : ∀ rest, EndsName (mark.spelling.toList ++ rest)

theorem closing_rightBracket : Closing .rightBracket where
  opens := by decide
  closed := by decide
  endsStatement := rfl
  endsName _ := stops_cons.mpr (by decide)

theorem closing_rightParen : Closing .rightParen where
  opens := by decide
  closed := by decide
  endsStatement := rfl
  endsName _ := stops_cons.mpr (by decide)

theorem closing_rightBrace : Closing .rightBrace where
  opens := by decide
  closed := by decide
  endsStatement := rfl
  endsName _ := stops_cons.mpr (by decide)

theorem Closing.scans
    {mark : Symbol} (closing : Closing mark) {rest : List Char}
    {offset : Nat} {pending : Bool} :
    Scans rest offset pending mark.spelling.toList [markToken mark offset]
      true := by
  have scans :
      Scans rest offset pending mark.spelling.toList
        [markToken mark offset] (TokenKind.symbol mark).endsStatement :=
    scans_mark mark closing.opens (endsMark_of_closed closing.closed rest)
  rwa [closing.endsStatement] at scans

/-- What a text forms in front of a closing mark. -/
theorem Forms.closed
    {text : List Char} {Holds : List Token → Prop} {mark : Symbol}
    (forms : Forms text Holds) (closing : Closing mark) :
    Forms (text ++ mark.spelling.toList) fun tokens => ∃ inner offset,
      tokens = inner ++ [markToken mark offset] ∧ Holds inner := by
  refine ⟨forms.solid.append _, ?_⟩
  intro offset pending rest _
  rcases forms.scans offset pending (mark.spelling.toList ++ rest)
    (closing.endsName rest) with ⟨tokens, scans, holds⟩
  exact ⟨tokens ++ [markToken mark (offset + byteLength text)],
    scans.append closing.scans, tokens, _, rfl, holds⟩

/-! ## Lists -/

/-- A separator, which is scanned to one mark and leaves a solid text behind it alone. -/
structure Separates (separator : List Char) (mark : Symbol) : Prop where
  ends : ∀ rest, EndsName (separator ++ rest)
  scans : ∀ offset rest, Solid rest →
    ∃ token, token.kind = .symbol mark ∧
      Scans rest offset true separator [token] false

theorem scans_space {rest : List Char} {offset : Nat} {pending : Bool}
    (stops : Stops isGap rest) :
    Scans rest offset pending [' '] [] pending :=
  scans_gap (by simp) (List.forall_mem_singleton.mpr rfl) stops

theorem separates_comma : Separates ", ".toList .comma where
  ends _ := stops_cons.mpr (by decide)
  scans offset rest solid :=
    ⟨markToken .comma offset, rfl,
      (scans_mark .comma (by decide) (endsMark_of_closed (by decide) _)).append
        (scans_space solid.stops)⟩

theorem separates_semicolon : Separates "; ".toList .semicolon where
  ends _ := stops_cons.mpr (by decide)
  scans offset rest solid :=
    ⟨markToken .semicolon offset, rfl,
      (scans_mark .semicolon (by decide)
        (endsMark_of_closed (by decide) _)).append
          (scans_space solid.stops)⟩

theorem separates_pipe : Separates " | ".toList .pipe where
  ends _ := stops_cons.mpr (by decide)
  scans offset rest solid :=
    ⟨markToken .pipe (offset + byteLength [' ']), rfl,
      (scans_space (stops_cons.mpr (by decide))).append
        ((scans_mark .pipe (by decide) (endsMark_cons (by decide))).append
          (scans_space solid.stops))⟩

theorem toList_joined_cons
    (separator first second : String) (others : List String) :
    (Spelling.joined separator (first :: second :: others)).toList =
      first.toList ++ (separator.toList ++
        (Spelling.joined separator (second :: others)).toList) := by
  simp only [Spelling.joined, String.toList_intercalate, List.map_cons,
    List.intercalate_cons_cons, List.append_assoc]

/-- Some texts with a separator between them form what each of them does. -/
theorem forms_joined
    {α : Type} {separator : String} {mark : Symbol}
    (separates : Separates separator.toList mark)
    (text : α → String) {Holds : α → List Token → Prop} {items : List α}
    (nonempty : items ≠ [])
    (forms : ∀ item ∈ items, Forms (text item).toList (Holds item)) :
    Forms (Spelling.joined separator (items.map text)).toList
      fun tokens => ∃ pieces,
        Reader.Separated (.symbol mark) false pieces tokens ∧
          List.Forall₂ Holds items pieces := by
  induction items with
  | nil => exact absurd rfl nonempty
  | cons item items ih =>
      rcases List.forall_mem_cons.mp forms with ⟨first, others⟩
      cases items with
      | nil =>
          have single :
              Spelling.joined separator ([item].map text) = text item :=
            rfl
          rw [single]
          apply first.imp
          intro tokens holds
          exact ⟨[tokens], .last, .cons holds .nil⟩
      | cons second items =>
          have later := ih (List.cons_ne_nil _ _) others
          rw [List.map_cons, List.map_cons, toList_joined_cons,
            ← List.map_cons]
          refine ⟨first.solid.append _, ?_⟩
          intro offset pending rest ends
          rcases later.scans
            (offset + byteLength (text item).toList +
              byteLength separator.toList) false rest ends with
            ⟨tokens', scansLater, pieces, separated, holdsLater⟩
          rcases separates.scans (offset + byteLength (text item).toList)
            ((Spelling.joined separator
              ((second :: items).map text)).toList ++ rest)
            (later.solid.append rest) with ⟨token, isMark, scansMark⟩
          rcases first.scans offset pending
            ((separator.toList ++ (Spelling.joined separator
              ((second :: items).map text)).toList) ++ rest)
            (by rw [List.append_assoc]; exact separates.ends _) with
            ⟨tokens, scansFirst, holds⟩
          refine ⟨tokens ++ ([token] ++ tokens'),
            scansFirst.append (scansMark.append scansLater), ?_⟩
          exact ⟨tokens :: pieces, .cons isMark separated,
            .cons holds holdsLater⟩

/-- Choose a value for each piece of which something holds with some value. -/
theorem exists_parts
    {α β γ : Type} {Holds : α → β → γ → Prop} {items : List α}
    {pieces : List β}
    (each : List.Forall₂ (fun item piece => ∃ value, Holds item piece value)
      items pieces) :
    ∃ parts : List (β × γ), parts.map (·.1) = pieces ∧
      List.Forall₂ (fun item part => Holds item part.1 part.2) items
        parts := by
  induction each with
  | nil => exact ⟨[], rfl, .nil⟩
  | @cons item piece items pieces first _ ih =>
      rcases first with ⟨value, holds⟩
      rcases ih with ⟨parts, rfl, others⟩
      exact ⟨(piece, value) :: parts, rfl, .cons holds others⟩

/-- What holds of all pairs of related items holds of the items on one side. -/
theorem forall_mem_of_forall₂
    {α β : Type} {Related : α → β → Prop} {Holds : β → Prop}
    {items : List α} {others : List β}
    (each : List.Forall₂ Related items others)
    (implies : ∀ item other, Related item other → Holds other) :
    ∀ other ∈ others, Holds other := by
  induction each with
  | nil => simp
  | cons related _ ih =>
      exact List.forall_mem_cons.mpr ⟨implies _ _ related, ih⟩

/-- Related items keep any relation that follows for the items of a list. -/
theorem forall₂_of_mem
    {α β : Type} {Related Related' : α → β → Prop} {items : List α}
    {others : List β} (each : List.Forall₂ Related items others)
    (implies : ∀ item other, item ∈ items → Related item other →
      Related' item other) :
    List.Forall₂ Related' items others := by
  induction each with
  | nil => exact .nil
  | @cons item other items others related _ ih =>
      refine .cons (implies item other List.mem_cons_self related) ?_
      apply ih
      intro item' other' isIn
      exact implies item' other' (List.mem_cons_of_mem _ isIn)

theorem map_eq_of_forall₂
    {α β γ : Type} {Related : α → β → Prop} {first : α → γ}
    {second : β → γ} {items : List α} {others : List β}
    (each : List.Forall₂ Related items others)
    (same : ∀ item other, Related item other →
      first item = second other) :
    items.map first = others.map second := by
  induction each with
  | nil => rfl
  | cons related _ ih =>
      rw [List.map_cons, List.map_cons, ih, same _ _ related]

/-! ## Texts of types -/

namespace Scope

/-- A name with a number of type arguments stands for a type, wherever it is written. -/
def Finds
    (scope : Scope) (qualifier : Option String) (name : String)
    (arguments : List GoType) (type : GoType) : Prop :=
  ∀ (owner : Option Identifier) (identifier : Identifier) (span : Span),
    owner.map (·.name) = qualifier → identifier.name = name →
      (do
        let resolved ←
          scope.resolve owner identifier arguments.length span
        resolved arguments) = .ok type

/-- What a type inside a type is written with stands for it, under the names that a qualifier
gives to packages. -/
def ReadsBack (scope : Scope) (qualify : Qualifier) : GoType → Prop
  | .basic .unsafePointer =>
    scope.Finds (some "unsafe") "Pointer" [] (.basic .unsafePointer)
  | .basic type => scope.Finds none type.name [] (.basic type)
  | .named reference =>
    scope.Finds (qualify reference) reference.name reference.arguments
      (.named reference)
  | _ => True

/-- What is read back in a scope is so in one where names stand for what they stand for there. -/
theorem ReadsBack.mono
    {scope scope' : Scope} {qualify : Qualifier} {node : GoType}
    (readsBack : scope.ReadsBack qualify node)
    (finds : ∀ qualifier name arguments type,
      scope.Finds qualifier name arguments type →
        scope'.Finds qualifier name arguments type) :
    scope'.ReadsBack qualify node := by
  cases node with
  | basic type =>
      cases type with
      | _ => exact finds _ _ _ _ readsBack
  | named reference => exact finds _ _ _ _ readsBack
  | _ => trivial

/-- All types inside some types are read back. -/
def ReadsAll
    (scope : Scope) (qualify : Qualifier) (nodes : List GoType) : Prop :=
  ∀ node ∈ nodes, scope.ReadsBack qualify node

@[simp]
theorem readsAll_nil {scope : Scope} {qualify : Qualifier} :
    scope.ReadsAll qualify [] := by
  simp [ReadsAll]

@[simp]
theorem readsAll_cons
    {scope : Scope} {qualify : Qualifier} {node : GoType}
    {nodes : List GoType} :
    scope.ReadsAll qualify (node :: nodes) ↔
      scope.ReadsBack qualify node ∧ scope.ReadsAll qualify nodes :=
  List.forall_mem_cons

@[simp]
theorem readsAll_append
    {scope : Scope} {qualify : Qualifier} {nodes others : List GoType} :
    scope.ReadsAll qualify (nodes ++ others) ↔
      scope.ReadsAll qualify nodes ∧ scope.ReadsAll qualify others :=
  List.forall_mem_append

end Scope

/-- An expression denotes a type wherever all names of the type are read back. -/
def Denotes
    (qualify : Qualifier) (expression : TypeExpr) (type : GoType) : Prop :=
  ∀ scope : Scope, scope.ReadsAll qualify type.nodes →
    expression.denote scope = .ok type

/-- The names that a qualifier gives to the packages of some types are names. -/
def QualifiesBy (qualify : Qualifier) (nodes : List GoType) : Prop :=
  ∀ reference, .named reference ∈ nodes →
    ∀ name, qualify reference = some name → IsName name

theorem QualifiesBy.subset
    {qualify : Qualifier} {nodes others : List GoType}
    (qualifies : QualifiesBy qualify nodes) (subset : others ⊆ nodes) :
    QualifiesBy qualify others := by
  intro reference isIn
  exact qualifies reference (subset isIn)

/-- What the tokens of a type form: an expression that denotes it, with a name or the declaration
of an embedded field where the type allows it. -/
structure ReadsAs
    (source : List Char) (qualify : Qualifier) (type : GoType)
    (tokens : List Token) (expression : TypeExpr) : Prop where
  reads : Reader.Reads source tokens (.type expression)
  denotes : Denotes qualify expression type
  named : ∀ name, type.ownName? = some name →
    ∃ last, last.name = name ∧
      Reader.Reads source tokens (.name expression last)
  embeds : ∀ name, EmbeddedAs name type →
    ∀ tagTokens tag, Reader.Tagged tagTokens tag →
      ∃ last, last.name = name ∧
        Reader.Reads source (tokens ++ tagTokens)
          (.fields [⟨last, expression, tag, true⟩])
  noParens : Reader.kind tokens ≠ .symbol .leftParen
  arrow : Reader.kind tokens = .symbol .arrow →
    ∃ element, type = .channel .receive element

/-- The text of a type forms an expression that denotes it. -/
def FormsType (qualify : Qualifier) (type : GoType) : Prop :=
  ∀ source, Forms (type.spell qualify).toList fun tokens =>
    ∃ expression, ReadsAs source qualify type tokens expression

/-- The text of a type forms one that may stand where a type set may. -/
def FormsConstraint (qualify : Qualifier) (type : GoType) : Prop :=
  ∀ source, Forms (type.spell qualify).toList fun tokens =>
    ∃ expression, Reader.Reads source tokens (.constraint expression) ∧
      Denotes qualify expression type

theorem FormsType.constraint
    {qualify : Qualifier} {type : GoType}
    (forms : FormsType qualify type) :
    FormsConstraint qualify type := by
  intro source
  apply (forms source).imp
  rintro tokens ⟨expression, readsAs⟩
  exact ⟨expression, .single readsAs.reads, readsAs.denotes⟩

/-- The text of a function type behind its keyword or its name forms its parameters and results. -/
def FormsSignature (qualify : Qualifier) (signature : Signature) : Prop :=
  ∀ source, Forms (signature.spell qualify).toList fun tokens =>
    ∃ expression, Reader.Reads source tokens (.function expression) ∧
      ∀ scope : Scope, scope.ReadsAll qualify signature.nodes →
        expression.denote scope = .ok signature

end GoUnion
