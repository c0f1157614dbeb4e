import GoUnion.Proofs.Grammar.Lookahead
import GoUnion.Proofs.Spelling

/-!
# Spelled names and elements

The texts of the types that are a name, or that are put together from one or two
types.  Parentheses around the element of a channel keep its arrow from being
read as that of the channel.
-/

namespace GoUnion

open Lexeme (IsName Stops EndsName stops_cons isGap)
open Token
open Text (Span byteLength)
open Reader (Reads Tagged Separated identifierOf)

variable {source : List Char} {qualify : Qualifier}

@[simp]
theorem spellTypes_eq_map (types : List GoType) :
    spellTypes qualify types = types.map (·.spell qualify) := by
  induction types with
  | nil => rfl
  | cons type types ih => rw [spellTypes, ih, List.map_cons]

/-- A list without a separator behind it may have had one. -/
theorem Reader.Separated.trailing'
    {separator : TokenKind} {pieces : List (List Token)}
    {tokens : List Token}
    (separated : Separated separator false pieces tokens) :
    Separated separator true pieces tokens := by
  induction separated with
  | last => exact .last
  | trailing allowed _ => cases allowed
  | cons isMark _ ih => exact .cons isMark ih

/-! ## Names -/

/-- What the tokens of a name form, with the type arguments behind it. -/
def ReadsName
    (source : List Char) (qualify : Qualifier) (name : String)
    (arguments : List GoType) (tokens : List Token) : Prop :=
  ∃ span last expressions, last.name = name ∧
    Reads source tokens (.name (.name span none last expressions) last) ∧
      expressions.length = arguments.length ∧
        ∀ scope : Scope, scope.ReadsAll qualify (typeNodes arguments) →
          denoteAll scope expressions = .ok arguments

theorem denoteAll_of_forall₂
    {types : List GoType} {expressions : List TypeExpr}
    (each : List.Forall₂ (fun type expression =>
      Denotes qualify expression type) types expressions)
    {scope : Scope} (readsAll : scope.ReadsAll qualify (typeNodes types)) :
    denoteAll scope expressions = .ok types := by
  induction each with
  | nil => rfl
  | cons denotes _ ih =>
      rw [typeNodes, Scope.readsAll_append] at readsAll
      rw [denoteAll, denotes scope readsAll.1, ih readsAll.2]
      rfl

theorem scans_leftBracket {rest : List Char} {offset : Nat}
    {pending : Bool} :
    Scans rest offset pending "[".toList [markToken .leftBracket offset]
      false :=
  scans_mark .leftBracket (by decide) (endsMark_of_closed (by decide) rest)

/-- The tokens of a name with a list between brackets, which is left out where it is empty. -/
inductive Listed {α : Type} (name : String)
    (Holds : α → List Token → Prop) : List α → List Token → Prop where
  | none (offset : Nat) :
      Listed name Holds [] [wordToken name offset]
  | some {items : List α} {opening closing : Token}
      {inner : List Token} {pieces : List (List Token)} (offset : Nat)
      (nonempty : items ≠ [])
      (opens : opening.kind = .symbol .leftBracket)
      (closes : closing.kind = .symbol .rightBracket)
      (separated : Separated (.symbol .comma) false pieces inner)
      (found : List.Forall₂ Holds items pieces) :
      Listed name Holds items
        (wordToken name offset :: opening :: (inner ++ [closing]))

/-- The text of a name with some texts between brackets. -/
theorem forms_listed
    {α : Type} {name : String} (isName : IsName name)
    (text : α → String) {Holds : α → List Token → Prop} {items : List α}
    (forms : ∀ item ∈ items, Forms (text item).toList (Holds item)) :
    Forms (name ++ Spelling.bracketed (items.map text)).toList
      (Listed name Holds items) := by
  by_cases isEmpty : items = []
  · subst isEmpty
    have same :
        (name ++ Spelling.bracketed (([] : List α).map text)).toList =
          name.toList := by
      simp [Spelling.bracketed]
    rw [same]
    apply (forms_name isName).imp
    rintro _ ⟨offset, rfl⟩
    exact .none offset
  · have same :
        (name ++ Spelling.bracketed (items.map text)).toList =
          name.toList ++ ("[".toList ++ ((Spelling.joined ", "
            (items.map text)).toList ++
              Symbol.rightBracket.spelling.toList)) := by
      simp [Spelling.bracketed, Symbol.spelling, isEmpty]
    rw [same]
    have joined := forms_joined separates_comma text isEmpty forms
    have enclosed := (joined.closed closing_rightBracket).behind
      "[".toList (fun offset => [markToken .leftBracket offset])
      ⟨'[', [], rfl, by decide, by decide⟩
      fun offset pending rest _ => ⟨false, scans_leftBracket⟩
    apply (enclosed.named isName fun rest =>
      stops_cons.mpr (by decide)).imp
    rintro _ ⟨offset, _, rfl, start, _, rfl, inner, stop, rfl, pieces,
      separated, found⟩
    exact .some offset isEmpty rfl rfl separated found

/-- The text of a name with its type arguments. -/
theorem forms_applied
    {name : String} {arguments : List GoType}
    (isName : IsName name)
    (applied : ∀ argument ∈ arguments, FormsType qualify argument) :
    Forms
      (name ++ Spelling.bracketed (arguments.map (·.spell qualify))).toList
      (ReadsName source qualify name arguments) := by
  apply (forms_listed isName (·.spell qualify)
    fun argument isIn => applied argument isIn source).imp
  intro tokens listed
  cases listed with
  | none offset =>
      exact ⟨_, _, [], rfl, .plainName (wordToken_kind isName offset),
        rfl, fun _ _ => rfl⟩
  | some offset _ opens closes separated found =>
      rcases exists_parts found with ⟨parts, rfl, each⟩
      refine ⟨_, _, parts.map (·.2), rfl,
        .genericName (wordToken_kind isName offset) opens
          separated.trailing' ?_ closes, ?_, ?_⟩
      · exact forall_mem_of_forall₂ each fun _ _ readsAs => readsAs.reads
      · rw [List.length_map, each.length_eq]
      · intro scope readsAll
        apply denoteAll_of_forall₂ _ readsAll
        rw [List.forall₂_map_right_iff]
        exact each.imp fun type part readsAs => readsAs.denotes

/-- What the tokens of a name form, with a qualifier in front of it or not. -/
def ReadsQualified
    (source : List Char) (qualify : Qualifier) (qualifier : Option String)
    (name : String) (arguments : List GoType) (tokens : List Token) :
    Prop :=
  ∃ expression last, last.name = name ∧
    Reads source tokens (.name expression last) ∧
      ∀ (scope : Scope) (type : GoType),
        scope.ReadsAll qualify (typeNodes arguments) →
          scope.Finds qualifier name arguments type →
            expression.denote scope = .ok type

theorem denote_name_of_finds
    {scope : Scope} {span : Span} {owner : Option Identifier}
    {identifier : Identifier} {expressions : List TypeExpr}
    {arguments : List GoType} {type : GoType}
    (applied : denoteAll scope expressions = .ok arguments)
    (length : expressions.length = arguments.length)
    (finds : scope.Finds (owner.map (·.name)) identifier.name arguments
      type) :
    (TypeExpr.name span owner identifier expressions).denote scope =
      .ok type := by
  rw [← finds owner identifier span rfl rfl, TypeExpr.denote, length,
    applied]
  rfl

theorem forms_qualified
    {qualifier : Option String} {name : String} {arguments : List GoType}
    (isName : IsName name)
    (isQualifier : ∀ word, qualifier = some word → IsName word)
    (applied : ∀ argument ∈ arguments, FormsType qualify argument) :
    Forms
      (Spelling.qualification qualifier ++ name ++
        Spelling.bracketed (arguments.map (·.spell qualify))).toList
      (ReadsQualified source qualify qualifier name arguments) := by
  have forms :
      Forms
        (name ++ Spelling.bracketed
          (arguments.map (·.spell qualify))).toList
        (ReadsName source qualify name arguments) :=
    forms_applied isName applied
  cases qualifier with
  | none =>
      have same :
          (Spelling.qualification none ++ name ++
            Spelling.bracketed (arguments.map (·.spell qualify))).toList =
              (name ++ Spelling.bracketed
                (arguments.map (·.spell qualify))).toList := by
        simp [Spelling.qualification]
      rw [same]
      apply forms.imp
      rintro tokens ⟨span, last, expressions, rfl, reads, length, denotes⟩
      refine ⟨_, last, rfl, reads, ?_⟩
      intro scope type readsAll finds
      exact denote_name_of_finds (denotes scope readsAll) length finds
  | some word =>
      have isWord := isQualifier word rfl
      have same :
          (Spelling.qualification (some word) ++ name ++
            Spelling.bracketed (arguments.map (·.spell qualify))).toList =
              word.toList ++ (['.'] ++ (name ++ Spelling.bracketed
                (arguments.map (·.spell qualify))).toList) := by
        simp [Spelling.qualification]
      rw [same]
      refine ⟨(solid_name isWord).append _, ?_⟩
      intro offset pending rest ends
      rcases forms.scans (offset + byteLength word.toList +
        byteLength ['.']) false rest ends with
        ⟨tokens, scans, span, last, expressions, same', reads, length,
          denotes⟩
      have point :
          Scans ((name ++ Spelling.bracketed
            (arguments.map (·.spell qualify))).toList ++ rest)
              (offset + byteLength word.toList) true ['.']
                [markToken .dot (offset + byteLength word.toList)]
                  false := by
        rw [String.toList_append, List.append_assoc]
        exact scans_point (stops_isDigit_name isName _)
          (endsMark_name isName .dot _)
      have qualifying :
          Scans (['.'] ++ (name ++ Spelling.bracketed
            (arguments.map (·.spell qualify))).toList ++ rest)
              offset pending word.toList [wordToken word offset] true :=
        scans_name isWord (stops_cons.mpr (by decide))
      refine ⟨[wordToken word offset] ++ ([markToken .dot _] ++ tokens),
        qualifying.append (point.append scans), _, last, same',
        .qualifiedName (wordToken_kind isWord offset) rfl reads, ?_⟩
      intro scope type readsAll finds
      rw [← same'] at finds
      exact denote_name_of_finds (denotes scope readsAll) length finds

/-- What is read as a name is read as a type, and declares an embedded field. -/
theorem ReadsAs.ofName
    {type : GoType} {tokens : List Token} {expression : TypeExpr}
    {last : Identifier}
    (owned : type.ownName? = some last.name)
    (reads : Reads source tokens (.name expression last))
    (denotes : Denotes qualify expression type) :
    ReadsAs source qualify type tokens expression where
  reads := .named reads
  denotes := denotes
  named name isOwn := by
    rw [owned] at isOwn
    exact ⟨last, Option.some.inj isOwn, reads⟩
  embeds name embedded tagTokens tag tagged := by
    rcases embedded with isOwn | ⟨element, rfl, -⟩
    · rw [owned] at isOwn
      exact ⟨last, Option.some.inj isOwn, .embeddedField reads tagged⟩
    · cases owned
  noParens := by
    rw [reads.kind_of_name]
    decide
  arrow isArrow := by
    rw [reads.kind_of_name] at isArrow
    cases isArrow

/-- The text of a reference to a declared type. -/
theorem forms_named
    {reference : NamedType} (isName : IsName reference.name)
    (qualifies : ∀ word, qualify reference = some word → IsName word)
    (applied : ∀ argument ∈ reference.arguments,
      FormsType qualify argument) :
    FormsType qualify (.named reference) := by
  rcases reference with ⟨name, package, underlying, parameters, arguments⟩
  intro source
  rw [spell_named, spellTypes_eq_map]
  apply (forms_qualified isName qualifies applied).imp
  rintro tokens ⟨expression, last, rfl, reads, denotes⟩
  refine ⟨expression, .ofName rfl reads ?_⟩
  intro scope readsAll
  rw [GoType.nodes, Scope.readsAll_cons] at readsAll
  exact denotes scope _ readsAll.2 readsAll.1

theorem forms_basic (type : BasicType) :
    FormsType qualify (.basic type) := by
  intro source
  have forms (qualifier : Option String) (name : String)
      (isName : IsName name)
      (isQualifier : ∀ word, qualifier = some word → IsName word)
      (spelled :
        type.name = Spelling.qualification qualifier ++ name)
      (owned : (GoType.basic type).ownName? = some name)
      (readsBack : ∀ scope : Scope,
        scope.ReadsBack qualify (.basic type) →
          scope.Finds qualifier name [] (.basic type)) :
      Forms ((GoType.basic type).spell qualify).toList fun tokens =>
        ∃ expression,
          ReadsAs source qualify (.basic type) tokens expression := by
    have same :
        (GoType.basic type).spell qualify =
          Spelling.qualification qualifier ++ name ++
            Spelling.bracketed (([] : List GoType).map
              (·.spell qualify)) := by
      rw [GoType.spell, spelled]
      simp [Spelling.bracketed]
    rw [same]
    apply (forms_qualified isName isQualifier (by simp)).imp
    rintro tokens ⟨expression, last, rfl, reads, denotes⟩
    refine ⟨expression, .ofName owned reads ?_⟩
    intro scope readsAll
    rw [GoType.nodes, Scope.readsAll_cons] at readsAll
    exact denotes scope _ (by simp [typeNodes])
      (readsBack scope readsAll.1)
  cases type with
  | unsafePointer =>
      refine forms (some "unsafe") "Pointer" (by decide) ?_ (by decide) rfl fun scope readsBack => readsBack
      rintro word isWord
      cases isWord
      decide
  | _ =>
      exact forms none _ (by decide) (by simp)
        (by simp [Spelling.qualification]) rfl
        fun scope readsBack => readsBack

/-! ## Types with elements -/

/-- What is read as a type that embeds nothing. -/
theorem ReadsAs.other
    {type : GoType} {tokens : List Token} {expression : TypeExpr}
    (noName : type.ownName? = none)
    (noPointer : ∀ element, type ≠ .pointer element)
    (reads : Reads source tokens (.type expression))
    (denotes : Denotes qualify expression type)
    (noParens : Reader.kind tokens ≠ .symbol .leftParen)
    (arrow : Reader.kind tokens = .symbol .arrow →
      ∃ element, type = .channel .receive element) :
    ReadsAs source qualify type tokens expression where
  reads := reads
  denotes := denotes
  named name isOwn := by
    rw [noName] at isOwn
    cases isOwn
  embeds name embedded := by
    rcases embedded with isOwn | ⟨element, isPointer, -⟩
    · rw [noName] at isOwn
      cases isOwn
    · exact absurd isPointer (noPointer element)
  noParens := noParens
  arrow := arrow

variable {type element key value : GoType}

theorem forms_pointer
    (element' : FormsType qualify element) :
    FormsType qualify (.pointer element) := by
  intro source
  rw [GoType.spell, String.toList_append]
  apply ((element' source).behind "*".toList
    (fun offset => [markToken .star offset])
    ⟨'*', [], rfl, by decide, by decide⟩
    fun offset pending rest solid =>
      ⟨_, scans_mark .star (by decide) solid.endsMark_star⟩).imp
  rintro _ ⟨offset, tokens, rfl, expression, readsAs⟩
  refine ⟨.pointer (Reader.spanTo ([markToken .star offset] ++ tokens) [])
    expression, ?_⟩
  have denotes (span : Span) :
      Denotes qualify (.pointer span expression) (.pointer element) := by
    intro scope readsAll
    rw [GoType.nodes, Scope.readsAll_cons] at readsAll
    rw [TypeExpr.denote, readsAs.denotes scope readsAll.2]
    rfl
  exact {
    reads := .pointer rfl readsAs.reads
    denotes := denotes _
    named := by
      intro name isOwn
      cases isOwn
    embeds := by
      rintro name (isOwn | ⟨_, same, isOwn⟩) tagTokens tag tagged
      · cases isOwn
      · cases same
        rcases readsAs.named name isOwn with ⟨last, isLast, reads⟩
        exact ⟨last, isLast, .embeddedPointer rfl reads tagged⟩
    noParens := by
      rintro isParen
      cases isParen
    arrow := by
      rintro isArrow
      cases isArrow }

theorem forms_slice
    (element' : FormsType qualify element) :
    FormsType qualify (.slice element) := by
  intro source
  rw [GoType.spell, String.toList_append]
  apply ((element' source).behind "[]".toList
    (fun offset => [markToken .leftBracket offset,
      markToken .rightBracket (offset + byteLength "[".toList)])
    ⟨'[', [']'], rfl, by decide, by decide⟩
    fun offset pending rest _ =>
      ⟨true, scans_leftBracket.append closing_rightBracket.scans⟩).imp
  rintro _ ⟨offset, tokens, rfl, expression, readsAs⟩
  refine ⟨.slice _ expression, .other rfl (by simp)
    (.slice rfl rfl readsAs.reads) ?_ ?_ ?_⟩
  · intro scope readsAll
    rw [GoType.nodes, Scope.readsAll_cons] at readsAll
    rw [TypeExpr.denote, readsAs.denotes scope readsAll.2]
    rfl
  · rintro isParen
    cases isParen
  · rintro isArrow
    cases isArrow

/-- The tokens of the length of an array. -/
theorem lengthTokens_number
    (source : List Char) (length : UInt64) (offset : Nat) (closing : Token)
    (closes : closing.kind = .symbol .rightBracket) :
    Reader.LengthTokens source
      [literalToken .number (toString length.toNat).toList offset, closing]
      (.literal length) := by
  show Reader.LengthTokens source
    ([literalToken .number (toString length.toNat).toList offset] ++
      [closing]) (.literal length)
  apply Reader.LengthTokens.inside
  · rfl
  · rfl
  · rw [Reader.closes, closes]
    rfl
  · simp only [Reader.lengthOf, literalToken, String.ofList_toList,
      Literal.constant?_toString]

theorem forms_array
    (length : UInt64) (element' : FormsType qualify element) :
    FormsType qualify (.array length element) := by
  intro source
  have same :
      ((GoType.array length element).spell qualify).toList =
        ("[".toList ++ ((toString length.toNat).toList ++ "]".toList)) ++
          (element.spell qualify).toList := by
    simp [GoType.spell]
  have digits : (toString length.toNat).toList = Nat.toDigits 10
      length.toNat := by
    rw [Nat.toString_eq_ofList_toDigits, String.toList_ofList]
  rw [same]
  apply ((element' source).behind _
    (fun offset => [markToken .leftBracket offset,
      literalToken .number (toString length.toNat).toList
        (offset + byteLength "[".toList),
      markToken .rightBracket (offset + byteLength "[".toList +
        byteLength (toString length.toNat).toList)])
    ⟨'[', _, rfl, by decide, by decide⟩
    fun offset pending rest _ => ?_).imp
  · rintro _ ⟨offset, tokens, rfl, expression, readsAs⟩
    refine ⟨.array _ (.literal length) expression, .other rfl (by simp)
      (.array rfl (lengthTokens_number source length _ _ rfl)
        readsAs.reads) ?_ ?_ ?_⟩
    · intro scope readsAll
      rw [GoType.nodes, Scope.readsAll_cons] at readsAll
      rw [TypeExpr.denote, readsAs.denotes scope readsAll.2]
      rfl
    · rintro isParen
      cases isParen
    · rintro isArrow
      cases isArrow
  · have number :
        Scans ("]".toList ++ rest) (offset + byteLength "[".toList) false
          (toString length.toNat).toList
          [literalToken .number (toString length.toNat).toList
            (offset + byteLength "[".toList)] true := by
      rw [digits]
      exact scans_number Nat.toDigits_ne_nil
        Literal.mem_decimals_of_toDigits rest
    exact ⟨true, scans_leftBracket.append
      (number.append closing_rightBracket.scans)⟩

theorem forms_map
    (key' : FormsType qualify key) (value' : FormsType qualify value) :
    FormsType qualify (.map key value) := by
  intro source
  have same :
      ((GoType.map key value).spell qualify).toList =
        (Keyword.map.spelling.toList ++ "[".toList) ++
          ((key.spell qualify).toList ++ ("]".toList ++
            (value.spell qualify).toList)) := by
    simp [GoType.spell, Keyword.spelling]
  rw [same]
  refine ⟨⟨'m', _, rfl, by decide, by decide⟩, ?_⟩
  intro offset pending rest ends
  have word :
      Scans ("[".toList ++ (((key.spell qualify).toList ++ ("]".toList ++
        (value.spell qualify).toList)) ++ rest)) offset pending
          Keyword.map.spelling.toList
          [wordToken Keyword.map.spelling offset] false :=
    scans_keyword .map (stops_cons.mpr (by decide))
  rcases (key' source).scans
    (offset + byteLength (Keyword.map.spelling.toList ++ "[".toList)) false
    (("]".toList ++ (value.spell qualify).toList) ++ rest)
    (stops_cons.mpr (by decide)) with
    ⟨keyTokens, scansKey, keyExpression, readsKey⟩
  rcases (value' source).scans
    (offset + byteLength (Keyword.map.spelling.toList ++ "[".toList) +
      byteLength (key.spell qualify).toList + byteLength "]".toList) true
    rest ends with
    ⟨valueTokens, scansValue, valueExpression, readsValue⟩
  refine ⟨_, (word.append scans_leftBracket).append
    (scansKey.append (closing_rightBracket.scans.append scansValue)), ?_⟩
  refine ⟨_, .other rfl (by simp)
    (.map (wordToken_keyword .map offset) rfl readsKey.reads rfl
      readsValue.reads) ?_ ?_ ?_⟩
  · intro scope readsAll
    rw [GoType.nodes, Scope.readsAll_cons, Scope.readsAll_append]
      at readsAll
    rw [TypeExpr.denote, readsKey.denotes scope readsAll.2.1,
      Reader.ok_bind, readsValue.denotes scope readsAll.2.2]
    rfl
  · intro isParen
    cases isParen
  · intro isArrow
    cases isArrow

/-! ## Channels -/

/-- A type between parentheses. -/
theorem forms_parens
    (element' : FormsType qualify element) (source : List Char) :
    Forms (Symbol.leftParen.spelling.toList ++
        ((element.spell qualify).toList ++
          Symbol.rightParen.spelling.toList))
      fun tokens => ∃ expression,
        Reads source tokens (.type expression) ∧
          Denotes qualify expression element ∧
            Reader.kind tokens = .symbol .leftParen := by
  apply (((element' source).closed closing_rightParen).behind _
    (fun offset => [markToken .leftParen offset])
    ⟨'(', [], rfl, by decide, by decide⟩
    fun offset pending rest _ => ⟨false,
      scans_mark .leftParen (by decide)
        (endsMark_of_closed (by decide) rest)⟩).imp
  rintro _ ⟨offset, _, rfl, tokens, offset', rfl, expression, readsAs⟩
  exact ⟨expression, .parens rfl readsAs.reads rfl, readsAs.denotes, rfl⟩

theorem scans_chan {rest : List Char} {offset : Nat} {pending : Bool}
    (solid : Solid rest) :
    Scans rest offset pending "chan ".toList [wordToken "chan" offset]
      false :=
  (scans_keyword .chan (stops_cons.mpr (by decide))).append
    (scans_space solid.stops)

theorem denotes_channel
    {expression : TypeExpr} (denotes : Denotes qualify expression element)
    (span : Span) (direction : ChannelDirection) :
    Denotes qualify (.channel span direction expression)
      (.channel direction element) := by
  intro scope readsAll
  rw [GoType.nodes, Scope.readsAll_cons] at readsAll
  rw [TypeExpr.denote, denotes scope readsAll.2]
  rfl

theorem forms_both
    (element' : FormsType qualify element) :
    FormsType qualify (.channel .both element) := by
  intro source
  by_cases needed : Spelling.needsParens .both element = true
  · have same :
        ((GoType.channel .both element).spell qualify).toList =
          "chan ".toList ++ (Symbol.leftParen.spelling.toList ++
            ((element.spell qualify).toList ++
              Symbol.rightParen.spelling.toList)) := by
      simp [GoType.spell, Spelling.channelOpening, Spelling.inParens,
        needed, Symbol.spelling]
    rw [same]
    apply ((forms_parens element' source).behind _
      (fun offset => [wordToken Keyword.chan.spelling offset])
      ⟨'c', _, rfl, by decide, by decide⟩
      fun offset pending rest solid => ⟨false, scans_chan solid⟩).imp
    rintro _ ⟨offset, tokens, rfl, expression, reads, denotes, isParen⟩
    refine ⟨_, .other rfl (by simp)
      (.channel (wordToken_keyword .chan offset) ?_ reads)
      (denotes_channel denotes _ _) ?_ ?_⟩
    · exact ne_of_eq_of_ne isParen (by decide)
    · exact ne_of_eq_of_ne (wordToken_keyword .chan offset) (by decide)
    · intro isArrow
      exact absurd ((wordToken_keyword .chan offset).symm.trans isArrow)
        (by decide)
  · have same :
        ((GoType.channel .both element).spell qualify).toList =
          "chan ".toList ++ (element.spell qualify).toList := by
      simp [GoType.spell, Spelling.channelOpening, Spelling.inParens,
        needed]
    rw [same]
    apply ((element' source).behind _
      (fun offset => [wordToken Keyword.chan.spelling offset])
      ⟨'c', _, rfl, by decide, by decide⟩
      fun offset pending rest solid => ⟨false, scans_chan solid⟩).imp
    rintro _ ⟨offset, tokens, rfl, expression, readsAs⟩
    refine ⟨_, .other rfl (by simp)
      (.channel (wordToken_keyword .chan offset) ?_ readsAs.reads)
      (denotes_channel readsAs.denotes _ _) ?_ ?_⟩
    · intro isArrow
      rcases readsAs.arrow isArrow with ⟨inner, rfl⟩
      exact needed rfl
    · exact ne_of_eq_of_ne (wordToken_keyword .chan offset) (by decide)
    · intro isArrow
      exact absurd ((wordToken_keyword .chan offset).symm.trans isArrow)
        (by decide)

theorem forms_send
    (element' : FormsType qualify element) :
    FormsType qualify (.channel .send element) := by
  intro source
  have same :
      ((GoType.channel .send element).spell qualify).toList =
        (Keyword.chan.spelling.toList ++
          (Symbol.arrow.spelling.toList ++ [' '])) ++
            (element.spell qualify).toList := by
    simp [GoType.spell, Spelling.channelOpening, Spelling.inParens,
      Spelling.needsParens, Keyword.spelling, Symbol.spelling]
  rw [same]
  apply ((element' source).behind _
    (fun offset => [wordToken Keyword.chan.spelling offset,
      markToken .arrow
        (offset + byteLength Keyword.chan.spelling.toList)])
    ⟨'c', _, rfl, by decide, by decide⟩
    fun offset pending rest solid => ⟨false,
      (scans_keyword .chan (stops_cons.mpr (by decide))).append
        ((scans_mark .arrow (by decide)
          (endsMark_of_closed (by decide) _)).append
            (scans_space solid.stops))⟩).imp
  rintro _ ⟨offset, tokens, rfl, expression, readsAs⟩
  refine ⟨_, .other rfl (by simp)
    (.sending (wordToken_keyword .chan offset) rfl readsAs.reads)
    (denotes_channel readsAs.denotes _ _) ?_ ?_⟩
  · exact ne_of_eq_of_ne (wordToken_keyword .chan offset) (by decide)
  · intro isArrow
    exact absurd ((wordToken_keyword .chan offset).symm.trans isArrow)
      (by decide)

theorem forms_receive
    (element' : FormsType qualify element) :
    FormsType qualify (.channel .receive element) := by
  intro source
  have same :
      ((GoType.channel .receive element).spell qualify).toList =
        (Symbol.arrow.spelling.toList ++ "chan ".toList) ++
          (element.spell qualify).toList := by
    simp [GoType.spell, Spelling.channelOpening, Spelling.inParens,
      Spelling.needsParens, Symbol.spelling]
  rw [same]
  apply ((element' source).behind _
    (fun offset => [markToken .arrow offset,
      wordToken "chan" (offset + byteLength Symbol.arrow.spelling.toList)])
    ⟨'<', _, rfl, by decide, by decide⟩
    fun offset pending rest solid => ⟨false,
      (scans_mark .arrow (by decide)
        (endsMark_of_closed (by decide) _)).append (scans_chan solid)⟩).imp
  rintro _ ⟨offset, tokens, rfl, expression, readsAs⟩
  refine ⟨_, .other rfl (by simp)
    (.receiving rfl (wordToken_keyword .chan _) readsAs.reads)
    (denotes_channel readsAs.denotes _ _) ?_ ?_⟩
  · intro isParen
    cases isParen
  · intro _
    exact ⟨element, rfl⟩

theorem forms_channel
    (direction : ChannelDirection) (element' : FormsType qualify element) :
    FormsType qualify (.channel direction element) := by
  cases direction with
  | both => exact forms_both element'
  | send => exact forms_send element'
  | receive => exact forms_receive element'

end GoUnion
