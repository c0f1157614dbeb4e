import GoUnion.Proofs.Spelling.Functions

/-!
# Spelled structs, interfaces and unions

What stands between braces is a list with semicolons in it.  Nothing can go on
behind a closing brace, so a text that ends with one is scanned in front of any
other text.
-/

namespace GoUnion

open Lexeme (IsName Stops EndsName stops_cons stops_nil isGap)
open Token
open Text (Span byteLength)
open Reader (Reads Separated Enclosed Tagged identifierOf)

variable {source : List Char} {qualify : Qualifier}

/-! ## Lists between braces -/

/-- A text is scanned to tokens of which something holds, in front of any text. -/
structure FormsClosed
    (text : List Char) (Holds : List Token → Prop) : Prop where
  solid : Solid text
  scans : ∀ offset pending rest,
    ∃ tokens, Scans rest offset pending text tokens true ∧ Holds tokens

theorem FormsClosed.forms
    {text : List Char} {Holds : List Token → Prop}
    (forms : FormsClosed text Holds) :
    Forms text Holds :=
  ⟨forms.solid, fun offset pending rest _ =>
    forms.scans offset pending rest⟩

theorem FormsClosed.imp
    {text : List Char} {Holds Holds' : List Token → Prop}
    (forms : FormsClosed text Holds)
    (implies : ∀ tokens, Holds tokens → Holds' tokens) :
    FormsClosed text Holds' := by
  refine ⟨forms.solid, ?_⟩
  intro offset pending rest
  rcases forms.scans offset pending rest with ⟨tokens, scans, holds⟩
  exact ⟨tokens, scans, implies tokens holds⟩

theorem enclosed_of_separated
    {closing : TokenKind} {mark : Token} {pieces : List (List Token)}
    {tokens : List Token}
    (separated : Separated (.symbol .semicolon) false pieces tokens)
    (isClosing : mark.kind = closing) :
    Enclosed closing pieces (tokens ++ [mark]) := by
  have none : Reader.Semicolons [] := by simp [Reader.Semicolons]
  induction separated with
  | last => exact .last none isClosing
  | trailing allowed _ => cases allowed
  | @cons piece mark' pieces tokens isMark _ ih =>
      rw [List.append_assoc, List.cons_append]
      exact .cons none isMark ih

theorem scans_leftBrace {rest : List Char} {offset : Nat}
    {pending : Bool} :
    Scans rest offset pending Symbol.leftBrace.spelling.toList
      [markToken .leftBrace offset] false :=
  scans_mark .leftBrace (by decide) (endsMark_of_closed (by decide) rest)

theorem solid_keyword (word : Keyword) : Solid word.spelling.toList := by
  cases word with
  | _ => exact ⟨_, _, rfl, by decide, by decide⟩

/-- Some texts between braces behind a keyword. -/
theorem forms_braced
    {α : Type} (word : Keyword) (text : α → String)
    {Holds : α → List Token → Prop} {items : List α}
    (forms : ∀ item ∈ items, Forms (text item).toList (Holds item)) :
    FormsClosed
      (Spelling.braced word.spelling (items.map text)).toList
      fun tokens => ∃ opening brace inner pieces,
        tokens = opening :: brace :: inner ∧
          opening.kind = .keyword word ∧
            brace.kind = .symbol .leftBrace ∧
              Enclosed (.symbol .rightBrace) pieces inner ∧
                List.Forall₂ Holds items pieces := by
  have opens (rest : List Char) (offset : Nat) (pending : Bool) :
      Scans rest offset pending
        (word.spelling.toList ++ Symbol.leftBrace.spelling.toList)
        [wordToken word.spelling offset, markToken .leftBrace
          (offset + byteLength word.spelling.toList)] false :=
    (scans_keyword word (stops_cons.mpr (by decide))).append
      scans_leftBrace
  by_cases isEmpty : items = []
  · subst isEmpty
    have same :
        (Spelling.braced word.spelling (([] : List α).map text)).toList =
          (word.spelling.toList ++ Symbol.leftBrace.spelling.toList) ++
            Symbol.rightBrace.spelling.toList := by
      simp [Spelling.braced, Symbol.spelling]
    rw [same]
    refine ⟨((solid_keyword word).append _).append _, ?_⟩
    intro offset pending rest
    refine ⟨_, (opens _ offset pending).append closing_rightBrace.scans,
      _, _, _, [], rfl, wordToken_keyword word offset, rfl,
      .close (by simp [Reader.Semicolons]) rfl, .nil⟩
  · have same :
        (Spelling.braced word.spelling (items.map text)).toList =
          (word.spelling.toList ++ Symbol.leftBrace.spelling.toList) ++
            ([' '] ++ ((Spelling.joined "; " (items.map text)).toList ++
              ([' '] ++ Symbol.rightBrace.spelling.toList))) := by
      simp [Spelling.braced, Symbol.spelling, isEmpty]
    have joined := forms_joined separates_semicolon text isEmpty forms
    rw [same]
    refine ⟨((solid_keyword word).append _).append _, ?_⟩
    intro offset pending rest
    rcases joined.scans
      (offset + byteLength (word.spelling.toList ++
        Symbol.leftBrace.spelling.toList) + byteLength [' ']) false
      ([' '] ++ Symbol.rightBrace.spelling.toList ++ rest)
      (stops_cons.mpr (by decide)) with
      ⟨tokens, scans, pieces, separated, each⟩
    have closing (offset : Nat) :
        Scans rest offset true
          ([' '] ++ Symbol.rightBrace.spelling.toList)
          [markToken .rightBrace (offset + byteLength [' '])] true :=
      (scans_space (stops_cons.mpr (by decide))).append
        closing_rightBrace.scans
    refine ⟨_, (opens _ offset pending).append
      ((scans_space ((joined.solid.append _).append rest).stops).append
        (scans.append (closing _))), _, _, tokens ++ [_], pieces, rfl,
      wordToken_keyword word offset, rfl,
      enclosed_of_separated separated rfl, each⟩

/-! ## Structs -/

theorem solid_tag (text : String) :
    Solid (Spelling.tag text).toList := by
  rw [Spelling.tag]
  split
  case isTrue =>
    rw [String.toList_ofList]
    exact ⟨'"', _, rfl, by decide, by decide⟩
  case isFalse =>
    rw [String.toList_ofList]
    exact ⟨'\x60', _, rfl, by decide, by decide⟩

/-- The text of a type with an optional tag behind it. -/
theorem forms_tagged
    {type : GoType} (type' : FormsType qualify type)
    (tag : Option String) :
    Forms (type.spell qualify ++ Spelling.tagSuffix tag).toList
      fun tokens => ∃ typeTokens tagTokens expression,
        tokens = typeTokens ++ tagTokens ∧
          ReadsAs source qualify type typeTokens expression ∧
            Tagged tagTokens tag := by
  cases tag with
  | none =>
      have same :
          (type.spell qualify ++ Spelling.tagSuffix none).toList =
            (type.spell qualify).toList := by
        simp [Spelling.tagSuffix]
      rw [same]
      apply (type' source).imp
      rintro tokens ⟨expression, readsAs⟩
      exact ⟨tokens, [], expression, (List.append_nil _).symm, readsAs,
        .absent⟩
  | some text =>
      have same :
          (type.spell qualify ++ Spelling.tagSuffix (some text)).toList =
            (type.spell qualify).toList ++
              ([' '] ++ (Spelling.tag text).toList) := by
        simp [Spelling.tagSuffix]
      rw [same]
      refine ⟨(type' source).solid.append _, ?_⟩
      intro offset pending rest _
      rcases (type' source).scans offset pending
        (([' '] ++ (Spelling.tag text).toList) ++ rest)
        (stops_cons.mpr (by decide)) with
        ⟨tokens, scans, expression, readsAs⟩
      have literal :
          ∃ kind, (kind = .string ∨ kind = .rawString) ∧
            Scans rest (offset + byteLength (type.spell qualify).toList +
              byteLength [' ']) true (Spelling.tag text).toList
              [literalToken kind (Spelling.tag text).toList
                (offset + byteLength (type.spell qualify).toList +
                  byteLength [' '])] true :=
        scans_tag text
      rcases literal with ⟨kind, isLiteral, scansTag⟩
      have value :
          Literal.unquote? (literalToken kind (Spelling.tag text).toList
            (offset + byteLength (type.spell qualify).toList +
              byteLength [' '])).text = some text := by
        rw [literalToken, String.ofList_toList]
        exact Literal.unquote?_tag text
      exact ⟨_, scans.append
        ((scans_space ((solid_tag text).append rest).stops).append
          scansTag), tokens, _, expression, rfl, readsAs,
        .present isLiteral value⟩

/-- What the tokens of the declaration of a field form. -/
structure ReadsField
    (source : List Char) (qualify : Qualifier) (field : Field)
    (tokens : List Token) (expression : FieldExpr) : Prop where
  reads : Reads source tokens (.fields [expression])
  name : expression.identifier.name = field.name
  denotes : Denotes qualify expression.type field.type
  tag : expression.tag = field.tag
  embedded : expression.embedded = field.embedded

/-- The text of a field. -/
def fieldText (qualify : Qualifier) (field : Field) : String :=
  (if field.embedded then "" else field.name ++ " ") ++
    field.type.spell qualify ++ Spelling.tagSuffix field.tag

theorem spellFields_eq_map (fields : List Field) :
    spellFields qualify fields = fields.map (fieldText qualify) := by
  induction fields with
  | nil => rfl
  | cons field fields ih =>
      rcases field with ⟨name, type, tag, embedded⟩
      rw [spellFields, ih, List.map_cons]
      rfl

theorem forms_field
    {field : Field} (isName : IsName field.name)
    (type' : FormsType qualify field.type)
    (embeds : field.embedded = true → EmbeddedAs field.name field.type) :
    Forms (fieldText qualify field).toList fun tokens =>
      ∃ expression, ReadsField source qualify field tokens expression := by
  have tagged :
      Forms (field.type.spell qualify ++
        Spelling.tagSuffix field.tag).toList
        fun tokens => ∃ typeTokens tagTokens expression,
          tokens = typeTokens ++ tagTokens ∧
            ReadsAs source qualify field.type typeTokens expression ∧
              Tagged tagTokens field.tag :=
    forms_tagged type' field.tag
  cases isEmbedded : field.embedded with
  | true =>
      have same :
          fieldText qualify field =
            field.type.spell qualify ++ Spelling.tagSuffix field.tag := by
        simp [fieldText, isEmbedded]
      rw [same]
      apply tagged.imp
      rintro _ ⟨typeTokens, tagTokens, expression, rfl, readsAs, tagged⟩
      rcases readsAs.embeds field.name (embeds isEmbedded) tagTokens
        field.tag tagged with ⟨last, isLast, reads⟩
      exact ⟨⟨last, expression, field.tag, true⟩, reads, isLast,
        readsAs.denotes, rfl, isEmbedded.symm⟩
  | false =>
      have same :
          (fieldText qualify field).toList =
            (field.name.toList ++ [' ']) ++
              (field.type.spell qualify ++
                Spelling.tagSuffix field.tag).toList := by
        simp [fieldText, isEmbedded]
      rw [same]
      apply (tagged.behind _
        (fun offset => [wordToken field.name offset])
        ((solid_name isName).append _)
        fun offset pending rest solid => ⟨true,
          (scans_name isName (stops_cons.mpr (by decide))).append
            (scans_space solid.stops)⟩).imp
      rintro _ ⟨offset, _, rfl, typeTokens, tagTokens, expression, rfl,
        readsAs, tagged⟩
      exact ⟨⟨identifierOf (wordToken field.name offset), expression,
          field.tag, false⟩,
        .namedFields (.one (wordToken_kind isName offset)) readsAs.reads
          tagged,
        rfl, readsAs.denotes, rfl, isEmbedded.symm⟩

theorem denoteFields_of_forall₂
    {scope : Scope} {fields : List Field}
    {parts : List (List Token × FieldExpr)}
    (each : List.Forall₂ (fun field part =>
      ReadsField source qualify field part.1 part.2) fields parts)
    (readsAll : scope.ReadsAll qualify (fieldNodes fields)) :
    denoteFields scope (parts.map (·.2)) = .ok fields := by
  induction each with
  | nil => rfl
  | @cons field part fields parts reads _ ih =>
      rcases field with ⟨name, type, tag, embedded⟩
      rcases part with ⟨tokens, identifier, expression, tag', embedded'⟩
      have sameName : identifier.name = name := reads.name
      have sameTag : tag' = tag := reads.tag
      have sameEmbedded : embedded' = embedded := reads.embedded
      rw [fieldNodes, Scope.readsAll_append] at readsAll
      rw [List.map_cons, denoteFields, reads.denotes scope readsAll.1,
        Reader.ok_bind, ih readsAll.2, sameName, sameTag, sameEmbedded]
      rfl

theorem flatten_map_singleton
    {α β : Type} (items : List α) (value : α → β) :
    (items.map fun item => [value item]).flatten = items.map value := by
  induction items with
  | nil => rfl
  | cons item items ih =>
      rw [List.map_cons, List.flatten_cons, ih, List.map_cons]
      rfl

/-- The text of a struct forms one that declares its fields, in front of any text. -/
theorem forms_fields
    {fields : List Field}
    (names : ∀ field ∈ fields, IsName field.name)
    (inner : ∀ field ∈ fields, FormsType qualify field.type)
    (embedded : ∀ field ∈ fields,
      field.embedded = true → EmbeddedAs field.name field.type)
    (source : List Char) :
    FormsClosed ((GoType.record fields).spell qualify).toList
      fun tokens => ∃ span expressions,
        Reader.kind tokens = .keyword .struct ∧
          Reads source tokens (.type (.record span expressions)) ∧
            ∀ scope : Scope, scope.ReadsAll qualify (fieldNodes fields) →
              denoteFields scope expressions = .ok fields := by
  have each : ∀ field ∈ fields,
      Forms (fieldText qualify field).toList fun tokens =>
        ∃ expression,
          ReadsField source qualify field tokens expression := by
    intro field isIn
    exact forms_field (names field isIn) (inner field isIn)
      (embedded field isIn)
  rw [GoType.spell, spellFields_eq_map]
  apply (forms_braced .struct (fieldText qualify) each).imp
  rintro _ ⟨opening, brace, tokens, pieces, rfl, isStruct, opens, enclosed,
    found⟩
  rcases exists_parts found with ⟨parts, rfl, each⟩
  have reads :
      Reads source (opening :: brace :: tokens)
        (.type (.record
          (Reader.spanTo (opening :: brace :: tokens) [])
            ((parts.map fun part => (part.1, [part.2])).map
              (·.2)).flatten)) := by
    apply Reads.record isStruct opens
    · rw [List.map_map]
      exact enclosed
    · intro part isIn
      rcases List.mem_map.mp isIn with ⟨part', isIn', rfl⟩
      exact forall_mem_of_forall₂ each (fun _ _ reads => reads.reads)
        part' isIn'
  have flat :
      ((parts.map fun part => (part.1, [part.2])).map (·.2)).flatten =
        parts.map (·.2) := by
    rw [List.map_map]
    exact flatten_map_singleton parts (·.2)
  rw [flat] at reads
  exact ⟨_, _, isStruct, reads, fun scope readsAll =>
    denoteFields_of_forall₂ each readsAll⟩

theorem forms_record
    {fields : List Field}
    (names : ∀ field ∈ fields, IsName field.name)
    (inner : ∀ field ∈ fields, FormsType qualify field.type)
    (embedded : ∀ field ∈ fields,
      field.embedded = true → EmbeddedAs field.name field.type) :
    FormsType qualify (.record fields) := by
  intro source
  apply (forms_fields names inner embedded source).forms.imp
  rintro tokens ⟨span, expressions, isStruct, reads, denotes⟩
  refine ⟨_, .other rfl (by simp) reads ?_ ?_ ?_⟩
  · intro scope readsAll
    rw [GoType.nodes, Scope.readsAll_cons] at readsAll
    rw [TypeExpr.denote, denotes scope readsAll.2]
    rfl
  · exact ne_of_eq_of_ne isStruct (by decide)
  · intro isArrow
    exact absurd (isStruct.symm.trans isArrow) (by decide)

/-! ## Interfaces -/

/-- What the tokens of an element of an interface form. -/
structure ReadsMember
    (source : List Char) (tokens : List Token) (expression : MemberExpr)
    (Meaning : MemberExpr → Prop) : Prop where
  reads : Reads source tokens (.member expression)
  meaning : Meaning expression

/-- An element of an interface that is a certain method. -/
def IsMethod
    (qualify : Qualifier) (method : Method) (expression : MemberExpr) :
    Prop :=
  ∃ identifier type, expression = .method identifier type ∧
    identifier.name = method.name ∧
      ∀ scope : Scope, scope.ReadsAll qualify method.signature.nodes →
        type.denote scope = .ok method.signature

/-- An element of an interface that embeds a certain type. -/
def IsEmbed
    (qualify : Qualifier) (type : GoType) (expression : MemberExpr) :
    Prop :=
  ∃ inner, expression = .embed inner ∧ Denotes qualify inner type

/-- The elements of an interface: its methods, then the types that it embeds. -/
def elements (methods : List Method) (embeds : List GoType) :
    List (Method ⊕ GoType) :=
  methods.map .inl ++ embeds.map .inr

/-- The text of an element of an interface. -/
def elementText (qualify : Qualifier) : Method ⊕ GoType → String
  | .inl method => method.name ++ method.signature.spell qualify
  | .inr type => type.spell qualify

/-- What an element of an interface stands for. -/
def IsElement (qualify : Qualifier) :
    Method ⊕ GoType → MemberExpr → Prop
  | .inl method => IsMethod qualify method
  | .inr type => IsEmbed qualify type

theorem spellMethods_eq_map (methods : List Method) :
    spellMethods qualify methods =
      methods.map fun method =>
        method.name ++ method.signature.spell qualify := by
  induction methods with
  | nil => rfl
  | cons method methods ih =>
      rcases method with ⟨name, signature⟩
      rw [spellMethods, ih, List.map_cons]

theorem spell_elements
    (methods : List Method) (embeds : List GoType) :
    spellMethods qualify methods ++ spellTypes qualify embeds =
      (elements methods embeds).map (elementText qualify) := by
  rw [spellMethods_eq_map, spellTypes_eq_map, elements, List.map_append,
    List.map_map, List.map_map]
  rfl

theorem forms_method
    {method : Method} (isName : IsName method.name)
    (signature' : FormsSignature qualify method.signature) :
    Forms (elementText qualify (.inl method)).toList fun tokens =>
      ∃ expression, ReadsMember source tokens expression
        (IsElement qualify (.inl method)) := by
  have same :
      (elementText qualify (.inl method)).toList =
        method.name.toList ++
          (method.signature.spell qualify).toList := by
    simp [elementText]
  rw [same]
  apply ((signature' source).named isName
    (endsName_signature method.signature)).imp
  rintro _ ⟨offset, tokens, rfl, expression, reads, denotes⟩
  exact ⟨_, .method (wordToken_kind isName offset) reads, _, _, rfl, rfl,
    denotes⟩

theorem forms_embed
    {type : GoType} (type' : FormsConstraint qualify type) :
    Forms (elementText qualify (.inr type)).toList fun tokens =>
      ∃ expression, ReadsMember source tokens expression
        (IsElement qualify (.inr type)) := by
  apply (type' source).imp
  rintro tokens ⟨expression, reads, denotes⟩
  exact ⟨_, .embed reads, _, rfl, denotes⟩

theorem denoteMembers_of_forall₂
    {scope : Scope} {methods : List Method} {embeds : List GoType}
    {expressions : List MemberExpr}
    (each : List.Forall₂ (IsElement qualify) (elements methods embeds)
      expressions)
    (readsMethods : scope.ReadsAll qualify (methodNodes methods))
    (readsEmbeds : scope.ReadsAll qualify (typeNodes embeds)) :
    denoteMembers scope expressions = .ok (methods, embeds) := by
  induction methods generalizing expressions with
  | nil =>
      induction embeds generalizing expressions with
      | nil =>
          cases each
          rfl
      | cons type embeds ih =>
          rcases each with _ | ⟨⟨inner, rfl, denotes⟩, each⟩
          rw [typeNodes, Scope.readsAll_append] at readsEmbeds
          rw [denoteMembers, denotes scope readsEmbeds.1, Reader.ok_bind,
            ih readsEmbeds.2 each]
          rfl
  | cons method methods ih =>
      rcases each with
        _ | ⟨⟨identifier, type, rfl, isName, denotes⟩, each⟩
      rcases method with ⟨name, signature⟩
      rw [methodNodes, Scope.readsAll_append] at readsMethods
      have same : identifier.name = name := isName
      rw [denoteMembers, denotes scope readsMethods.1, Reader.ok_bind,
        ih each readsMethods.2, same]
      rfl

theorem forms_interface
    {methods : List Method} {embeds : List GoType}
    (names : ∀ method ∈ methods, IsName method.name)
    (signatures : ∀ method ∈ methods,
      FormsSignature qualify method.signature)
    (inner : ∀ type ∈ embeds, FormsConstraint qualify type) :
    FormsType qualify (.interface methods embeds) := by
  intro source
  have each : ∀ element ∈ elements methods embeds,
      Forms (elementText qualify element).toList fun tokens =>
        ∃ expression, ReadsMember source tokens expression
          (IsElement qualify element) := by
    intro element isIn
    rcases List.mem_append.mp isIn with isMethod | isEmbed
    · rcases List.mem_map.mp isMethod with ⟨method, inMethods, rfl⟩
      exact forms_method (names method inMethods)
        (signatures method inMethods)
    · rcases List.mem_map.mp isEmbed with ⟨type, inEmbeds, rfl⟩
      exact forms_embed (inner type inEmbeds)
  rw [GoType.spell, spell_elements]
  apply (forms_braced .interface (elementText qualify) each).forms.imp
  rintro _ ⟨opening, brace, tokens, pieces, rfl, isInterface, opens,
    enclosed, found⟩
  rcases exists_parts found with ⟨parts, rfl, each⟩
  refine ⟨_, .other rfl (by simp)
    (.interface isInterface opens enclosed
      (forall_mem_of_forall₂ each fun _ _ member => member.reads))
    ?_ ?_ ?_⟩
  · intro scope readsAll
    rw [GoType.nodes, Scope.readsAll_cons, Scope.readsAll_append]
      at readsAll
    have meanings :
        List.Forall₂ (IsElement qualify) (elements methods embeds)
          (parts.map (·.2)) := by
      rw [List.forall₂_map_right_iff]
      exact each.imp fun _ _ member => member.meaning
    rw [TypeExpr.denote,
      denoteMembers_of_forall₂ meanings readsAll.2.1 readsAll.2.2]
    rfl
  · exact ne_of_eq_of_ne isInterface (by decide)
  · intro isArrow
    exact absurd (isInterface.symm.trans isArrow) (by decide)

/-! ## Unions -/

/-- The text of a term of a union. -/
def termText (qualify : Qualifier) (member : UnionMember) : String :=
  (if member.approximate then "~" else "") ++ member.type.spell qualify

theorem spellMembers_eq_map (members : List UnionMember) :
    spellMembers qualify members = members.map (termText qualify) := by
  induction members with
  | nil => rfl
  | cons member members ih =>
      rcases member with ⟨approximate, type⟩
      rw [spellMembers, ih, List.map_cons]
      rfl

/-- What the tokens of a term of a union form. -/
structure ReadsTerm
    (source : List Char) (qualify : Qualifier) (member : UnionMember)
    (tokens : List Token) (expression : TermExpr) : Prop where
  reads : Reads source tokens (.term expression)
  approximate : expression.approximate = member.approximate
  denotes : Denotes qualify expression.type member.type

theorem forms_term
    {member : UnionMember} (type' : FormsType qualify member.type) :
    Forms (termText qualify member).toList fun tokens =>
      ∃ expression, ReadsTerm source qualify member tokens expression := by
  cases isTilde : member.approximate with
  | false =>
      have same :
          termText qualify member = member.type.spell qualify := by
        simp [termText, isTilde]
      rw [same]
      apply (type' source).imp
      rintro tokens ⟨expression, readsAs⟩
      exact ⟨⟨false, expression⟩, .plainTerm readsAs.reads, isTilde.symm,
        readsAs.denotes⟩
  | true =>
      have same :
          (termText qualify member).toList =
            Symbol.tilde.spelling.toList ++
              (member.type.spell qualify).toList := by
        simp [termText, isTilde, Symbol.spelling]
      rw [same]
      apply ((type' source).behind _
        (fun offset => [markToken .tilde offset])
        ⟨'~', [], rfl, by decide, by decide⟩
        fun offset pending rest _ => ⟨_, scans_mark .tilde (by decide)
          (endsMark_of_closed (by decide) rest)⟩).imp
      rintro _ ⟨offset, tokens, rfl, expression, readsAs⟩
      exact ⟨⟨true, expression⟩, .tildeTerm rfl readsAs.reads,
        isTilde.symm, readsAs.denotes⟩

theorem denoteTerms_of_forall₂
    {scope : Scope} {members : List UnionMember}
    {parts : List (List Token × TermExpr)}
    (each : List.Forall₂ (fun member part =>
      ReadsTerm source qualify member part.1 part.2) members parts)
    (readsAll : scope.ReadsAll qualify (memberNodes members)) :
    denoteTerms scope (parts.map (·.2)) = .ok members := by
  induction each with
  | nil => rfl
  | @cons member part members parts reads _ ih =>
      rcases member with ⟨approximate, type⟩
      rcases part with ⟨tokens, approximate', expression⟩
      have same : approximate' = approximate := reads.approximate
      rw [memberNodes, Scope.readsAll_append] at readsAll
      rw [List.map_cons, denoteTerms, reads.denotes scope readsAll.1,
        Reader.ok_bind, ih readsAll.2, same]
      rfl

theorem forms_union
    {members : List UnionMember}
    (inner : ∀ member ∈ members, FormsType qualify member.type)
    (proper : 2 ≤ members.length ∨
      ∃ member, members = [member] ∧ member.approximate = true) :
    FormsConstraint qualify (.union members) := by
  intro source
  have nonempty : members ≠ [] := by
    rintro rfl
    rcases proper with long | ⟨member, isEmpty, -⟩
    · exact absurd long (by decide)
    · cases isEmpty
  rw [GoType.spell, spellMembers_eq_map]
  apply (forms_joined separates_pipe (termText qualify) nonempty
    fun member isIn => forms_term (inner member isIn)).imp
  rintro tokens ⟨pieces, separated, found⟩
  rcases exists_parts found with ⟨parts, rfl, each⟩
  refine ⟨_, .union separated
    (forall_mem_of_forall₂ each fun _ _ term => term.reads) ?_, ?_⟩
  · intro type single
    have length : parts.length = members.length := each.length_eq.symm
    have one : parts.length = 1 := by
      rw [← List.length_map (f := (·.2)), single]
      rfl
    rcases proper with long | ⟨member, rfl, approximate⟩
    · omega
    · rcases each with _ | ⟨term, later⟩
      cases later
      have isPlain := congrArg TermExpr.approximate
        (List.cons.inj single).1
      rw [term.approximate, approximate] at isPlain
      cases isPlain
  · intro scope readsAll
    rw [GoType.nodes, Scope.readsAll_cons] at readsAll
    rw [TypeExpr.denote, denoteTerms_of_forall₂ each readsAll.2]
    rfl

end GoUnion
