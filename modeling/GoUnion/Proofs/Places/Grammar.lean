import GoUnion.Proofs.Places.Pieces

/-!
# Reading tokens in another place

Tokens that say the same in another place form the same phrase, up to places.
The induction follows the grammar: each construct is moved by moving its parts.
-/

namespace GoUnion

open Token
open Text (Span)

namespace Reader

variable {source source' : List Char} {tokens tokens' : List Token}

/-- Whether tokens form a phrase, up to places. -/
def FormsPhrase (source : List Char) (tokens : List Token) :
    Phrase → Prop
  | .type expression =>
    ∃ moved, Reads source tokens (.type moved) ∧
      moved.unplaced = expression.unplaced
  | .name expression last =>
    ∃ moved last', Reads source tokens (.name moved last') ∧
      moved.unplaced = expression.unplaced ∧
      last'.unplaced = last.unplaced
  | .function expression =>
    ∃ moved, Reads source tokens (.function moved) ∧
      moved.unplaced = expression.unplaced
  | .parameters allowed list variadic =>
    ∃ list', Reads source tokens (.parameters allowed list' variadic) ∧
      list'.map (·.unplaced) = list.map (·.unplaced)
  | .entry entry =>
    ∃ moved, Reads source tokens (.entry moved) ∧ SameEntry entry moved
  | .fields list =>
    ∃ list', Reads source tokens (.fields list') ∧
      list'.map (·.unplaced) = list.map (·.unplaced)
  | .member member =>
    ∃ moved, Reads source tokens (.member moved) ∧
      moved.unplaced = member.unplaced
  | .constraint expression =>
    ∃ moved, Reads source tokens (.constraint moved) ∧
      moved.unplaced = expression.unplaced
  | .term term =>
    ∃ moved, Reads source tokens (.term moved) ∧
      moved.unplaced = term.unplaced

/-! ## Shapes of phrases -/

/-- Whether something holds of all tokens that say the same as some tokens. -/
def Anywhere (tokens : List Token) (Holds : List Token → Prop) : Prop :=
  ∀ tokens', words tokens = words tokens' → Holds tokens'

namespace Anywhere

variable {front back : List Token} {token : Token} {form : TokenKind}
  {Holds First : List Token → Prop}

/-- A token in front of other tokens. -/
theorem cons
    (isForm : token.kind = form)
    (behind : ∀ token', token'.kind = form →
      Anywhere tokens fun tokens' => Holds (token' :: tokens')) :
    Anywhere (token :: tokens) Holds := by
  intro tokens' same
  rcases exists_cons_of_words same with ⟨token', rest', rfl, first, later⟩
  exact behind token' (kind_congr first ▸ isForm) rest' later

/-- An identifier in front of other tokens. -/
theorem name
    (isName : token.kind = .identifier)
    (behind : ∀ token', token'.kind = .identifier →
      (identifierOf token').unplaced = (identifierOf token).unplaced →
        Anywhere tokens fun tokens' => Holds (token' :: tokens')) :
    Anywhere (token :: tokens) Holds := by
  intro tokens' same
  rcases exists_cons_of_words same with ⟨token', rest', rfl, first, later⟩
  exact behind token' (kind_congr first ▸ isName)
    (identifierOf_moved first) rest' later

/-- Two parts in a row. -/
theorem append
    (first : Anywhere front First)
    (behind : ∀ front', First front' →
      Anywhere back fun back' => Holds (front' ++ back')) :
    Anywhere (front ++ back) Holds := by
  intro tokens' same
  rcases exists_append_of_words same with
    ⟨front', back', rfl, sameFront, sameBack⟩
  exact behind front' (first front' sameFront) back' sameBack

/-- No tokens. -/
theorem nil (holds : Holds []) : Anywhere [] Holds := by
  intro tokens' same
  cases eq_nil_of_words same
  exact holds

/-- A token between other tokens and the end. -/
theorem last
    (isForm : token.kind = form)
    (holds : ∀ token', token'.kind = form → Holds [token']) :
    Anywhere [token] Holds :=
  .cons isForm fun token' isForm' => .nil (holds token' isForm')

end Anywhere

/-- Pieces that can each be moved can be moved one after the other. -/
theorem exists_moved_parts
    {α : Type} (Item : List Token → α → Prop) (Same : α → α → Prop)
    {parts : List (List Token × α)} {pieces' : List (List Token)}
    (same : List.Forall₂ SameWords (parts.map (·.1)) pieces')
    (each : ∀ part ∈ parts, ∀ tokens', words part.1 = words tokens' →
      ∃ value', Item tokens' value' ∧ Same part.2 value') :
    ∃ parts' : List (List Token × α),
      parts'.map (·.1) = pieces' ∧
      (∀ part ∈ parts', Item part.1 part.2) ∧
      List.Forall₂ Same (parts.map (·.2)) (parts'.map (·.2)) := by
  induction parts generalizing pieces' with
  | nil =>
      cases same
      exact ⟨[], rfl, by simp, .nil⟩
  | cons part parts ih =>
      rcases List.forall₂_cons_left_iff.mp same with
        ⟨piece', rest', samePiece, sameRest, rfl⟩
      rcases each part List.mem_cons_self piece' samePiece with
        ⟨value', item, sameValue⟩
      have later := fun other isIn =>
        each other (List.mem_cons_of_mem part isIn)
      rcases ih sameRest later with ⟨parts', rfl, items, sameValues⟩
      exact ⟨(piece', value') :: parts', rfl,
        List.forall_mem_cons.mpr ⟨item, items⟩,
        .cons sameValue sameValues⟩

/-- A list whose pieces each form something, with a separator between them. -/
theorem Separated.parts_moved
    {α : Type} {Item : List Token → α → Prop} (Same : α → α → Prop)
    {separator : TokenKind} {trailing : Bool}
    {parts : List (List Token × α)}
    (separated :
      Separated separator trailing (parts.map (·.1)) tokens)
    (each : ∀ part ∈ parts, Anywhere part.1 fun tokens' =>
      ∃ value', Item tokens' value' ∧ Same part.2 value') :
    Anywhere tokens fun tokens' =>
      ∃ parts' : List (List Token × α),
        Separated separator trailing (parts'.map (·.1)) tokens' ∧
          (∀ part ∈ parts', Item part.1 part.2) ∧
            List.Forall₂ Same (parts.map (·.2)) (parts'.map (·.2)) := by
  intro tokens' same
  rcases separated.moved same with ⟨pieces', separated', samePieces⟩
  rcases exists_moved_parts Item Same samePieces each with
    ⟨parts', rfl, items, sameValues⟩
  exact ⟨parts', separated', items, sameValues⟩

/-- A list whose pieces each form something, up to a closing token. -/
theorem Enclosed.parts_moved
    {α : Type} {Item : List Token → α → Prop} (Same : α → α → Prop)
    {closing : TokenKind} {parts : List (List Token × α)}
    (enclosed : Enclosed closing (parts.map (·.1)) tokens)
    (each : ∀ part ∈ parts, Anywhere part.1 fun tokens' =>
      ∃ value', Item tokens' value' ∧ Same part.2 value') :
    Anywhere tokens fun tokens' =>
      ∃ parts' : List (List Token × α),
        Enclosed closing (parts'.map (·.1)) tokens' ∧
          (∀ part ∈ parts', Item part.1 part.2) ∧
            List.Forall₂ Same (parts.map (·.2)) (parts'.map (·.2)) := by
  intro tokens' same
  rcases enclosed.moved same with ⟨pieces', enclosed', samePieces⟩
  rcases exists_moved_parts Item Same samePieces each with
    ⟨parts', rfl, items, sameValues⟩
  exact ⟨parts', enclosed', items, sameValues⟩

/-! ## Phrases without their places -/

/-- Values that agree without their places, one by one, agree as lists. -/
theorem map_eq_map_of_forall₂
    {α β : Type} {view : α → β} {values values' : List α}
    (same : List.Forall₂ (fun value value' => view value' = view value)
      values values') :
    values'.map view = values.map view := by
  induction same with
  | nil => rfl
  | cons first _ ih => rw [List.map_cons, List.map_cons, first, ih]

theorem kind_moved (same : words tokens = words tokens') :
    kind tokens' = kind tokens :=
  (kindAt_congr same 0).symm

theorem fieldsOf_moved
    {names names' : List Identifier} {type type' : TypeExpr}
    (sameNames : names'.map (·.unplaced) = names.map (·.unplaced))
    (sameType : type'.unplaced = type.unplaced) (tag : Option String) :
    (fieldsOf names' type' tag).map (·.unplaced) =
      (fieldsOf names type tag).map (·.unplaced) := by
  have made (names : List Identifier) (type : TypeExpr) :
      (fieldsOf names type tag).map (·.unplaced) =
        (names.map (·.unplaced)).map fun identifier =>
          ⟨identifier, type.unplaced, tag, false⟩ := by
    rw [fieldsOf, List.map_map, List.map_map]
    rfl
  rw [made, made, sameNames, sameType]

theorem flatten_moved
    {lists lists' : List (List FieldExpr)}
    (same : List.Forall₂
      (fun list list' =>
        list'.map (·.unplaced) = list.map FieldExpr.unplaced)
      lists lists') :
    lists'.flatten.map (·.unplaced) = lists.flatten.map (·.unplaced) := by
  induction same with
  | nil => rfl
  | cons first _ ih =>
      rw [List.flatten_cons, List.flatten_cons, List.map_append,
        List.map_append, first, ih]

/-- A name without a qualifier is moved to such a name. -/
theorem exists_unqualified
    {moved : TypeExpr} {span : Span} {last last' : Identifier}
    {arguments : List TypeExpr}
    (reads : Reads source tokens (.name moved last'))
    (same : moved.unplaced =
      (TypeExpr.name span none last arguments).unplaced) :
    ∃ span' arguments', moved = .name span' none last' arguments' ∧
      unplacedAll arguments' = unplacedAll arguments := by
  cases reads with
  | plainName isName =>
      rw [TypeExpr.unplaced, TypeExpr.unplaced] at same
      exact ⟨_, _, rfl, (TypeExpr.name.inj same).2.2.2⟩
  | genericName isName opens separated reads closes =>
      rw [TypeExpr.unplaced, TypeExpr.unplaced] at same
      exact ⟨_, _, rfl, (TypeExpr.name.inj same).2.2.2⟩
  | qualifiedName isQualifier isDot reads =>
      rw [TypeExpr.unplaced, TypeExpr.unplaced] at same
      cases (TypeExpr.name.inj same).2.1

/-- Terms that are more than a lone type stay so. -/
theorem proper_moved
    {terms terms' : List TermExpr}
    (same : List.Forall₂
      (fun term term' => term'.unplaced = term.unplaced) terms terms')
    (proper : ∀ type, terms ≠ [⟨false, type⟩]) (type : TypeExpr) :
    terms' ≠ [⟨false, type⟩] := by
  rintro rfl
  rcases List.forall₂_cons_right_iff.mp same with
    ⟨⟨approximate, type'⟩, rest, first, others, rfl⟩
  cases others
  have isPlain : false = approximate := (TermExpr.mk.inj first).1
  subst isPlain
  exact proper type' rfl

/-- Tokens that say the same form the same phrase. -/
theorem Reads.anywhere
    (source' : List Char) {phrase : Phrase}
    (reads : Reads source tokens phrase) :
    Anywhere tokens fun tokens' =>
      FormsPhrase source' tokens' phrase := by
  induction reads with
  | named _ ih =>
      intro tokens' same
      rcases ih tokens' same with ⟨moved, last', reads', sameType, -⟩
      exact ⟨moved, .named reads', sameType⟩
  | parens opens _ closes ih =>
      refine .cons opens fun opening' opens' => .append ih ?_
      rintro inner' ⟨moved, reads', sameType⟩
      exact .last closes fun closing' closes' =>
        ⟨moved, .parens opens' reads' closes', sameType⟩
  | pointer isStar _ ih =>
      refine .cons isStar fun star' isStar' inner' same => ?_
      rcases ih inner' same with ⟨moved, reads', sameType⟩
      refine ⟨_, .pointer isStar' reads', ?_⟩
      rw [TypeExpr.unplaced, TypeExpr.unplaced, sameType]
  | slice opens closes _ ih =>
      refine .cons opens fun opening' opens' =>
        .cons closes fun closing' closes' inner' same => ?_
      rcases ih inner' same with ⟨moved, reads', sameType⟩
      refine ⟨_, .slice opens' closes' reads', ?_⟩
      rw [TypeExpr.unplaced, TypeExpr.unplaced, sameType]
  | array opens isLength _ ih =>
      refine .cons opens fun opening' opens' =>
        .append (fun _ => isLength.moved source') ?_
      rintro lengthTokens' ⟨length', isLength', sameLength⟩ inner' same
      rcases ih inner' same with ⟨moved, reads', sameType⟩
      refine ⟨_, .array opens' isLength' reads', ?_⟩
      rw [TypeExpr.unplaced, TypeExpr.unplaced, sameLength, sameType]
  | map isMap opens _ closes _ ihKey ihValue =>
      refine .cons isMap fun word' isMap' =>
        .cons opens fun opening' opens' => .append ihKey ?_
      rintro keyTokens' ⟨key', readsKey, sameKey⟩
      refine .cons closes fun closing' closes' valueTokens' same => ?_
      rcases ihValue valueTokens' same with
        ⟨value', readsValue, sameValue⟩
      refine ⟨_, .map isMap' opens' readsKey closes' readsValue, ?_⟩
      rw [TypeExpr.unplaced, TypeExpr.unplaced, sameKey, sameValue]
  | channel isChan noArrow _ ih =>
      refine .cons isChan fun word' isChan' inner' same => ?_
      rcases ih inner' same with ⟨moved, reads', sameType⟩
      refine ⟨_,
        .channel isChan' (kind_moved same ▸ noArrow) reads', ?_⟩
      rw [TypeExpr.unplaced, TypeExpr.unplaced, sameType]
  | sending isChan isArrow _ ih =>
      refine .cons isChan fun word' isChan' =>
        .cons isArrow fun arrow' isArrow' inner' same => ?_
      rcases ih inner' same with ⟨moved, reads', sameType⟩
      refine ⟨_, .sending isChan' isArrow' reads', ?_⟩
      rw [TypeExpr.unplaced, TypeExpr.unplaced, sameType]
  | receiving isArrow isChan _ ih =>
      refine .cons isArrow fun arrow' isArrow' =>
        .cons isChan fun word' isChan' inner' same => ?_
      rcases ih inner' same with ⟨moved, reads', sameType⟩
      refine ⟨_, .receiving isArrow' isChan' reads', ?_⟩
      rw [TypeExpr.unplaced, TypeExpr.unplaced, sameType]
  | functionType isFunc _ ih =>
      refine .cons isFunc fun word' isFunc' inner' same => ?_
      rcases ih inner' same with ⟨moved, reads', sameType⟩
      refine ⟨_, .functionType isFunc' reads', ?_⟩
      rw [TypeExpr.unplaced, TypeExpr.unplaced, sameType]
  | record isStruct opens enclosed _ ih =>
      refine .cons isStruct fun word' isStruct' =>
        .cons opens fun opening' opens' inner' same => ?_
      rcases enclosed.parts_moved
          (fun list list' : List FieldExpr =>
            list'.map (·.unplaced) = list.map (·.unplaced))
          ih inner' same with
        ⟨parts', enclosed', reads', sameFields⟩
      refine ⟨_, .record isStruct' opens' enclosed' reads', ?_⟩
      rw [TypeExpr.unplaced, TypeExpr.unplaced, unplacedFields_eq_map,
        unplacedFields_eq_map, flatten_moved sameFields]
  | interface isInterface opens enclosed _ ih =>
      refine .cons isInterface fun word' isInterface' =>
        .cons opens fun opening' opens' inner' same => ?_
      rcases enclosed.parts_moved
          (fun member member' : MemberExpr =>
            member'.unplaced = member.unplaced)
          ih inner' same with
        ⟨parts', enclosed', reads', sameMembers⟩
      refine ⟨_, .interface isInterface' opens' enclosed' reads', ?_⟩
      rw [TypeExpr.unplaced, TypeExpr.unplaced, unplacedMembers_eq_map,
        unplacedMembers_eq_map, map_eq_map_of_forall₂ sameMembers]
  | plainName isName =>
      refine .name isName fun name' isName' sameName => .nil ?_
      refine ⟨_, _, .plainName isName', ?_, sameName⟩
      rw [TypeExpr.unplaced, TypeExpr.unplaced, sameName]
  | genericName isName opens separated _ closes ih =>
      refine .name isName fun name' isName' sameName =>
        .cons opens fun opening' opens' =>
          .append (separated.parts_moved
            (fun type type' : TypeExpr => type'.unplaced = type.unplaced)
            ih) ?_
      rintro inner' ⟨parts', separated', reads', sameArguments⟩
      refine .last closes fun closing' closes' => ?_
      refine ⟨_, _,
        .genericName isName' opens' separated' reads' closes', ?_,
        sameName⟩
      rw [TypeExpr.unplaced, TypeExpr.unplaced, sameName,
        unplacedAll_eq_map, unplacedAll_eq_map,
        map_eq_map_of_forall₂ sameArguments]
  | qualifiedName isQualifier isDot _ ih =>
      refine .name isQualifier fun qualifier' isQualifier' sameQualifier =>
        .cons isDot fun dot' isDot' inner' same => ?_
      rcases ih inner' same with
        ⟨moved, last', reads', sameType, sameLast⟩
      rcases exists_unqualified reads' sameType with
        ⟨span', arguments', rfl, sameArguments⟩
      refine ⟨_, _, .qualifiedName isQualifier' isDot' reads', ?_,
        sameLast⟩
      rw [TypeExpr.unplaced, TypeExpr.unplaced, sameArguments, sameLast,
        Option.map_some, Option.map_some, sameQualifier]
  | procedure _ ih =>
      intro tokens' same
      rcases ih tokens' same with ⟨list', reads', sameList⟩
      refine ⟨_, .procedure reads', ?_⟩
      simp only [FunctionExpr.unplaced, unplacedVariables_eq_map, sameList]
  | oneResult _ noParens _ ih ihResult =>
      refine .append ih ?_
      rintro front' ⟨list', reads', sameList⟩ back' same
      rcases ihResult back' same with ⟨result', readsResult, sameResult⟩
      refine ⟨_,
        .oneResult reads' (kind_moved same ▸ noParens) readsResult, ?_⟩
      rw [FunctionExpr.unplaced, FunctionExpr.unplaced,
        unplacedVariables, unplacedVariables, unplacedVariables_eq_map,
        unplacedVariables_eq_map, sameList, sameResult]
      rfl
  | results _ _ ih ihResults =>
      refine .append ih ?_
      rintro front' ⟨list', reads', sameList⟩ back' same
      rcases ihResults back' same with
        ⟨results', readsResults, sameResults⟩
      refine ⟨_, .results reads' readsResults, ?_⟩
      simp only [FunctionExpr.unplaced, unplacedVariables_eq_map, sameList,
        sameResults]
  | noParameters opens closes =>
      exact .cons opens fun opening' opens' =>
        .last closes fun closing' closes' =>
          ⟨[], .noParameters opens' closes', rfl⟩
  | parameters opens separated _ closes resolved ih =>
      refine .cons opens fun opening' opens' =>
        .append (separated.parts_moved SameEntry ih) ?_
      rintro inner' ⟨parts', separated', reads', sameEntries⟩
      refine .last closes fun closing' closes' => ?_
      rcases resolve_moved closing'.span sameEntries resolved with
        ⟨list', resolved', sameList⟩
      exact ⟨list',
        .parameters opens' separated' reads' closes' resolved', sameList⟩
  | bareEntry isName =>
      exact .name isName fun name' isName' sameName => .nil
        ⟨_, .bareEntry isName', congrArg ParameterEntry.bare sameName⟩
  | unnamedEntry notBare _ ih =>
      intro tokens' same
      rcases ih tokens' same with ⟨moved, reads', sameType⟩
      refine ⟨_, .unnamedEntry (length_congr same ▸ notBare) reads', ?_⟩
      rw [SameEntry, ParameterEntry.unplaced, ParameterEntry.unplaced,
        sameType]
  | spreadEntry areDots _ ih =>
      refine .cons areDots fun dots' areDots' inner' same => ?_
      rcases ih inner' same with ⟨moved, reads', sameType⟩
      refine ⟨_, .spreadEntry areDots' reads', ?_⟩
      rw [SameEntry, ParameterEntry.unplaced, ParameterEntry.unplaced,
        sameType]
  | namedEntry isName _ ih =>
      refine .name isName fun name' isName' sameName inner' same => ?_
      rcases ih inner' same with ⟨moved, reads', sameType⟩
      refine ⟨_, .namedEntry isName' reads', ?_⟩
      rw [SameEntry, ParameterEntry.unplaced, ParameterEntry.unplaced,
        sameType, sameName]
  | namedSpreadEntry isName areDots _ ih =>
      refine .name isName fun name' isName' sameName =>
        .cons areDots fun dots' areDots' inner' same => ?_
      rcases ih inner' same with ⟨moved, reads', sameType⟩
      refine ⟨_, .namedSpreadEntry isName' areDots' reads', ?_⟩
      rw [SameEntry, ParameterEntry.unplaced, ParameterEntry.unplaced,
        sameType, sameName]
  | embeddedField _ tagged ih =>
      refine .append ih ?_
      rintro front' ⟨moved, last', reads', sameType, sameLast⟩ back' same
      refine ⟨_, .embeddedField reads' (tagged.moved same), ?_⟩
      rw [List.map_singleton, List.map_singleton, FieldExpr.unplaced,
        FieldExpr.unplaced, sameType, sameLast]
  | embeddedPointer isStar _ tagged ih =>
      refine .cons isStar fun star' isStar' => .append ih ?_
      rintro front' ⟨moved, last', reads', sameType, sameLast⟩ back' same
      refine ⟨_, .embeddedPointer isStar' reads' (tagged.moved same), ?_⟩
      rw [List.map_singleton, List.map_singleton, FieldExpr.unplaced,
        FieldExpr.unplaced, TypeExpr.unplaced, TypeExpr.unplaced, sameType,
        sameLast]
  | namedFields areNames _ tagged ih =>
      refine .append (fun _ => areNames.moved) ?_
      rintro nameTokens' ⟨names', areNames', sameNames⟩
      refine .append ih ?_
      rintro front' ⟨moved, reads', sameType⟩ back' same
      exact ⟨_, .namedFields areNames' reads' (tagged.moved same),
        fieldsOf_moved sameNames sameType _⟩
  | method isName _ ih =>
      refine .name isName fun name' isName' sameName inner' same => ?_
      rcases ih inner' same with ⟨moved, reads', sameType⟩
      refine ⟨_, .method isName' reads', ?_⟩
      rw [MemberExpr.unplaced, MemberExpr.unplaced, sameType, sameName]
  | embed _ ih =>
      intro tokens' same
      rcases ih tokens' same with ⟨moved, reads', sameType⟩
      exact ⟨_, .embed reads', congrArg MemberExpr.embed sameType⟩
  | single _ ih =>
      intro tokens' same
      rcases ih tokens' same with ⟨moved, reads', sameType⟩
      exact ⟨moved, .single reads', sameType⟩
  | union separated _ proper ih =>
      intro tokens' same
      rcases separated.parts_moved
          (fun term term' : TermExpr => term'.unplaced = term.unplaced)
          ih tokens' same with
        ⟨parts', separated', reads', sameTerms⟩
      refine ⟨_,
        .union separated' reads' (proper_moved sameTerms proper), ?_⟩
      rw [TypeExpr.unplaced, TypeExpr.unplaced, unplacedTerms_eq_map,
        unplacedTerms_eq_map, map_eq_map_of_forall₂ sameTerms]
  | plainTerm _ ih =>
      intro tokens' same
      rcases ih tokens' same with ⟨moved, reads', sameType⟩
      exact ⟨_, .plainTerm reads', congrArg (TermExpr.mk false) sameType⟩
  | tildeTerm isTilde _ ih =>
      refine .cons isTilde fun tilde' isTilde' inner' same => ?_
      rcases ih inner' same with ⟨moved, reads', sameType⟩
      exact ⟨_, .tildeTerm isTilde' reads',
        congrArg (TermExpr.mk true) sameType⟩

theorem Reads.moved
    (source' : List Char) {phrase : Phrase}
    (reads : Reads source tokens phrase)
    (same : words tokens = words tokens') :
    FormsPhrase source' tokens' phrase :=
  reads.anywhere source' tokens' same

end Reader

end GoUnion
