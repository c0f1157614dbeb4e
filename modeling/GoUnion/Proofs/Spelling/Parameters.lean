import GoUnion.Proofs.FileGrammar.Soundness
import GoUnion.Proofs.Spelling.RoundTrip

/-!
# Written lists of type parameters

A bracket behind the name of a declared type opens type parameters or the length
of an array, and the token behind the first identifier decides which.  Written
lists have the constraint of the first parameter there.  All types but pointers
open with a token that only type parameters have in this place; a star is taken
for a product.
-/

namespace GoUnion

open Lexeme (IsName isWordKind startsName)
open Reader (Reads ReadsParameters kind startsType)
open Token

variable {qualify : Qualifier}

/-! ## First characters -/

/-- Whether the text of a type opens with a star. -/
def GoType.opensWithStar : GoType → Bool
  | .pointer _ => true
  | .union (⟨false, .pointer _⟩ :: _) => true
  | _ => false

/-- The text of a union opens with a star if that of its first member does. -/
theorem GoType.opensWithStar_union
    {member : UnionMember} {others : List UnionMember}
    (star : (GoType.union (member :: others)).opensWithStar = true) :
    member.approximate = false ∧ member.type.opensWithStar = true := by
  rcases member with ⟨approximate, type⟩
  cases approximate with
  | true => cases star
  | false =>
      cases type with
      | pointer => exact ⟨rfl, rfl⟩
      | _ => cases star

/-- A text opens with a character that starts a name or a mark, and with a star or not. -/
def OpensWith (star : Bool) (text : List Char) : Prop :=
  ∃ c tail, text = c :: tail ∧
    (startsName c = true ∨ c ∈ ['*', '[', '<', '~']) ∧
      (c = '*' ↔ star = true)

theorem OpensWith.append
    {star : Bool} {text : List Char} (opens : OpensWith star text)
    (more : List Char) : OpensWith star (text ++ more) := by
  rcases opens with ⟨c, tail, rfl, isStart, isStar⟩
  exact ⟨c, tail ++ more, rfl, isStart, isStar⟩

theorem opensWith_of_startsName
    {c : Char} (starts : startsName c = true) (tail : List Char) :
    OpensWith false (c :: tail) := by
  refine ⟨c, tail, rfl, .inl starts, ?_⟩
  constructor
  · rintro rfl
    revert starts
    decide
  · intro impossible
    cases impossible

theorem opensWith_name {name : String} (isName : IsName name) :
    OpensWith false name.toList := by
  rcases isName.opens with ⟨c, tail, shape, starts⟩
  rw [shape]
  exact opensWith_of_startsName starts tail

theorem opensWith_braced
    {opening : String} (opens : OpensWith false opening.toList)
    (pieces : List String) :
    OpensWith false (Spelling.braced opening pieces).toList := by
  rw [Spelling.braced]
  split
  · rw [String.toList_append]
    exact opens.append _
  · rw [String.append_assoc, String.append_assoc, String.toList_append]
    exact opens.append _

/-- The text of a reference opens with its qualifier or its name. -/
theorem opensWith_named
    {reference : NamedType} (isName : IsName reference.name)
    (qualified : ∀ name, qualify reference = some name → IsName name) :
    OpensWith false (reference.spell qualify).toList := by
  rcases reference with ⟨name, package, underlying, parameters, arguments⟩
  rw [NamedType.spell, String.append_assoc, String.toList_append]
  cases isQualified :
      qualify ⟨name, package, underlying, parameters, arguments⟩ with
  | none =>
      rw [Spelling.qualification, String.toList_append]
      exact (opensWith_name isName).append _
  | some qualifier =>
      rw [Spelling.qualification, String.toList_append]
      exact ((opensWith_name (qualified _ isQualified)).append _).append _

theorem opensWith_basic (type : BasicType) :
    OpensWith false type.name.toList := by
  cases type <;> exact opensWith_of_startsName (by decide) _

theorem opensWith_channel (direction : ChannelDirection) :
    OpensWith false (Spelling.channelOpening direction).toList := by
  cases direction with
  | both | send => exact opensWith_of_startsName (by decide) _
  | receive => exact ⟨'<', _, rfl, .inr (by decide), by decide⟩

theorem WellFormed.opensWith_of_ne
    {inside : Bool} {place : TypePlace} {type : GoType}
    (wellFormed : WellFormed inside place type)
    (noUnion : ∀ members, type ≠ .union members)
    (qualifies : QualifiesBy qualify type.nodes) :
    OpensWith type.opensWithStar (type.spell qualify).toList := by
  have bracket : OpensWith false "[".toList :=
    ⟨'[', [], rfl, .inr (by decide), by decide⟩
  have isMap : OpensWith false "map[".toList :=
    opensWith_of_startsName (by decide) _
  have isFunction : OpensWith false "func".toList :=
    opensWith_of_startsName (by decide) _
  have isRecord : OpensWith false "struct".toList :=
    opensWith_of_startsName (by decide) _
  have isInterface : OpensWith false "interface".toList :=
    opensWith_of_startsName (by decide) _
  cases wellFormed with
  | @basic inside place type =>
      rw [GoType.spell]
      exact opensWith_basic type
  | named isName =>
      rw [GoType.spell]
      exact opensWith_named isName (qualifies _ List.mem_cons_self)
  | pointer =>
      rw [GoType.spell, String.toList_append]
      exact ⟨'*', _, rfl, .inr (by decide), by simp [GoType.opensWithStar]⟩
  | array =>
      rw [GoType.spell, String.append_assoc, String.append_assoc,
        String.toList_append]
      exact bracket.append _
  | slice =>
      rw [GoType.spell, String.toList_append]
      exact bracket.append (']' :: _)
  | map =>
      rw [GoType.spell, String.append_assoc, String.append_assoc,
        String.toList_append]
      exact isMap.append _
  | @channel inside place direction =>
      rw [GoType.spell, String.toList_append]
      exact (opensWith_channel direction).append _
  | function =>
      rw [GoType.spell, String.toList_append]
      exact isFunction.append _
  | record =>
      rw [GoType.spell]
      exact opensWith_braced isRecord _
  | interface =>
      rw [GoType.spell]
      exact opensWith_braced isInterface _
  | union => exact absurd rfl (noUnion _)

/-- The first term of a union opens with a tilde or as its type does. -/
theorem opensWith_member
    {member : UnionMember} {others : List UnionMember}
    (opens : OpensWith member.type.opensWithStar
      (member.type.spell qualify).toList)
    (noUnion : ∀ members, member.type ≠ .union members) :
    OpensWith (GoType.union (member :: others)).opensWithStar
      ((GoType.union (member :: others)).spell qualify).toList := by
  rcases member with ⟨approximate, type⟩
  have sameHead (text : String) (texts : List String) :
      ∃ more, (Spelling.joined " | " (text :: texts)).toList =
        text.toList ++ more := by
    cases texts with
    | nil => exact ⟨[], (List.append_nil _).symm⟩
    | cons second texts => exact ⟨_, toList_joined_cons _ _ _ _⟩
  rw [GoType.spell, spellMembers]
  cases approximate with
  | true =>
      rcases sameHead ("~" ++ type.spell qualify)
        (spellMembers qualify others) with ⟨more, shape⟩
      rw [if_pos rfl, shape, String.toList_append]
      exact ⟨'~', _, rfl, .inr (by decide), by simp [GoType.opensWithStar]⟩
  | false =>
      rcases sameHead ("" ++ type.spell qualify)
        (spellMembers qualify others) with ⟨more, shape⟩
      have sameStar :
          (GoType.union (⟨false, type⟩ :: others)).opensWithStar =
            type.opensWithStar := by
        cases type with
        | union members => exact absurd rfl (noUnion members)
        | _ => rfl
      rw [if_neg Bool.false_ne_true, shape, String.empty_append, sameStar]
      exact opens.append more

/-- The text of a well-formed type opens with a star if and only if the type is a pointer, or a
union of which the first term is one. -/
theorem WellFormed.opensWith
    {inside : Bool} {place : TypePlace} {type : GoType}
    (wellFormed : WellFormed inside place type)
    (qualifies : QualifiesBy qualify type.nodes) :
    OpensWith type.opensWithStar (type.spell qualify).toList := by
  cases type with
  | union members =>
      cases wellFormed with
      | union inner proper =>
          cases members with
          | nil =>
              rcases proper with atLeast | ⟨member, impossible, -⟩
              · cases atLeast
              · cases impossible
          | cons member others =>
              rcases List.forall_mem_cons.mp inner with ⟨first, -⟩
              have noUnion := first.not_union
              rw [GoType.nodes] at qualifies
              refine opensWith_member
                (first.opensWith_of_ne noUnion (qualifies.subset ?_))
                noUnion
              exact List.Subset.trans
                (nodes_subset_memberNodes List.mem_cons_self)
                (List.subset_cons_self _ _)
  | _ => exact wellFormed.opensWith_of_ne (by simp) qualifies

/-! ## First tokens -/

/-- A symbol of the table of delimiters and operators stands there with its spelling. -/
theorem fixed_spelling
    {entry : List Char × TokenKind} (isIn : entry ∈ Lexeme.fixed)
    {mark : Symbol} (isMark : entry.2 = .symbol mark) :
    entry.1 = mark.spelling.toList := by
  rw [Lexeme.fixed, List.mem_append] at isIn
  rcases isIn with isSymbol | isAssignment
  · rcases List.mem_map.mp isSymbol with ⟨other, -, rfl⟩
    cases isMark
    rfl
  · rcases List.mem_map.mp isAssignment with ⟨text, -, rfl⟩
    cases isMark

theorem fixed_nonempty : ∀ entry ∈ Lexeme.fixed, entry.1 ≠ [] := by
  decide

/-- Only a product and an assignment open with a star. -/
theorem fixed_star :
    ∀ entry ∈ Lexeme.fixed, entry.1.head? = some '*' →
      entry.2 = .symbol .star ∨ entry.2 = .assignment := by
  decide

section Tokens

variable {c : Char} {text rest : List Char} {offset : Nat}
  {pending final : Bool} {tokens : List Token}

/-- What opens like a name is scanned to a word first. -/
theorem Token.Scans.isWordKind_of_startsName
    (scans : Scans rest offset pending (c :: text) tokens final)
    (starts : startsName c = true) :
    isWordKind (Reader.kind tokens) = true := by
  cases scans with
  | lexeme isHead leaves =>
      rw [Lexeme.atHead_of_startsName starts] at isHead
      have isWord := (Lexeme.taken_of_nameAtHead isHead).2
      subst isWord
      cases leaves
      rw [List.singleton_append, Reader.kind_cons, Lexeme.wordKind]
      split
      · rfl
      · rfl

/-- What opens like a mark is scanned to a delimiter or an operator with that character first. -/
theorem Token.Scans.exists_fixed
    (scans : Scans rest offset pending (c :: text) tokens final)
    (opens : opensMark c = true) :
    ∃ entry ∈ Lexeme.fixed, Reader.kind tokens = entry.2 ∧
      entry.1.head? = some c := by
  cases scans with
  | lexeme isHead leaves =>
      rw [atHead_of_opensMark opens, Lexeme.fixedAtHead] at isHead
      split at isHead
      case h_1 entry kind isLongest =>
        rcases Lexeme.longest_eq_some isLongest with ⟨isIn, isPrefix⟩
        rcases Prod.mk.inj isHead with ⟨rfl, -⟩
        cases leaves
        refine ⟨_, isIn, rfl, ?_⟩
        rcases entry with _ | ⟨first, others⟩
        · exact absurd rfl (fixed_nonempty _ isIn)
        · rw [(List.cons_prefix_cons.mp isPrefix).1]
          rfl
      case h_2 =>
        rcases Prod.mk.inj isHead with ⟨rfl, -⟩
        cases leaves

end Tokens

/-- A constraint whose text opens with a star opens with the token of one, and no constraint opens
with a parenthesis. -/
theorem kind_of_constraint
    {star : Bool} {source text rest : List Char} {offset : Nat}
    {pending final : Bool} {tokens : List Token} {expression : TypeExpr}
    (opens : OpensWith star text)
    (scans : Scans rest offset pending text tokens final)
    (reads : Reads source tokens (.constraint expression)) :
    kind tokens ≠ .symbol .leftParen ∧
      (kind tokens = .symbol .star ↔ star = true) := by
  rcases opens with ⟨c, tail, rfl, isStart, isStar⟩
  rw [← isStar]
  rcases isStart with starts | isMark
  · have isWord := scans.isWordKind_of_startsName starts
    have notMark (mark : Symbol) : kind tokens ≠ .symbol mark := by
      intro isMark
      rw [isMark] at isWord
      cases isWord
    have noStar : c ≠ '*' := by
      rintro rfl
      exact absurd starts (by decide)
    exact ⟨notMark .leftParen, fun isMark => absurd isMark (notMark _),
      fun isStar => absurd isStar noStar⟩
  · have opens : opensMark c = true := by
      revert isMark
      simp only [List.mem_cons, List.not_mem_nil, or_false]
      rintro (rfl | rfl | rfl | rfl)
      all_goals decide
    rcases scans.exists_fixed opens with ⟨entry, isIn, isKind, isFirst⟩
    have spelled (mark : Symbol) (isMark : kind tokens = .symbol mark) :
        mark.spelling.toList.head? = some c := by
      rw [← fixed_spelling isIn (isKind.symm.trans isMark), isFirst]
    refine ⟨?_, fun isMark => ?_, ?_⟩
    · intro isParen
      cases spelled .leftParen isParen
      revert isMark
      decide
    · exact (Option.some.inj (spelled .star isMark)).symm
    · rintro rfl
      rcases fixed_star entry isIn isFirst with isStar | isAssignment
      · exact isKind.trans isStar
      · have starts := reads.starts_constraint
        rw [isKind, isAssignment] at starts
        rcases starts with impossible | impossible
        · cases impossible
        · cases impossible

theorem kindAt_two
    {opening name : Token} {tokens rest : List Token}
    (nonempty : tokens ≠ []) :
    Reader.kindAt 2 (opening :: name :: (tokens ++ rest)) =
      kind tokens := by
  rw [Reader.kindAt_succ_cons, Reader.kindAt_succ_cons]
  exact Reader.kind_append tokens rest nonempty

/-- Where a constraint that opens with no parenthesis is the first one, the bracket opens type
parameters unless the constraint opens with a star. -/
theorem opensParameters_of_constraint
    {source : List Char} {opening name : Token} {tokens rest : List Token}
    {expression : TypeExpr}
    (opens : opening.kind = .symbol .leftBracket)
    (isName : name.kind = .identifier)
    (reads : Reads source tokens (.constraint expression))
    (noParens : kind tokens ≠ .symbol .leftParen) :
    Reader.opensParameters (opening :: name :: (tokens ++ rest)) = true ↔
      kind tokens ≠ .symbol .star := by
  have third := @kindAt_two opening name tokens rest reads.ne_nil
  have second :
      Reader.kindAt 1 (opening :: name :: (tokens ++ rest)) =
        .identifier := isName
  have starts := reads.starts_constraint
  rw [Reader.opensParameters, Reader.kind_cons, opens, second, third]
  generalize kind tokens = first at noParens starts
  cases first with
  | symbol mark =>
      cases mark <;> simp_all [startsType]
  | keyword word =>
      cases word <;> simp_all [startsType]
  | _ => simp_all [startsType]

/-! ## Parameters -/

/-- Some tokens form a type parameter: a name and a constraint. -/
def FormsParameter
    (source : List Char) (piece : List Token)
    (expression : TypeParameterExpr) : Prop :=
  ∃ name tokens, piece = name :: tokens ∧ name.kind = .identifier ∧
    expression.identifier = Reader.identifierOf name ∧
      Reads source tokens (.constraint expression.constraint)

theorem FormsParameter.balanced
    {source : List Char} {piece : List Token}
    {expression : TypeParameterExpr}
    (forms : FormsParameter source piece expression) :
    Reader.Balanced piece := by
  rcases forms with ⟨name, tokens, rfl, isName, -, reads⟩
  exact .cons (by simp [Reader.depthAfter, isName]) reads.balanced

theorem Reader.Separated.opens
    {separator : TokenKind} {trailing : Bool} {piece : List Token}
    {pieces : List (List Token)} {tokens : List Token}
    (separated : Separated separator trailing (piece :: pieces) tokens) :
    ∃ rest, tokens = piece ++ rest := by
  cases separated with
  | last => exact ⟨[], (List.append_nil _).symm⟩
  | trailing => exact ⟨_, rfl⟩
  | cons => exact ⟨_, rfl⟩

section Parameters

variable {source : List Char}
  {parts : List (List Token × TypeParameterExpr)} {inner : List Token}
  {closing : Token}
  (separated :
    Reader.Separated (.symbol .comma) false (parts.map (·.1)) inner)
  (each : ∀ part ∈ parts, FormsParameter source part.1 part.2)
  (isClosing : closing.kind = .symbol .rightBracket)

include separated each

/-- A list of type parameters opens with the first one. -/
theorem exists_first_parameter :
    ∃ part ∈ parts, parts.head? = some part ∧
      ∃ rest, inner = part.1 ++ rest := by
  cases parts with
  | nil => cases separated
  | cons part parts =>
      exact ⟨part, List.mem_cons_self, rfl, separated.opens⟩

/-- The list has a token behind the name of the first parameter. -/
theorem parameters_shape :
    ∃ name second others, inner = name :: second :: others := by
  rcases exists_first_parameter separated each with
    ⟨part, isIn, -, rest, rfl⟩
  rcases each part isIn with ⟨name, tokens, isPiece, -, -, reads⟩
  rw [isPiece]
  cases tokens with
  | nil => exact absurd rfl reads.ne_nil
  | cons second others => exact ⟨name, second, others ++ rest, rfl⟩

include isClosing

/-- Type parameters with commas between them are read up to the closing bracket. -/
theorem readsParameters_of_parts :
    ReadsParameters source [] (inner ++ [closing]) (parts.map (·.2)) := by
  induction parts generalizing inner with
  | nil => cases separated
  | cons part parts ih =>
      rcases part with ⟨piece, identifier, constraint⟩
      rcases List.forall_mem_cons.mp each with
        ⟨⟨name, tokens, rfl, isName, rfl, reads⟩, others⟩
      cases parts with
      | nil =>
          cases separated with
          | last => exact .last isName reads isClosing
          | trailing allowed => cases allowed
          | cons _ later => cases later
      | cons second parts =>
          cases separated with
          | cons isMark later =>
              have whole : ReadsParameters source [] _ _ :=
                .constrained isName reads isMark (ih later others)
              simpa using whole

/-- A list of type parameters may be read as the length of an array. -/
theorem lengthTokens_of_parts :
    ∃ words, Reader.LengthTokens source (inner ++ [closing])
      (.expression words) := by
  have balanced : Reader.Balanced inner := by
    refine separated.balanced (fun _ isComma => ?_)
      (Reader.forall_mem_map_fst fun part isIn => (each part isIn).balanced)
    simp [Reader.depthAfter, isComma, Symbol.opens, Symbol.closes]
  rcases exists_first_parameter separated each with
    ⟨part, isIn, -, rest, rfl⟩
  rcases each part isIn with ⟨name, tokens, isPiece, isName, -, reads⟩
  rw [isPiece] at balanced ⊢
  cases tokens with
  | nil => exact absurd rfl reads.ne_nil
  | cons second others =>
      refine ⟨_, .inside ?_ balanced ?_ rfl⟩
      · rw [Reader.ellipsis?, Reader.eat?_of_kind (by simp [isName])]
      · simp [Reader.closes, isClosing, Symbol.closes]

end Parameters

/-! ## The texts of parameters -/

/-- What the tokens of a written parameter form: a parameter of the same name, with a constraint
that denotes the one that was written. -/
structure ReadsParameter
    (source : List Char) (qualify : Qualifier) (parameter : TypeParameter)
    (piece : List Token) (expression : TypeParameterExpr) : Prop where
  forms : FormsParameter source piece expression
  name : expression.identifier.name = parameter.name
  denotes : Denotes qualify expression.constraint parameter.constraint
  noParens : kind piece.tail ≠ .symbol .leftParen
  star : kind piece.tail = .symbol .star ↔
    parameter.constraint.opensWithStar = true

/-- The text of a parameter with a well-formed constraint forms a parameter. -/
theorem forms_parameter
    {parameter : TypeParameter} (isName : IsName parameter.name)
    (wellFormed : WellFormed false .typeSet parameter.constraint)
    (qualifies : QualifiesBy qualify parameter.constraint.nodes)
    (source : List Char) :
    Forms
      (parameter.name ++ " " ++ parameter.constraint.spell qualify).toList
      fun piece => ∃ expression,
        ReadsParameter source qualify parameter piece expression := by
  have same :
      (parameter.name ++ " " ++
          parameter.constraint.spell qualify).toList =
        (parameter.name.toList ++ [' ']) ++
          (parameter.constraint.spell qualify).toList := by
    simp
  have opens := wellFormed.opensWith qualifies
  have forms := (wellFormed.spelledBack qualifies).constraint source
  have headed :
      Forms (parameter.constraint.spell qualify).toList fun tokens =>
        ∃ expression, Reads source tokens (.constraint expression) ∧
          Denotes qualify expression parameter.constraint ∧
            kind tokens ≠ .symbol .leftParen ∧
              (kind tokens = .symbol .star ↔
                parameter.constraint.opensWithStar = true) := by
    refine ⟨forms.solid, ?_⟩
    intro offset pending rest ends
    rcases forms.scans offset pending rest ends with
      ⟨tokens, scans, expression, reads, denotes⟩
    exact ⟨tokens, scans, expression, reads, denotes,
      kind_of_constraint opens scans reads⟩
  rw [same]
  apply (headed.behind _ (fun offset => [wordToken parameter.name offset])
    ((solid_name isName).append _)
    fun offset pending rest solid => ⟨true,
      (scans_name isName (Lexeme.stops_cons.mpr (by decide))).append
        (scans_space solid.stops)⟩).imp
  rintro _ ⟨offset, inner, rfl, expression, reads, denotes, noParens, star⟩
  exact ⟨⟨Reader.identifierOf (wordToken parameter.name offset),
    expression⟩, {
      forms := ⟨_, inner, rfl, wordToken_kind isName offset, rfl, reads⟩
      name := rfl
      denotes := denotes
      noParens := noParens
      star := star }⟩

end GoUnion
