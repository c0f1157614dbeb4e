import GoUnion.Proofs.Grammar
import GoUnion.Proofs.Lexing.Splice
import GoUnion.Proofs.Places
import Mathlib.Data.List.Forall2

/-!
# Pieces in another place

Tokens that say the same in another place are cut into the same pieces.  Only
the number of tokens, their kinds and their texts play a part, for the lists of
the grammar as for what the entries of a parameter list stand for.
-/

namespace GoUnion

open Token
open Text (Span)

/-! ## Tokens that say the same -/

namespace Token

variable {token token' : Token} {tokens tokens' front back : List Token}

theorem kind_congr (same : word token = word token') :
    token.kind = token'.kind :=
  congrArg Prod.fst same

theorem text_congr (same : word token = word token') :
    token.text = token'.text :=
  congrArg Prod.snd same

theorem exists_cons_of_words
    (same : words (token :: tokens) = words tokens') :
    ∃ token' rest', tokens' = token' :: rest' ∧
      word token = word token' ∧ words tokens = words rest' := by
  rcases List.map_eq_cons_iff.mp same.symm with
    ⟨token', rest', rfl, first, later⟩
  exact ⟨token', rest', rfl, first.symm, later.symm⟩

theorem exists_append_of_words
    (same : words (front ++ back) = words tokens') :
    ∃ front' back', tokens' = front' ++ back' ∧
      words front = words front' ∧ words back = words back' := by
  rw [words_append] at same
  rcases List.map_eq_append_iff.mp same.symm with
    ⟨front', back', rfl, first, later⟩
  exact ⟨front', back', rfl, first.symm, later.symm⟩

theorem eq_nil_of_words (same : words [] = words tokens') :
    tokens' = [] :=
  List.map_eq_nil_iff.mp same.symm

theorem exists_singleton_of_words
    (same : words [token] = words tokens') :
    ∃ token', tokens' = [token'] ∧ word token = word token' := by
  rcases exists_cons_of_words same with ⟨token', rest', rfl, first, later⟩
  cases eq_nil_of_words later
  exact ⟨token', rfl, first⟩

theorem length_congr (same : words tokens = words tokens') :
    tokens.length = tokens'.length := by
  have counted (tokens : List Token) :
      (words tokens).length = tokens.length :=
    List.length_map word
  rw [← counted tokens, ← counted tokens', same]

end Token

namespace Reader

variable {tokens tokens' : List Token}

theorem kindAt_congr
    (same : words tokens = words tokens') (index : Nat) :
    kindAt index tokens = kindAt index tokens' := by
  have asWords (tokens : List Token) :
      kindAt index tokens =
        (((words tokens)[index]?).map (·.1)).getD .endOfFile := by
    rw [words, List.getElem?_map, Option.map_map]
    rfl
  rw [asWords, asWords, same]

theorem depthAfter_congr
    {token token' : Token} (same : word token = word token')
    (depth : Nat) :
    depthAfter depth token = depthAfter depth token' := by
  simp only [depthAfter, kind_congr same]

theorem nesting_congr
    (same : words tokens = words tokens') (depth : Nat) :
    nesting depth tokens = nesting depth tokens' := by
  induction tokens generalizing tokens' depth with
  | nil =>
      cases eq_nil_of_words same
      rfl
  | cons token tokens ih =>
      rcases exists_cons_of_words same with
        ⟨token', rest', rfl, first, later⟩
      rw [nesting, nesting, List.foldlM_cons, List.foldlM_cons,
        depthAfter_congr first]
      cases depthAfter depth token' with
      | none => rfl
      | some next => exact ih later next

theorem ellipsis?_eq_none_iff :
    ellipsis? tokens = none ↔
      ¬(kind tokens = .symbol .ellipsis ∧
        kindAt 1 tokens = .symbol .rightBracket) := by
  rcases tokens with _ | ⟨first, _ | ⟨second, rest⟩⟩
  · simp [ellipsis?, eat?, take?, kind, kindAt]
  · by_cases areDots : first.kind = .symbol .ellipsis
    · simp [ellipsis?, eat?, take?, kind, kindAt, areDots]
    · simp [ellipsis?, eat?, take?, kind, kindAt, areDots]
  · by_cases areDots : first.kind = .symbol .ellipsis
    · by_cases isBracket : second.kind = .symbol .rightBracket
      · simp [ellipsis?, eat?, take?, kind, kindAt, areDots, isBracket]
      · simp [ellipsis?, eat?, take?, kind, kindAt, areDots, isBracket]
    · simp [ellipsis?, eat?, take?, kind, kindAt, areDots]

theorem lengthOf_congr
    {source : List Char} (source' : List Char) {length : ArrayLength}
    (same : words tokens = words tokens')
    (isLength : lengthOf source tokens = some length) :
    ∃ length', lengthOf source' tokens' = some length' ∧
      length'.unplaced = length.unplaced := by
  rcases tokens with _ | ⟨first, _ | ⟨second, rest⟩⟩
  · cases isLength
  · rcases exists_singleton_of_words same with ⟨first', rfl, sameFirst⟩
    simp only [lengthOf] at isLength ⊢
    rw [← kind_congr sameFirst, ← text_congr sameFirst]
    split at isLength
    case h_1 isNumber =>
      exact ⟨length, isLength, rfl⟩
    case h_2 isName =>
      cases isLength
      exact ⟨_, rfl, rfl⟩
    case h_3 =>
      cases isLength
      exact ⟨_, rfl, rfl⟩
  · rcases exists_cons_of_words same with
      ⟨first', _, rfl, sameFirst, later⟩
    rcases exists_cons_of_words later with
      ⟨second', rest', rfl, sameSecond, last⟩
    cases isLength
    exact ⟨_, rfl, rfl⟩

/-! ## Lists of pieces -/

/-- Two pieces say the same. -/
def SameWords (piece piece' : List Token) : Prop :=
  words piece = words piece'

theorem Semicolons.moved
    (semicolons : Semicolons tokens)
    (same : words tokens = words tokens') :
    Semicolons tokens' := by
  induction tokens generalizing tokens' with
  | nil =>
      cases eq_nil_of_words same
      simp [Semicolons]
  | cons token tokens ih =>
      rcases exists_cons_of_words same with
        ⟨token', rest', rfl, first, later⟩
      rcases List.forall_mem_cons.mp semicolons with ⟨isFirst, others⟩
      exact List.forall_mem_cons.mpr
        ⟨kind_congr first ▸ isFirst, ih others later⟩

theorem Separated.moved
    {separator : TokenKind} {trailing : Bool} {pieces : List (List Token)}
    (separated : Separated separator trailing pieces tokens)
    (same : words tokens = words tokens') :
    ∃ pieces', Separated separator trailing pieces' tokens' ∧
      List.Forall₂ SameWords pieces pieces' := by
  induction separated generalizing tokens' with
  | last => exact ⟨[tokens'], .last, .cons same .nil⟩
  | trailing allowed isMark =>
      rcases exists_append_of_words same with
        ⟨piece', _, rfl, first, later⟩
      rcases exists_singleton_of_words later with ⟨mark', rfl, sameMark⟩
      exact ⟨[piece'], .trailing allowed (kind_congr sameMark ▸ isMark),
        .cons first .nil⟩
  | cons isMark _ ih =>
      rcases exists_append_of_words same with
        ⟨piece', _, rfl, first, later⟩
      rcases exists_cons_of_words later with
        ⟨mark', rest', rfl, sameMark, last⟩
      rcases ih last with ⟨pieces', separated', each⟩
      exact ⟨piece' :: pieces',
        .cons (kind_congr sameMark ▸ isMark) separated',
        .cons first each⟩

theorem Enclosed.moved
    {closing : TokenKind} {pieces : List (List Token)}
    (enclosed : Enclosed closing pieces tokens)
    (same : words tokens = words tokens') :
    ∃ pieces', Enclosed closing pieces' tokens' ∧
      List.Forall₂ SameWords pieces pieces' := by
  induction enclosed generalizing tokens' with
  | close leading isClosing =>
      rcases exists_append_of_words same with
        ⟨semicolons', _, rfl, first, later⟩
      rcases exists_singleton_of_words later with ⟨mark', rfl, sameMark⟩
      exact ⟨[], .close (leading.moved first)
        (kind_congr sameMark ▸ isClosing), .nil⟩
  | last leading isClosing =>
      rcases exists_append_of_words same with
        ⟨semicolons', _, rfl, first, later⟩
      rcases exists_append_of_words later with
        ⟨piece', _, rfl, second, later⟩
      rcases exists_singleton_of_words later with ⟨mark', rfl, sameMark⟩
      exact ⟨[piece'], .last (leading.moved first)
        (kind_congr sameMark ▸ isClosing), .cons second .nil⟩
  | cons leading isMark _ ih =>
      rcases exists_append_of_words same with
        ⟨semicolons', _, rfl, first, later⟩
      rcases exists_append_of_words later with
        ⟨piece', _, rfl, second, later⟩
      rcases exists_cons_of_words later with
        ⟨mark', rest', rfl, sameMark, last⟩
      rcases ih last with ⟨pieces', enclosed', each⟩
      exact ⟨piece' :: pieces', .cons (leading.moved first)
        (kind_congr sameMark ▸ isMark) enclosed', .cons second each⟩

theorem identifierOf_moved
    {token token' : Token} (same : word token = word token') :
    (identifierOf token').unplaced = (identifierOf token).unplaced := by
  rw [Identifier.unplaced, Identifier.unplaced]
  show Identifier.mk token'.text default = ⟨token.text, default⟩
  rw [text_congr same]

theorem Names.moved
    {names : List Identifier} (areNames : Names tokens names)
    (same : words tokens = words tokens') :
    ∃ names', Names tokens' names' ∧
      names'.map (·.unplaced) = names.map (·.unplaced) := by
  induction areNames generalizing tokens' with
  | one isName =>
      rcases exists_singleton_of_words same with ⟨name', rfl, sameName⟩
      refine ⟨[identifierOf name'],
        .one (kind_congr sameName ▸ isName), ?_⟩
      rw [List.map_singleton, List.map_singleton,
        identifierOf_moved sameName]
  | more isName isComma _ ih =>
      rcases exists_cons_of_words same with
        ⟨name', _, rfl, sameName, later⟩
      rcases exists_cons_of_words later with
        ⟨comma', rest', rfl, sameComma, last⟩
      rcases ih last with ⟨names', areNames', sameNames⟩
      refine ⟨identifierOf name' :: names',
        .more (kind_congr sameName ▸ isName)
          (kind_congr sameComma ▸ isComma) areNames', ?_⟩
      rw [List.map_cons, List.map_cons, identifierOf_moved sameName,
        sameNames]

theorem Tagged.moved
    {tag : Option String} (tagged : Tagged tokens tag)
    (same : words tokens = words tokens') :
    Tagged tokens' tag := by
  cases tagged with
  | absent =>
      cases eq_nil_of_words same
      exact .absent
  | present isLiteral value =>
      rcases exists_singleton_of_words same with
        ⟨literal', rfl, sameLiteral⟩
      refine .present ?_ ?_
      · rw [← kind_congr sameLiteral]
        exact isLiteral
      · rw [← text_congr sameLiteral]
        exact value

theorem LengthTokens.moved
    {source : List Char} (source' : List Char) {length : ArrayLength}
    (isLength : LengthTokens source tokens length)
    (same : words tokens = words tokens') :
    ∃ length', LengthTokens source' tokens' length' ∧
      length'.unplaced = length.unplaced := by
  cases isLength with
  | ellipsis areDots isClosing =>
      rcases exists_cons_of_words same with
        ⟨dots', _, rfl, sameDots, later⟩
      rcases exists_singleton_of_words later with
        ⟨closing', rfl, sameClosing⟩
      exact ⟨_, .ellipsis (kind_congr sameDots ▸ areDots)
        (kind_congr sameClosing ▸ isClosing), rfl⟩
  | inside noEllipsis balanced isClosing isLength =>
      rcases exists_append_of_words same with
        ⟨inside', _, rfl, sameInside, later⟩
      rcases exists_singleton_of_words later with
        ⟨closing', rfl, sameClosing⟩
      rcases lengthOf_congr source' sameInside isLength with
        ⟨length', isLength', sameLength⟩
      refine ⟨length', .inside ?_ ?_ ?_ isLength', sameLength⟩
      · rw [ellipsis?_eq_none_iff] at noEllipsis ⊢
        rw [kind, ← kindAt_congr same, ← kindAt_congr same]
        exact noEllipsis
      · rw [← nesting_congr sameInside]
        exact balanced
      · rw [closes, ← kind_congr sameClosing]
        exact isClosing

/-! ## Parameters -/

/-- An entry of a parameter list without its places. -/
def ParameterEntry.unplaced : ParameterEntry → ParameterEntry
  | .bare identifier => .bare identifier.unplaced
  | .named identifier type variadic =>
    .named identifier.unplaced type.unplaced variadic
  | .unnamed type variadic => .unnamed type.unplaced variadic

/-- Two entries that differ in their places only. -/
def SameEntry (entry entry' : ParameterEntry) : Prop :=
  entry'.unplaced = entry.unplaced

theorem SameEntry.isVariadic
    {entry entry' : ParameterEntry} (same : SameEntry entry entry') :
    entry'.isVariadic = entry.isVariadic := by
  have kept (entry : ParameterEntry) :
      entry.unplaced.isVariadic = entry.isVariadic := by
    cases entry with
    | bare => rfl
    | named => rfl
    | unnamed => rfl
  rw [← kept entry, ← kept entry', same]

theorem SameEntry.isNamed
    {entry entry' : ParameterEntry} (same : SameEntry entry entry') :
    entry'.isNamed = entry.isNamed := by
  have kept (entry : ParameterEntry) :
      entry.unplaced.isNamed = entry.isNamed := by
    cases entry with
    | bare => rfl
    | named => rfl
    | unnamed => rfl
  rw [← kept entry, ← kept entry', same]

theorem SameEntry.withoutName
    {entry entry' : ParameterEntry} (same : SameEntry entry entry') :
    entry'.withoutName.unplaced = entry.withoutName.unplaced := by
  cases entry with
  | bare identifier =>
      cases entry' with
      | bare identifier' =>
          have sameIdentifier := ParameterEntry.bare.inj same
          rw [ParameterEntry.withoutName, ParameterEntry.withoutName,
            ParameterExpr.unplaced, ParameterExpr.unplaced,
            TypeExpr.unplaced, TypeExpr.unplaced, sameIdentifier]
      | named | unnamed => cases same
  | named identifier type spread =>
      cases entry' with
      | named identifier' type' spread' =>
          rcases ParameterEntry.named.inj same with ⟨-, sameType, -⟩
          exact congrArg (ParameterExpr.mk none) sameType
      | bare | unnamed => cases same
  | unnamed type spread =>
      cases entry' with
      | unnamed type' spread' =>
          rcases ParameterEntry.unnamed.inj same with ⟨sameType, -⟩
          exact congrArg (ParameterExpr.mk none) sameType
      | bare | named => cases same

theorem any_isNamed_moved
    {entries entries' : List ParameterEntry}
    (same : List.Forall₂ SameEntry entries entries') :
    entries'.any (·.isNamed) = entries.any (·.isNamed) := by
  induction same with
  | nil => rfl
  | cons first _ ih =>
      rw [List.any_cons, List.any_cons, first.isNamed, ih]

theorem findIdx?_isVariadic_moved
    {entries entries' : List ParameterEntry}
    (same : List.Forall₂ SameEntry entries entries') :
    entries'.findIdx? ParameterEntry.isVariadic =
      entries.findIdx? ParameterEntry.isVariadic := by
  induction same with
  | nil => rfl
  | cons first _ ih =>
      rw [List.findIdx?_cons, List.findIdx?_cons, first.isVariadic, ih]

theorem variadic_moved
    {entries entries' : List ParameterEntry} {allowed variadic : Bool}
    {close : Span} (close' : Span)
    (same : List.Forall₂ SameEntry entries entries')
    (found :
      ParameterEntry.variadic allowed close entries = .ok variadic) :
    ParameterEntry.variadic allowed close' entries' = .ok variadic := by
  rw [ParameterEntry.variadic] at found ⊢
  rw [findIdx?_isVariadic_moved same, ← same.length_eq]
  cases place : entries.findIdx? ParameterEntry.isVariadic with
  | none =>
      rw [place] at found
      exact found
  | some index =>
      rw [place] at found
      dsimp only at found ⊢
      split at found
      case isTrue holds =>
        rw [if_pos holds]
        exact found
      case isFalse => cases found

theorem shareTypes_moved
    {pending pending' : List Identifier}
    {entries entries' : List ParameterEntry} {list : List ParameterExpr}
    {close : Span} (close' : Span)
    (samePending :
      pending'.map (·.unplaced) = pending.map (·.unplaced))
    (same : List.Forall₂ SameEntry entries entries')
    (shared :
      ParameterEntry.shareTypes close pending entries = .ok list) :
    ∃ list', ParameterEntry.shareTypes close' pending' entries' =
        .ok list' ∧
      list'.map (·.unplaced) = list.map (·.unplaced) := by
  induction same generalizing pending pending' list with
  | nil =>
      cases pending with
      | nil =>
          cases List.map_eq_nil_iff.mp samePending
          cases shared
          exact ⟨[], rfl, rfl⟩
      | cons => cases shared
  | @cons entry entry' entries entries' first _ ih =>
      have longer {identifier identifier' : Identifier}
          (sameIdentifier :
            identifier'.unplaced = identifier.unplaced) :
          (pending' ++ [identifier']).map (·.unplaced) =
            (pending ++ [identifier]).map (·.unplaced) := by
        rw [List.map_append, List.map_append, samePending,
          List.map_singleton, List.map_singleton, sameIdentifier]
      cases entry with
      | bare identifier =>
          cases entry' with
          | bare identifier' =>
              have sameIdentifier := ParameterEntry.bare.inj first
              rw [ParameterEntry.shareTypes] at shared ⊢
              exact ih (longer sameIdentifier) shared
          | named | unnamed => cases first
      | named identifier type spread =>
          cases entry' with
          | named identifier' type' spread' =>
              rcases ParameterEntry.named.inj first with
                ⟨sameIdentifier, sameType, -⟩
              rw [ParameterEntry.shareTypes] at shared ⊢
              rcases bind_eq_ok shared with ⟨others, sharedOthers, made⟩
              cases made
              rcases ih rfl sharedOthers with ⟨others', shared', sameOthers⟩
              rw [shared']
              refine ⟨_, rfl, ?_⟩
              have typed (identifiers : List Identifier)
                  (type : TypeExpr) :
                  (identifiers.map fun identifier =>
                      (⟨some identifier, type⟩ : ParameterExpr)).map
                      (·.unplaced) =
                    (identifiers.map (·.unplaced)).map fun identifier =>
                      ⟨some identifier, type.unplaced⟩ := by
                rw [List.map_map, List.map_map]
                rfl
              have appended (front back : List ParameterExpr) :
                  (front ++ back).map (·.unplaced) =
                    front.map (·.unplaced) ++ back.map (·.unplaced) :=
                List.map_append
              rw [appended, appended, typed, typed,
                longer sameIdentifier, sameType, sameOthers]
          | bare | unnamed => cases first
      | unnamed type spread =>
          rw [ParameterEntry.shareTypes] at shared
          cases shared

/-- Entries that differ in their places declare parameters that do. -/
theorem resolve_moved
    {entries entries' : List ParameterEntry} {list : List ParameterExpr}
    {allowed variadic : Bool} {close : Span} (close' : Span)
    (same : List.Forall₂ SameEntry entries entries')
    (resolved :
      ParameterEntry.resolve allowed close entries =
        .ok (list, variadic)) :
    ∃ list', ParameterEntry.resolve allowed close' entries' =
        .ok (list', variadic) ∧
      list'.map (·.unplaced) = list.map (·.unplaced) := by
  rw [ParameterEntry.resolve] at resolved ⊢
  rcases bind_eq_ok resolved with ⟨isVariadic, found, resolved⟩
  rw [variadic_moved close' same found, any_isNamed_moved same]
  split at resolved
  case isTrue named =>
    rcases bind_eq_ok resolved with ⟨shared, sharesTypes, made⟩
    cases made
    rcases shareTypes_moved close' rfl same sharesTypes with
      ⟨list', shares', sameList⟩
    refine ⟨list', ?_, sameList⟩
    rw [ok_bind, if_pos named, shares']
    rfl
  case isFalse named =>
    cases resolved
    refine ⟨entries'.map (·.withoutName), ?_, ?_⟩
    · rw [ok_bind, if_neg named]
      rfl
    · rw [List.map_map, List.map_map]
      have each :
          List.Forall₂ (· = ·) (entries.map (·.withoutName.unplaced))
            (entries'.map (·.withoutName.unplaced)) := by
        rw [List.forall₂_map_left_iff, List.forall₂_map_right_iff]
        exact same.imp fun _ _ first => first.withoutName.symm
      rw [List.forall₂_eq_eq_eq] at each
      exact each.symm

end Reader

end GoUnion
