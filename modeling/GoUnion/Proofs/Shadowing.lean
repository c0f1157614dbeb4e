import GoUnion.Proofs.Emission
import GoUnion.Proofs.NamePlan

/-!
# Names that hide other names

Two ways in which a generated file can come to mean something else.

Two references may be written alike.  A foreign reference is qualified, and a
local name of a package has no point in it, so the reference can be read back
from what is written.  The others are written bare, and all the generated file
has of them is their name: a type parameter is then the same as a type of the
destination.

A local name of a method may be that of a package-level declaration which the
method mentions.  The local names avoid the union type, its discriminant, the
local names of packages and everything that is written bare.  The constants of
the states are not among the names that they avoid.
-/

namespace GoUnion

/-! ## Local names of packages -/

theorem Name.not_mem_ofStem (text : List Char) :
    '.' ∉ (Name.ofStem text).toList := by
  have kept {chars : List Char} (notIn : '.' ∉ chars) :
      '.' ∉
        (if Name.isKeyword (String.ofList chars) then
          String.ofList chars ++ "_"
        else String.ofList chars).toList := by
    split
    · simpa using notIn
    · simpa using notIn
  have notIn :
      '.' ∉ text.map fun c => if Name.continuesName c then c else '_' := by
    intro isIn
    rcases List.mem_map.mp isIn with ⟨c, -, isPoint⟩
    split at isPoint
    case isTrue continues =>
      subst isPoint
      exact absurd continues (by decide +kernel)
    case isFalse => cases isPoint
  simp only [Name.ofStem]
  generalize text.map _ = letters at notIn
  cases letters with
  | nil => exact kept (by decide)
  | cons c letters =>
      by_cases isNumeric : Text.isNumeric c = true
      · simp only [isNumeric, if_true]
        exact kept (List.not_mem_cons_of_ne_of_not_mem (by decide) notIn)
      · simp only [isNumeric]
        exact kept notIn

theorem not_mem_numbered
    {base : String} (inBase : '.' ∉ base.toList) (index : Nat) :
    '.' ∉ (numbered base index).toList := by
  cases index with
  | zero => exact inBase
  | succ index =>
      rw [toList_numbered_succ, List.mem_append, not_or]
      refine ⟨inBase, ?_⟩
      intro isIn
      have isDigit := Nat.isDigit_of_mem_toDigits (by decide) (by decide) isIn
      exact absurd isDigit (by decide)

namespace ImportPlan

variable {descriptor : UnionDescriptor} {destination : String}
  {imports : ImportPlan} {first second : NamedType}

/-- The local name of a package has no point in it. -/
theorem not_mem_nameAll
    {taken paths : List String} {path name : String}
    (isIn : (path, name) ∈ nameAll taken paths) :
    '.' ∉ name.toList := by
  induction paths generalizing taken with
  | nil => cases isIn
  | cons first paths ih =>
      rw [nameAll] at isIn
      split at isIn
      case isTrue =>
        rcases List.mem_cons.mp isIn with same | later
        · cases same
          decide
        · exact ih later
      case isFalse =>
        rcases List.mem_cons.mp isIn with same | later
        · cases same
          exact not_mem_numbered (Name.not_mem_ofStem _) _
        · exact ih later

/-! ## References that are written alike -/

/-- A reference that is not foreign is written by its name. -/
theorem render_own
    (own : descriptor.isForeign destination first = false) :
    (Fragment.named first).render (planned descriptor destination) =
      first.name := by
  rw [Fragment.render, qualifier_own own]
  exact String.empty_append

/-- Foreign references that are written alike are the same. -/
theorem eq_of_render_foreign
    (unqualified :
      ∀ reference ∈ descriptor.references, '.' ∉ reference.name.toList)
    (isFirst : first ∈ descriptor.references)
    (isSecond : second ∈ descriptor.references)
    (foreign : descriptor.isForeign destination first = true)
    (foreign' : descriptor.isForeign destination second = true)
    (alike :
      (Fragment.named first).render (planned descriptor destination) =
        (Fragment.named second).render (planned descriptor destination)) :
    first.name = second.name ∧ first.package = second.package := by
  rcases render_foreign isFirst foreign with ⟨name, isIn, render⟩
  rcases render_foreign isSecond foreign' with ⟨name', isIn', render'⟩
  have chars := congrArg String.toList
    (render.symm.trans (alike.trans render'))
  simp only [String.toList_append, List.append_assoc] at chars
  rcases (List.append_cons_inj_of_notMem (not_mem_nameAll isIn)
    (unqualified first isFirst)).mp chars with ⟨sameLocal, -, sameName⟩
  have samePath :=
    List.inj_on_of_nodup_map planned_names_nodup isIn isIn'
      (String.toList_inj.mp sameLocal)
  exact ⟨String.toList_inj.mp sameName, congrArg Prod.fst samePath⟩

/-- A foreign reference is not written like one that is not foreign. -/
theorem render_foreign_ne
    (unqualified :
      ∀ reference ∈ descriptor.references, '.' ∉ reference.name.toList)
    (isFirst : first ∈ descriptor.references)
    (isSecond : second ∈ descriptor.references)
    (foreign : descriptor.isForeign destination first = true)
    (own : descriptor.isForeign destination second = false) :
    (Fragment.named first).render (planned descriptor destination) ≠
      (Fragment.named second).render (planned descriptor destination) := by
  rcases render_foreign isFirst foreign with ⟨name, -, render⟩
  rw [render, render_own own]
  intro alike
  refine unqualified second isSecond (alike ▸ ?_)
  simp

/-- References are written alike exactly if they have the same name, and they are foreign
references into the same package or both not foreign. -/
theorem render_eq_iff
    (unqualified :
      ∀ reference ∈ descriptor.references, '.' ∉ reference.name.toList)
    (isFirst : first ∈ descriptor.references)
    (isSecond : second ∈ descriptor.references) :
    (Fragment.named first).render (planned descriptor destination) =
        (Fragment.named second).render (planned descriptor destination) ↔
      first.name = second.name ∧
        descriptor.isForeign destination first =
          descriptor.isForeign destination second ∧
        (descriptor.isForeign destination first = true →
          first.package = second.package) := by
  cases foreign : descriptor.isForeign destination first with
  | true =>
      cases foreign' : descriptor.isForeign destination second with
      | true =>
          constructor
          · intro alike
            rcases eq_of_render_foreign unqualified isFirst isSecond foreign
              foreign' alike with ⟨name, package⟩
            exact ⟨name, rfl, fun _ => package⟩
          · rintro ⟨name, -, package⟩
            rcases render_foreign isFirst foreign with ⟨_, isIn, render⟩
            rcases render_foreign isSecond foreign' with
              ⟨_, isIn', render'⟩
            rw [render, render', name, planned_local_unique isIn
              (package rfl ▸ isIn')]
      | false =>
          constructor
          · intro alike
            exact absurd alike (render_foreign_ne unqualified isFirst
              isSecond foreign foreign')
          · rintro ⟨-, same, -⟩
            cases same
  | false =>
      cases own : descriptor.isForeign destination second with
      | true =>
          constructor
          · intro alike
            exact absurd alike.symm (render_foreign_ne unqualified isSecond
              isFirst own foreign)
          · rintro ⟨-, same, -⟩
            cases same
      | false =>
          rw [render_own foreign, render_own own]
          exact ⟨fun name => ⟨name, rfl, fun isForeign => by
            cases isForeign⟩, fun alike => alike.1⟩

/--
What is written tells references apart exactly if no two references that are
written bare have the same name in different packages.
-/
theorem collect_tellsApart_iff
    (unqualified :
      ∀ reference ∈ descriptor.references, '.' ∉ reference.name.toList)
    (made : collect descriptor destination = .ok imports) :
    (∀ first ∈ descriptor.references, ∀ second ∈ descriptor.references,
        (Fragment.named first).render imports =
            (Fragment.named second).render imports →
          first.name = second.name ∧ first.package = second.package) ↔
      ∀ first ∈ descriptor.references, ∀ second ∈ descriptor.references,
        descriptor.isForeign destination first = false →
          descriptor.isForeign destination second = false →
            first.name = second.name → first.package = second.package := by
  obtain rfl := eq_planned made
  constructor
  · intro tellsApart first isFirst second isSecond own own' name
    refine (tellsApart first isFirst second isSecond ?_).2
    refine (render_eq_iff unqualified isFirst isSecond).mpr
      ⟨name, own.trans own'.symm, ?_⟩
    intro foreign
    rw [own] at foreign
    cases foreign
  · intro unambiguous first isFirst second isSecond alike
    rcases (render_eq_iff unqualified isFirst isSecond).mp alike with
      ⟨name, same, package⟩
    refine ⟨name, ?_⟩
    cases foreign : descriptor.isForeign destination first with
    | true => exact package foreign
    | false =>
        exact unambiguous first isFirst second isSecond foreign
          (same ▸ foreign) name

/-- References to a type parameter, to a type of the destination and into two packages of the same
name are all told apart. -/
theorem collect_tellsApart_shapes :
    let descriptor : UnionDescriptor :=
      ⟨"Bag", "example/bags", [⟨"T", .named (.predeclared "any")⟩],
        [⟨"own", .named (.reference "T" "example/bags"), none, false⟩,
          ⟨"key", .named (.reference "Key" "example/out"), none, false⟩,
          ⟨"shape", .named (.reference "Key" "example/shapes"), none,
            false⟩,
          ⟨"other", .named (.reference "Key" "other/shapes"), none,
            false⟩]⟩
    ∃ imports,
      (∀ reference ∈ descriptor.references,
        '.' ∉ reference.name.toList) ∧
      collect descriptor "example/out" = .ok imports ∧
      ∀ first ∈ descriptor.references, ∀ second ∈ descriptor.references,
        (Fragment.named first).render imports =
            (Fragment.named second).render imports →
          first.name = second.name ∧ first.package = second.package := by
  intro descriptor
  have unqualified :
      ∀ reference ∈ descriptor.references,
        '.' ∉ reference.name.toList := by
    decide +kernel
  have made :
      collect descriptor "example/out" =
        .ok ⟨"example/out", "example/bags", ["T"],
          [("example/shapes", "shapes"), ("other/shapes", "shapes2")],
          ["Key", "T", "any"]⟩ := by
    decide +kernel
  exact ⟨_, unqualified, made,
    (collect_tellsApart_iff unqualified made).mpr (by decide +kernel)⟩

/-- A type parameter and a type of the destination are written alike if they have the same name. -/
theorem collect_tellsApart_parameter :
    let descriptor : UnionDescriptor :=
      ⟨"Pair", "example/pairs", [⟨"T", .named (.predeclared "any")⟩],
        [⟨"own", .named (.reference "T" "example/pairs"), none, false⟩,
          ⟨"other", .named (.reference "T" "example/dest"), none, false⟩]⟩
    ∃ imports own other,
      collect descriptor "example/dest" = .ok imports ∧
        own ∈ descriptor.references ∧ other ∈ descriptor.references ∧
        isParameter descriptor.package descriptor.parameterNames own ∧
        other.package = "example/dest" ∧
        (Fragment.named own).render imports = "T" ∧
        (Fragment.named other).render imports = "T" ∧
        ¬ ∀ first ∈ descriptor.references,
          ∀ second ∈ descriptor.references,
            (Fragment.named first).render imports =
                (Fragment.named second).render imports →
              first.name = second.name ∧
                first.package = second.package := by
  intro descriptor
  have made :
      collect descriptor "example/dest" =
        .ok ⟨"example/dest", "example/pairs", ["T"], [], ["T", "any"]⟩ := by
    decide +kernel
  have shape :
      descriptor.references =
        [.predeclared "any", .reference "T" "example/pairs",
          .reference "T" "example/dest"] :=
    rfl
  refine ⟨_, .reference "T" "example/pairs", .reference "T" "example/dest",
    made, ?_, ?_, rfl, rfl, by decide +kernel, by decide +kernel, ?_⟩
  · simp [shape]
  · simp [shape]
  · intro tellsApart
    have same := tellsApart (.reference "T" "example/pairs") (by simp [shape])
      (.reference "T" "example/dest") (by simp [shape]) (by decide +kernel)
    exact absurd same.2 (by decide)

end ImportPlan

/-! ## Names with underscores in front -/

/-- A search ends at its base with some underscores in front. -/
theorem Escapes.exists_underscored
    {taken : List String} {name result : String}
    (search : Escapes taken name result) :
    ∃ count, result = underscored name count := by
  induction search with
  | free => exact ⟨0, (underscored_zero _).symm⟩
  | @taken name result isTaken later ih =>
      rcases ih with ⟨count, rfl⟩
      refine ⟨count + 1, String.toList_inj.mp ?_⟩
      simp [List.replicate_succ']

theorem Claims.exists_underscored
    {taken bases names : List String} (run : Claims taken bases names) :
    ∀ name ∈ names, ∃ base ∈ bases, ∃ count,
      name = underscored base count := by
  induction run with
  | nil => simp
  | cons search later ih =>
      intro name isIn
      rcases List.mem_cons.mp isIn with rfl | inLater
      · rcases search.exists_underscored with ⟨count, shape⟩
        exact ⟨_, List.mem_cons_self, count, shape⟩
      · rcases ih name inLater with ⟨base, isBase, count, shape⟩
        exact ⟨base, List.mem_cons_of_mem _ isBase, count, shape⟩

/-- The name of an unreserved variant is that of its handler. -/
theorem Handles.mem_of_unreserved
    {reserved taken variants names : List String} {variant : String}
    (run : Handles reserved taken variants names)
    (isVariant : variant ∈ variants) (unreserved : variant ∉ reserved) :
    variant ∈ names := by
  induction run with
  | nil => cases isVariant
  | own _ later ih =>
      rcases List.mem_cons.mp isVariant with rfl | inLater
      · exact List.mem_cons_self
      · exact List.mem_cons_of_mem _ (ih inLater)
  | claimed isReserved search later ih =>
      rcases List.mem_cons.mp isVariant with rfl | inLater
      · exact absurd isReserved unreserved
      · exact List.mem_cons_of_mem _ (ih inLater)

/-- A handler is named like an unreserved variant, or by the name of a variant with underscores in
front. -/
theorem Handles.own_or_underscored
    {reserved taken variants names : List String}
    (run : Handles reserved taken variants names)
    (variantsTaken : ∀ variant ∈ variants, variant ∈ taken) :
    ∀ name ∈ names,
      (name ∈ variants ∧ name ∉ reserved) ∨
        ∃ variant count, name = underscored variant (count + 1) := by
  induction run with
  | nil => simp
  | own unreserved later ih =>
      intro name isIn
      rcases List.mem_cons.mp isIn with rfl | inLater
      · exact .inl ⟨List.mem_cons_self, unreserved⟩
      · rcases ih (fun variant isVariant =>
            variantsTaken variant (List.mem_cons_of_mem _ isVariant))
            name inLater with
          ⟨isVariant, isFree⟩ | escaped
        · exact .inl ⟨List.mem_cons_of_mem _ isVariant, isFree⟩
        · exact .inr escaped
  | claimed isReserved search later ih =>
      intro name isIn
      rcases List.mem_cons.mp isIn with rfl | inLater
      · right
        rcases search.exists_underscored with ⟨count, shape⟩
        cases count with
        | zero =>
            rw [underscored_zero] at shape
            exact absurd (variantsTaken _ List.mem_cons_self)
              (shape ▸ search.not_mem)
        | succ count => exact ⟨_, count, shape⟩
      · rcases ih (fun variant isVariant =>
            List.mem_cons_of_mem _
              (variantsTaken variant (List.mem_cons_of_mem _ isVariant)))
            name inLater with
          ⟨isVariant, isFree⟩ | escaped
        · exact .inl ⟨List.mem_cons_of_mem _ isVariant, isFree⟩
        · exact .inr escaped

theorem head?_underscored_succ (base : String) (count : Nat) :
    (underscored base (count + 1)).toList.head? = some '_' := by
  rw [toList_underscored, List.replicate_succ]
  rfl

theorem not_mem_scopeBases :
    ∀ base ∈ NamePlan.scopeBases, '_' ∉ base.toList := by
  decide

/-- A local name with an underscore that does not start with one is that of an unreserved
variant. -/
theorem NamePlan.Arises.local_cases
    {variants reserved : List String} {features : Features}
    {plan : NamePlan} (arises : Arises variants features reserved plan)
    {name : String} (isLocal : name ∈ plan.localNames)
    (starts : name.toList.head? ≠ some '_') (holds : '_' ∈ name.toList) :
    name ∈ variants ∧ name ∉ reserved := by
  rcases List.mem_append.mp isLocal with inScope | isHandler
  · rcases arises.scope.exists_underscored name inScope with
      ⟨base, isBase, count, rfl⟩
    cases count with
    | zero =>
        rw [underscored_zero] at holds
        exact absurd holds (not_mem_scopeBases base isBase)
    | succ count => exact absurd (head?_underscored_succ _ _) starts
  · have variantsTaken :
        ∀ variant ∈ variants,
          variant ∈ plan.scopeNames.reverse ++ (variants ++ reserved) :=
      fun variant isVariant => List.mem_append_right _
        (List.mem_append_left _ isVariant)
    rcases arises.handlers.own_or_underscored variantsTaken name
      isHandler with own | ⟨variant, count, rfl⟩
    · exact own
    · exact absurd (head?_underscored_succ _ _) starts

/-! ## Local names and constants -/

namespace UnionSource

/-- The constants of the states. -/
def constants (source : UnionSource) : List String :=
  source.states.map source.state

/-- A constant has an underscore and starts like the name of the union. -/
theorem constant_chars
    {source : UnionSource} {name : String}
    (isConstant : name ∈ source.constants)
    (isName : source.config.typeName.toList ≠ []) :
    '_' ∈ name.toList ∧
      name.toList.head? = source.config.typeName.toList.head? := by
  rcases List.mem_map.mp isConstant with ⟨state, -, rfl⟩
  simp only [UnionSource.state, stateName, String.toList_append,
    List.append_assoc]
  constructor
  · simp
  · exact List.head?_append_of_ne_nil _ isName

end UnionSource

/-- What a source is made of. -/
theorem UnionDescriptor.source_eq_ok
    {descriptor : UnionDescriptor} {config : OutputConfig}
    {source : UnionSource}
    (made : descriptor.source config = .ok source) :
    ∃ imports,
      descriptor.check config = .ok () ∧
        ImportPlan.collect descriptor (descriptor.destination config) =
          .ok imports ∧
        source =
          ⟨descriptor,
            NamePlan.resolve descriptor.variantNames config.features
              (reservedNames imports config),
            imports, config⟩ := by
  rw [UnionDescriptor.source] at made
  rcases Reader.bind_eq_ok made with ⟨⟨⟩, checks, made⟩
  split at made
  case h_1 => cases made
  case h_2 imports collects =>
    cases made
    exact ⟨imports, checks, collects, rfl⟩

/-- A checked name has characters. -/
theorem UnionDescriptor.checkName_ne_nil
    {name : String} {role : NameRole}
    (checks : checkName name role = .ok ()) :
    name.toList ≠ [] := by
  intro isEmpty
  rw [checkName] at checks
  split at checks
  case isTrue isName =>
    have isIdentifier := isName.1
    rw [Name.isIdentifier, isEmpty] at isIdentifier
    cases isIdentifier
  case isFalse => cases checks

/-- A source has a name for the union. -/
theorem UnionDescriptor.check_typeName
    {descriptor : UnionDescriptor} {config : OutputConfig}
    (checks : descriptor.check config = .ok ()) :
    config.typeName.toList ≠ [] := by
  rw [UnionDescriptor.check] at checks
  rcases Reader.bind_eq_ok checks with ⟨⟨⟩, isName, -⟩
  exact checkName_ne_nil isName

/-- Checked names of variants are distinct, and none of them was seen before. -/
theorem UnionDescriptor.checkVariants_nodup
    {union : String} {seen names : List String} {index : Nat}
    (checks : checkVariants union seen index names = .ok ()) :
    names.Nodup ∧ ∀ name ∈ names, name ∉ seen := by
  induction names generalizing seen index with
  | nil => simp
  | cons name names ih =>
      rw [checkVariants] at checks
      split at checks
      case isTrue => cases checks
      case isFalse =>
        split at checks
        case isTrue => cases checks
        case isFalse isNew =>
          rw [List.contains_iff_mem] at isNew
          rcases ih checks with ⟨distinct, unseen⟩
          refine ⟨List.nodup_cons.mpr ⟨?_, distinct⟩, ?_⟩
          · exact fun isLater => unseen name isLater List.mem_cons_self
          · intro other isIn
            rcases List.mem_cons.mp isIn with rfl | isLater
            · exact isNew
            · exact fun isSeen =>
                unseen other isLater (List.mem_cons_of_mem _ isSeen)

/-- A source has distinct variants. -/
theorem UnionDescriptor.check_nodup
    {descriptor : UnionDescriptor} {config : OutputConfig}
    (checks : descriptor.check config = .ok ()) :
    descriptor.variantNames.Nodup := by
  rw [UnionDescriptor.check] at checks
  rcases Reader.bind_eq_ok checks with ⟨⟨⟩, -, checks⟩
  rcases Reader.bind_eq_ok checks with ⟨⟨⟩, -, checks⟩
  rcases Reader.bind_eq_ok checks with ⟨⟨⟩, distinct, -⟩
  exact (checkVariants_nodup distinct).1

/-- A text is generated from the source of the union. -/
theorem NamedType.generate_eq_ok
    {type : NamedType} {config : OutputConfig} {text : String}
    (generates : type.generate config = .ok text) :
    ∃ descriptor source,
      UnionDescriptor.ofNamed type = .ok descriptor ∧
        descriptor.source config = .ok source ∧ source.text = text := by
  rw [NamedType.generate] at generates
  split at generates
  case h_1 => cases generates
  case h_2 descriptor describes =>
    split at generates
    case h_1 => cases generates
    case h_2 source made =>
      cases generates
      exact ⟨descriptor, source, describes, made, rfl⟩

/--
The local names of a generated file are none of the names that are reserved:
the union type, its discriminant, the local names of the imports and what is
written bare.  Unless the name of the union starts with an underscore, none of
them is a constant exactly if no variant is, apart from reserved ones.
-/
theorem NamedType.generate_locals
    {type : NamedType} {config : OutputConfig} {text : String}
    (generates : type.generate config = .ok text) :
    ∃ descriptor source,
      UnionDescriptor.ofNamed type = .ok descriptor ∧
        descriptor.source config = .ok source ∧ source.text = text ∧
        (∀ name ∈ source.plan.localNames,
          name ≠ config.typeName ∧ name ≠ source.discriminant ∧
            name ∉ source.imports.names.map (·.2) ∧
            name ∉ source.imports.bare) ∧
        (config.typeName.toList.head? ≠ some '_' →
          ((∀ name ∈ source.plan.localNames, name ∉ source.constants) ↔
            ∀ variant ∈ descriptor.variantNames,
              variant ∈ source.constants →
                variant ∈ UnionDescriptor.reservedNames source.imports
                  config)) := by
  rcases generate_eq_ok generates with
    ⟨descriptor, source, describes, made, written⟩
  refine ⟨descriptor, source, describes, made, written, ?_⟩
  rcases UnionDescriptor.source_eq_ok made with
    ⟨imports, checks, -, rfl⟩
  have arises := NamePlan.arises_resolve descriptor.variantNames
    config.features (UnionDescriptor.reservedNames imports config)
  constructor
  · intro name isLocal
    have unreserved := arises.locals_not_reserved name isLocal
    simp only [UnionDescriptor.reservedNames, ImportPlan.reserved,
      List.mem_cons, List.mem_append, not_or] at unreserved
    exact ⟨unreserved.1, unreserved.2.1, unreserved.2.2.2,
      unreserved.2.2.1⟩
  · intro starts
    constructor
    · intro apart variant isVariant isConstant
      by_contra unreserved
      have isHandler := arises.handlers.mem_of_unreserved isVariant unreserved
      exact apart variant (List.mem_append_right _ isHandler) isConstant
    · intro onlyReserved name isLocal isConstant
      rcases UnionSource.constant_chars isConstant
        (UnionDescriptor.check_typeName checks) with ⟨holds, head⟩
      rcases arises.local_cases isLocal (fun isHead =>
        starts (head.symm.trans isHead)) holds with ⟨isVariant, unreserved⟩
      exact unreserved (onlyReserved name isVariant isConstant)

/-- A source that is made, with what is seen of it, is the source of a generated text. -/
theorem exists_generated
    {α : Type} (type : NamedType) {descriptor : UnionDescriptor}
    {config : OutputConfig} {view : UnionSource → α} {value : α}
    (describes : UnionDescriptor.ofNamed type = .ok descriptor)
    (seen : (descriptor.source config).toOption.map view = some value) :
    ∃ source, descriptor.source config = .ok source ∧
      type.generate config = .ok source.text ∧ view source = value := by
  rcases Option.map_eq_some_iff.mp seen with ⟨source, isSome, seen⟩
  have made := eq_ok_of_toOption isSome
  refine ⟨source, made, ?_, seen⟩
  rw [NamedType.generate, describes]
  simp only [made]

/-- Fields that are named like local names, none of them like a constant. -/
theorem NamedType.generate_locals_lookalikes :
    let type : NamedType :=
      ⟨"D", "example/d", some (.record
        [⟨"u", .basic .int, none, false⟩,
          ⟨"_u", .named (.reference "value" "example/d"), none, false⟩]),
        [], []⟩
    let config : OutputConfig :=
      ⟨"U", "u.go", "d", none, none, .standard⟩
    ∃ source : UnionSource,
      type.generate config = .ok source.text ∧
        source.plan.localNames =
          ["__u", "_value", "zero", "invalid", "u", "_u"] ∧
        ∀ name ∈ source.plan.localNames,
          name ≠ "U" ∧ name ∉ source.imports.bare ∧
            name ∉ source.constants := by
  intro type config
  have seen :
      ((⟨"D", "example/d", [],
          [⟨"u", .basic .int, none, false⟩,
            ⟨"_u", .named (.reference "value" "example/d"), none,
              false⟩]⟩ : UnionDescriptor).source config).toOption.map
        (fun source => (source.plan.localNames, source.constants)) =
        some (["__u", "_value", "zero", "invalid", "u", "_u"],
          ["U_Invalid", "U_u", "U__u"]) := by
    decide +kernel
  rcases exists_generated type rfl seen with
    ⟨source, made, generates, seen⟩
  simp only [Prod.mk.injEq] at seen
  rcases generate_locals generates with
    ⟨descriptor, source', describes, made', -, reserved, constants⟩
  cases describes
  cases made.symm.trans made'
  have distinct :
      ∀ variant ∈ ["u", "_u"],
        variant ∉ ["U_Invalid", "U_u", "U__u"] := by
    decide
  have apart := (constants (by decide)).mpr fun variant isVariant
    isConstant =>
      absurd (seen.2 ▸ isConstant) (distinct variant isVariant)
  exact ⟨source, generates, seen.1, fun name isLocal =>
    ⟨(reserved name isLocal).1, (reserved name isLocal).2.2.2,
      apart name isLocal⟩⟩

/-- A field that is named like the constant of another one gives its name to a handler: the
switch in which the constant is meant then mentions the handler. -/
theorem NamedType.generate_locals_constant :
    let type : NamedType :=
      ⟨"D", "example/d", some (.record
        [⟨"a", .basic .int, none, false⟩,
          ⟨"U_a", .basic .string, none, false⟩]), [], []⟩
    let config : OutputConfig :=
      ⟨"U", "u.go", "d", none, none, .standard⟩
    ∃ source : UnionSource,
      type.generate config = .ok source.text ∧
        source.plan.handlers = ["a", "U_a"] ∧
        source.constants = ["U_Invalid", "U_a", "U_U_a"] ∧
        ¬ ∀ name ∈ source.plan.localNames, name ∉ source.constants := by
  intro type config
  have seen :
      ((⟨"D", "example/d", [],
          [⟨"a", .basic .int, none, false⟩,
            ⟨"U_a", .basic .string, none, false⟩]⟩ :
          UnionDescriptor).source config).toOption.map
        (fun source => (source.plan.handlers, source.constants)) =
        some (["a", "U_a"], ["U_Invalid", "U_a", "U_U_a"]) := by
    decide +kernel
  rcases exists_generated type rfl seen with
    ⟨source, -, generates, seen⟩
  simp only [Prod.mk.injEq] at seen
  rcases seen with ⟨handlers, constants⟩
  refine ⟨source, generates, handlers, constants, ?_⟩
  intro apart
  have isLocal : "U_a" ∈ source.plan.localNames :=
    List.mem_append_right _ (handlers ▸ by decide)
  exact apart "U_a" isLocal (constants ▸ by decide)

end GoUnion
