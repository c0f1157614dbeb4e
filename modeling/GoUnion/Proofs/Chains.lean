import GoUnion.Proofs.Scoping
import GoUnion.Proofs.Structures
import Mathlib.Data.List.Nodup
import Mathlib.Data.List.Perm.Subperm

/-!
# Chains of declarations

A declaration may only name another declaration of its package, which may name
the next one.  Such a chain either ends at a declaration that names no other, or
it comes back to a declaration that it has passed.

Expanding a declaration follows its chain, at most as often as the package has
declarations.  A chain that ends passes each declaration once, so the bound
never cuts it short: what is expanded is the structure that the last declaration
has on its own.  A chain that comes back never ends, so the bound is always
reached.  It is the only way to be refused as a recursive type.
-/

namespace GoUnion

open Reader (bind_eq_ok ok_bind)

namespace Package

variable {package : Package} {declared target last : Declared}

/-! ## Following a chain -/

/-- The declaration that a number of steps along the chain lead to. -/
def follow? (package : Package) : Nat → Declared → Option Declared
  | 0, declared => some declared
  | steps + 1, declared =>
    (package.next? declared).bind (package.follow? steps)

theorem follow?_add (first second : Nat) (declared : Declared) :
    package.follow? (first + second) declared =
      (package.follow? first declared).bind (package.follow? second) := by
  induction first generalizing declared with
  | zero => rw [Nat.zero_add, follow?, Option.bind_some]
  | succ first ih =>
      rw [Nat.add_right_comm, follow?, follow?, Option.bind_assoc]
      exact congrArg _ (funext ih)

theorem follow?_succ (steps : Nat) (declared : Declared) :
    package.follow? (steps + 1) declared =
      (package.follow? steps declared).bind package.next? := by
  rw [follow?_add]
  refine congrArg _ (funext fun reached => ?_)
  rw [follow?]
  cases package.next? reached with
  | none => rfl
  | some target => rfl

/-- A chain that gets somewhere gets to all places before. -/
theorem follow?_isSome_of_le
    {steps fewer : Nat} (le : fewer ≤ steps)
    (gets : (package.follow? steps declared).isSome) :
    (package.follow? fewer declared).isSome := by
  rw [← Nat.add_sub_cancel' le, follow?_add] at gets
  cases found : package.follow? fewer declared with
  | none =>
      rw [found] at gets
      cases gets
  | some reached => rfl

/-- A declaration has the structure of every declaration on its chain. -/
theorem underlying_follow?
    {steps : Nat} (reaches : package.follow? steps declared = some target)
    (more : Nat) :
    package.underlying (steps + more) declared =
      package.underlying more target := by
  induction steps generalizing declared with
  | zero =>
      cases reaches
      rw [Nat.zero_add]
  | succ steps ih =>
      rcases Option.bind_eq_some_iff.mp reaches with
        ⟨second, names, reaches⟩
      rw [Nat.add_right_comm, underlying_next? names, ih reaches]

theorem mem_declared_of_follow?
    (isDeclared : declared ∈ package.declared) {steps : Nat}
    (reaches : package.follow? steps declared = some target) :
    target ∈ package.declared := by
  cases steps with
  | zero =>
      cases reaches
      exact isDeclared
  | succ steps =>
      rw [follow?_succ] at reaches
      rcases Option.bind_eq_some_iff.mp reaches with ⟨_, -, names⟩
      exact mem_declared_of_next? names

/-! ## Chains that end and chains that come back -/

/-- Whether the chain of a declaration comes to some declaration twice. -/
def Revisits (package : Package) (declared : Declared) : Prop :=
  ∃ first second reached, first < second ∧
    package.follow? first declared = some reached ∧
      package.follow? second declared = some reached

/-- Whether the chain of a declaration ends at another one. -/
def EndsAt
    (package : Package) (declared : Declared) (steps : Nat)
    (last : Declared) : Prop :=
  package.follow? steps declared = some last ∧ package.next? last = none

/-- Nothing is behind the end of a chain. -/
theorem EndsAt.follow?_eq_none
    {steps : Nat} (ends : package.EndsAt declared steps last)
    {further : Nat} (beyond : steps < further) :
    package.follow? further declared = none := by
  rcases Nat.exists_eq_add_of_lt beyond with ⟨more, rfl⟩
  rw [Nat.add_assoc, follow?_add, ends.1, Option.bind_some, follow?,
    ends.2, Option.bind_none]

/-- A chain that ends does not come back: a declaration cannot be at two distances from the end. -/
theorem EndsAt.not_revisits
    {steps : Nat} (ends : package.EndsAt declared steps last) :
    ¬ package.Revisits declared := by
  rintro ⟨first, second, reached, less, atFirst, atSecond⟩
  have within : second ≤ steps := by
    by_contra beyond
    rw [ends.follow?_eq_none (Nat.lt_of_not_le beyond)] at atSecond
    cases atSecond
  have rest {passed : Nat} (le : passed ≤ steps)
      (atPassed : package.follow? passed declared = some reached) :
      package.EndsAt reached (steps - passed) last := by
    have whole := ends.1
    rw [← Nat.add_sub_cancel' le, follow?_add, atPassed,
      Option.bind_some] at whole
    exact ⟨whole, ends.2⟩
  have far := rest (Nat.le_trans (Nat.le_of_lt less) within) atFirst
  have near := rest within atSecond
  have gone := near.follow?_eq_none
    (Nat.sub_lt_sub_left (Nat.lt_of_lt_of_le less within) less)
  cases gone.symm.trans far.1

/-- A chain that gets no further ends somewhere before. -/
theorem exists_endsAt
    {steps : Nat} (stops : package.follow? steps declared = none) :
    ∃ count last, count < steps ∧ package.EndsAt declared count last := by
  induction steps with
  | zero => cases stops
  | succ steps ih =>
      cases found : package.follow? steps declared with
      | none =>
          rcases ih found with ⟨count, last, less, ends⟩
          exact ⟨count, last, Nat.lt_succ_of_lt less, ends⟩
      | some reached =>
          rw [follow?_succ, found, Option.bind_some] at stops
          exact ⟨steps, reached, Nat.lt_succ_self steps, found, stops⟩

/-- A chain that does not come back has fewer steps than the package has declarations. -/
theorem lt_typeCount_of_not_revisits
    (isDeclared : declared ∈ package.declared)
    (neverBack : ¬ package.Revisits declared) {steps : Nat}
    (gets : (package.follow? steps declared).isSome) :
    steps < package.typeCount := by
  have each (passed : Nat) (le : passed ≤ steps) :
      package.follow? passed declared =
        some ((package.follow? passed declared).getD declared) := by
    rcases Option.isSome_iff_exists.mp (follow?_isSome_of_le le gets) with
      ⟨reached, found⟩
    rw [found, Option.getD_some]
  let chain : List Declared :=
    (List.range (steps + 1)).map fun passed =>
      (package.follow? passed declared).getD declared
  have distinct : chain.Nodup := by
    refine List.Nodup.map_on ?_ List.nodup_range
    intro first inRange second inRange' same
    have first_le := Nat.le_of_lt_succ (List.mem_range.mp inRange)
    have second_le := Nat.le_of_lt_succ (List.mem_range.mp inRange')
    by_contra different
    rcases Nat.lt_or_gt_of_ne different with less | greater
    · exact neverBack ⟨first, second, _, less, each first first_le,
        same ▸ each second second_le⟩
    · exact neverBack ⟨second, first, _, greater, each second second_le,
        same ▸ each first first_le⟩
  have allDeclared : chain ⊆ package.declared := by
    intro reached isIn
    rcases List.mem_map.mp isIn with ⟨passed, inRange, rfl⟩
    exact mem_declared_of_follow? isDeclared
      (each passed (Nat.le_of_lt_succ (List.mem_range.mp inRange)))
  have lengths := (distinct.subperm allDeclared).length_le
  rw [List.length_map, List.length_range] at lengths
  exact lengths

/-- Expanding fails at a chain that comes back. -/
theorem Revisits.underlying
    (back : package.Revisits declared) :
    ∃ reached,
      package.follow? package.typeCount declared = some reached ∧
        package.underlying package.typeCount declared =
          .error (.unsupported (.recursiveType reached.name) none
            (reached.file.locate reached.declaration.type.span)) := by
  have goesOn : package.follow? (package.typeCount + 1) declared ≠ none := by
    intro stops
    rcases exists_endsAt stops with ⟨_, _, -, ends⟩
    exact ends.not_revisits back
  rcases Option.ne_none_iff_exists'.mp goesOn with ⟨target, reaches⟩
  rw [follow?_succ] at reaches
  rcases Option.bind_eq_some_iff.mp reaches with ⟨reached, found, names⟩
  exact ⟨reached, found, (underlying_follow? found 0).trans
    (underlying_next?_zero names)⟩

/-- Any other chain ends, and the declaration has the structure that the last one has on its
own. -/
theorem underlying_of_not_revisits
    (isDeclared : declared ∈ package.declared)
    (neverBack : ¬ package.Revisits declared) :
    ∃ count last, package.EndsAt declared count last ∧
      package.underlying package.typeCount declared =
        (Scope.ofDeclared package last).structureOf
          last.declaration.type := by
  have stops : package.follow? package.typeCount declared = none := by
    by_contra goesOn
    exact Nat.lt_irrefl _ (lt_typeCount_of_not_revisits isDeclared neverBack
      (Option.isSome_iff_ne_none.mpr goesOn))
  rcases exists_endsAt stops with ⟨count, last, less, ends⟩
  refine ⟨count, last, ends, ?_⟩
  have follows := underlying_follow? ends.1 (package.typeCount - count)
  rw [Nat.add_sub_cancel' (Nat.le_of_lt less)] at follows
  exact follows.trans (underlying_of_next?_eq_none ends.2 _)

/--
A declaration whose chain comes back to a declaration that it has passed is
refused as a recursive type.  Any other chain has a last declaration, and what
is expanded is the structure that the type expression of that one has on its
own, or the error that it has none.  That is what expanding the last declaration
gives as well, for any number of steps, and it is never that there is a
recursive type.
-/
theorem expand_chain
    {name : String} {parameters : List TypeParameter}
    (found : package.type? name = some declared)
    (translates :
      denoteParameters (Scope.ofDeclared package declared)
        declared.declaration.parameters = .ok parameters) :
    (package.Revisits declared →
      ∃ reached,
        package.follow? package.typeCount declared = some reached ∧
          package.expand name =
            .error (.unsupported (.recursiveType reached.name) none
              (reached.file.locate reached.declaration.type.span))) ∧
    (¬ package.Revisits declared →
      ∃ count last, package.EndsAt declared count last ∧
        (package.expand name =
          ((Scope.ofDeclared package last).structureOf
            last.declaration.type).map fun type =>
              ⟨name, package.path, some type, parameters, []⟩) ∧
        (∀ steps, package.underlying steps last =
          (Scope.ofDeclared package last).structureOf
            last.declaration.type) ∧
        ∀ recursive field location, package.expand name ≠
          .error (.unsupported (.recursiveType recursive) field location)) := by
  have expands :
      package.expand name =
        (package.underlying package.typeCount declared).map fun type =>
          ⟨name, package.path, some type, parameters, []⟩ := by
    rw [Package.expand, found]
    dsimp only
    rw [translates, ok_bind]
    rfl
  rw [expands]
  constructor
  · intro back
    rcases back.underlying with ⟨reached, isReached, fails⟩
    refine ⟨reached, isReached, ?_⟩
    rw [fails]
    rfl
  · intro neverBack
    rcases underlying_of_not_revisits
      (List.mem_of_find?_eq_some found) neverBack with
      ⟨count, last, ends, same⟩
    refine ⟨count, last, ends, by rw [same],
      underlying_of_next?_eq_none ends.2, ?_⟩
    intro recursive field location fails
    have isOther := Scope.failsOnly_structureOf_ofDeclared package last
      last.declaration.type _ (same.symm.trans (map_eq_error fails))
    cases isOther

/-- A chain through three files that ends at a struct, and two declarations that name each other. -/
theorem expand_chain_files :
    ∃ package first loop,
      Package.ofTexts "chains" "example/chains"
          [("a.go", ("package chains\ntype First Second\n" ++
              "type Loop Back\n").toList),
            ("b.go", ("package chains\ntype Second = Third\n" ++
              "type Back = Loop\n").toList),
            ("c.go", ("package chains\n" ++
              "type Third struct \x7b next *First \x7d\n").toList)] =
          .ok package ∧
        package.type? "First" = some first ∧
        package.type? "Loop" = some loop ∧
        ¬ package.Revisits first ∧
        (∃ count last root, package.EndsAt first count last ∧
          package.expand "First" = .ok root ∧
          ((Scope.ofDeclared package last).structureOf
            last.declaration.type).map (fun type =>
              ⟨"First", package.path, some type, [], []⟩) = .ok root ∧
          root.fields?.map (·.map (·.name)) = some ["next"]) ∧
        package.Revisits loop ∧
        ∃ reached location, package.expand "Loop" =
          .error (.unsupported (.recursiveType reached) none location) := by
  generalize shape : Package.ofTexts _ _ _ = result
  have seen :
      (result.toOption.bind fun package =>
        (package.type? "First").bind fun first =>
          (package.type? "Loop").bind fun loop =>
            (package.follow? 2 first).bind fun last =>
              (package.follow? 2 loop).bind fun back =>
                (package.expand "First").toOption.map fun root =>
                  (first.declaration.parameters.isEmpty,
                    loop.declaration.parameters.isEmpty,
                    (package.next? last).isNone, back.name,
                    root.fields?.map (·.map (·.name)))) =
        some (true, true, true, "Loop", some ["next"]) := by
    rw [← shape]
    decide +kernel
  rcases Option.bind_eq_some_iff.mp seen with ⟨package, loads, seen⟩
  rcases Option.bind_eq_some_iff.mp seen with ⟨first, found, seen⟩
  rcases Option.bind_eq_some_iff.mp seen with ⟨loop, found', seen⟩
  rcases Option.bind_eq_some_iff.mp seen with ⟨last, reaches, seen⟩
  rcases Option.bind_eq_some_iff.mp seen with ⟨back, returns, seen⟩
  rcases Option.map_eq_some_iff.mp seen with ⟨root, isRoot, seen⟩
  simp only [Prod.mk.injEq] at seen
  rcases seen with ⟨plain, plain', isLast, isLoop, hasNext⟩
  have neverBack : ¬ package.Revisits first :=
    EndsAt.not_revisits ⟨reaches, Option.isNone_iff_eq_none.mp isLast⟩
  have same : back = loop := by
    rw [follow?_succ] at returns
    rcases Option.bind_eq_some_iff.mp returns with ⟨_, -, names⟩
    have found'' := type?_of_next? names
    rw [isLoop, found'] at found''
    exact (Option.some.inj found'').symm
  have comesBack : package.Revisits loop :=
    ⟨0, 2, loop, by decide, rfl, same ▸ returns⟩
  have translates (declared : Declared)
      (plain : declared.declaration.parameters.isEmpty = true) :
      denoteParameters (Scope.ofDeclared package declared)
        declared.declaration.parameters = .ok [] := by
    rw [List.isEmpty_iff.mp plain]
    rfl
  rcases (expand_chain found (translates first plain)).2 neverBack with
    ⟨count, last', ends, expands, -, -⟩
  rcases (expand_chain found' (translates loop plain')).1 comesBack with
    ⟨reached, -, fails⟩
  have isRoot := eq_ok_of_toOption isRoot
  exact ⟨package, first, loop, eq_ok_of_toOption loads, found, found',
    neverBack,
    ⟨count, last', root, ends, isRoot, expands.symm.trans isRoot, hasNext⟩,
    comesBack, reached.name, _, fails⟩

end Package

end GoUnion
