import Dispatch.Handler.Stock
import Dispatch.Proofs.CacheIntegrity

namespace Dispatch

/-!
# Constructions that resolve their own name

A constructor that resolves the very name it is run for starts a construction
within a construction, until one of them does not.  That innermost one publishes
first; all others end in the opposite order of their beginnings and find the
name taken.  `SelfReentry.chronicle` is the journal of such a run and
`SelfReentry.resolve_nested` the induction on the number of calls.
-/

/--
A type whose first constructions each resolve the name of the type, and whose
first constructions fail, the two numbers being independent.
-/
structure SelfReentry where
  name : String
  typeName : String
  serial : Nat
  reentries : Nat
  failures : Nat
  strict : Nat → Bool
  failure : Nat → Failure
  handler : Nat → Handler

namespace SelfReentry

variable (type : SelfReentry)

/--
The end of a construction, which does not depend on what the call in it has given.
-/
def outcome
    (index : Nat) : Script .construct :=
  if index < type.failures then
    .fail (type.failure index)
  else
    .build (type.handler index)

/-- The construction of a number. -/
def make
    (index : Nat) : Script .construct :=
  if index < type.reentries then
    .resolve type.name (type.strict index) fun _ => type.outcome index
  else
    type.outcome index

/-- The binding whose constructions these are. -/
def binding : Binding :=
  ⟨type.serial, .factory type.typeName type.make⟩

/-- What the construction of a number ends with. -/
def result
    (index : Nat) : Except Failure Handler :=
  if index < type.failures then
    .error (type.failure index)
  else
    .ok (type.handler index)

/-- What the call answers that has run the construction of a number. -/
def answer
    (instanceId index : Nat) : Option Handle :=
  if index < type.failures then none else some ⟨type.name, instanceId⟩

/-- The journal of a call up to the point where its constructor runs. -/
def opening
    (index : Nat) : Journal :=
  [.called type.name, .constructing type.serial type.typeName (some index)]

/-- The journal of a call from the point where its constructor has ended. -/
def ending
    (instanceId index : Nat) : Journal :=
  (if index < type.failures then
      [.instantiated type.name false,
        .emitted
          (.constructionFailed type.name
            (.failed type.typeName (type.failure index)))]
    else
      [.instantiated type.name true,
        .emitted
          (if index < type.reentries then
            .duplicateDiscarded type.name
          else
            .published type.name)]) ++
    [.returned type.name (type.answer instanceId index)]

/-- The journal of a number of calls, each within the one before. -/
def chronicle
    (instanceId : Nat) : (calls index : Nat) → Journal
  | 0, _ =>
      []
  | calls + 1, index =>
      type.opening index ++ chronicle instanceId calls (index + 1) ++
        type.ending instanceId index

/-- The handlers built by a number of calls, the innermost first. -/
def built : (calls index : Nat) → List Handler
  | 0, _ =>
      []
  | calls + 1, index =>
      built calls (index + 1) ++
        if index < type.failures then [] else [type.handler index]

/-- What a number of calls, each within the one before, does to a world. -/
structure Reentered
    (calls index : Nat)
    (before after : World) : Prop where
  directory :
    after.directory =
      { before.directory with
        asked := before.directory.asked ++ List.replicate calls type.name }
  registry :
    after.registry =
      if 0 < calls ∧ type.failures ≤ type.reentries then
        (before.insert type.name ⟨type.name, before.handlers.length⟩).registry
      else
        before.registry
  handlers :
    after.handlers = before.handlers ++ type.built calls index
  journal :
    after.journal =
      before.journal ++ type.chronicle before.handlers.length calls index

variable
  {type : SelfReentry}
  {resolver : Resolver}
  {depth calls index : Nat}
  {world inner : World}

theorem run_outcome
    (index : Nat)
    (calls : Calls)
    (world : World) :
    (type.outcome index).run calls world = some (type.result index, world) := by
  unfold outcome result
  split <;> rfl

/-- The world in which the constructor of a call runs. -/
def started
    (type : SelfReentry)
    (index : Nat)
    (world : World) : World :=
  world.opened type.name type.serial type.typeName (some index)

theorem reentered_zero
    (index : Nat)
    (world : World) :
    type.Reentered 0 index world world where
  directory := by simp
  registry := by simp
  handlers := by simp [built]
  journal := by simp [chronicle]

theorem started_journal
    (index : Nat)
    (world : World) :
    (type.started index world).journal = world.journal ++ type.opening index := by
  simp [started, opening]

/-- A failing construction undoes nothing of what happened in its midst. -/
theorem Reentered.failed
    (inside : type.Reentered calls (index + 1) (type.started index world) inner)
    (position : index + calls = type.reentries)
    (fails : index < type.failures) :
    type.Reentered (calls + 1) index world
      ((inner.settle type.name
          (.error (.failed type.typeName (type.failure index)))).2.record
        (.returned type.name none)) where
  directory := by
    change inner.directory = _
    rw [inside.directory]
    simp [started, World.opened, World.ask, Directory.ask, World.record,
      List.replicate_succ]
  registry := by
    change inner.registry = _
    rw [inside.registry]
    by_cases some_succeed : type.failures ≤ type.reentries
    · have within : 0 < calls := by omega
      simp [some_succeed, within]
      rfl
    · simp [some_succeed]
      rfl
  handlers := by
    change inner.handlers = _
    rw [inside.handlers]
    simp [built, fails]
    rfl
  journal := by
    rw [World.journal_record, World.settle_error, World.journal_emit,
      World.journal_record, inside.journal, started_journal]
    simp [chronicle, ending, answer, fails]
    rfl

/-- The innermost construction, if it succeeds, is the one that is published. -/
theorem Reentered.publishedFirst
    (inside : type.Reentered 0 (index + 1) (type.started index world) inner)
    (position : index = type.reentries)
    (succeeds : type.failures ≤ index) :
    type.Reentered 1 index world
      ((((inner.settle type.name (.ok (type.handler index))).2.insert
          type.name ⟨type.name, world.handlers.length⟩).emit
            (.published type.name)).record
        (.returned type.name (some ⟨type.name, world.handlers.length⟩))) where
  directory := by
    change inner.directory = _
    rw [inside.directory]
    simp [started, World.opened, World.ask, Directory.ask, World.record]
  registry := by
    have reaches : type.failures ≤ type.reentries := position ▸ succeeds
    have untouched : inner.registry = world.registry := inside.registry
    simp [reaches, World.insert, World.record, World.emit, untouched]
  handlers := by
    have notFailing : ¬ index < type.failures := Nat.not_lt.mpr succeeds
    change inner.handlers ++ _ = _
    rw [inside.handlers]
    simp [built, notFailing]
    rfl
  journal := by
    have notFailing : ¬ index < type.failures := Nat.not_lt.mpr succeeds
    have last : ¬ index < type.reentries := by omega
    rw [World.journal_record, World.journal_emit]
    change (World.settle _ _ _).2.journal ++ _ ++ _ = _
    rw [World.settle_ok_journal, inside.journal, started_journal]
    simp [chronicle, ending, answer, notFailing, last]

/-- Every other construction, if it succeeds, comes too late and is discarded. -/
theorem Reentered.discardedLater
    (inside : type.Reentered calls (index + 1) (type.started index world) inner)
    (position : index + calls = type.reentries)
    (within : 0 < calls)
    (succeeds : type.failures ≤ index) :
    type.Reentered (calls + 1) index world
      (((inner.settle type.name (.ok (type.handler index))).2.emit
            (.duplicateDiscarded type.name)).record
        (.returned type.name (some ⟨type.name, world.handlers.length⟩))) where
  directory := by
    change inner.directory = _
    rw [inside.directory]
    simp [started, World.opened, World.ask, Directory.ask, World.record,
      List.replicate_succ]
  registry := by
    have reaches : type.failures ≤ type.reentries := by omega
    change inner.registry = _
    rw [inside.registry]
    simp [reaches, within]
    rfl
  handlers := by
    have notFailing : ¬ index < type.failures := Nat.not_lt.mpr succeeds
    change inner.handlers ++ _ = _
    rw [inside.handlers]
    simp [built, notFailing]
    rfl
  journal := by
    have notFailing : ¬ index < type.failures := Nat.not_lt.mpr succeeds
    have notLast : index < type.reentries := by omega
    rw [World.journal_record, World.journal_emit, World.settle_ok_journal,
      inside.journal, started_journal]
    simp [chronicle, ending, answer, notFailing, notLast]
    rfl

/-- A call is told by the run of the constructor in its midst. -/
theorem resolve_of_run
    (named : type.name ≠ "")
    (binds : resolver.Binds world.directory type.name type.binding)
    (unpublished : world.registry.cache.find? type.name = none)
    (count : world.constructionsOf type.serial = index)
    (position : index + calls = type.reentries)
    (ran :
      (type.make index).run (Calls.nested resolver depth)
          (type.started index world) =
        some (type.result index, inner))
    (inside : type.Reentered calls (index + 1) (type.started index world) inner)
    (strict : Bool) :
    ∃ after,
      (Calls.nested resolver (depth + 1)).resolve type.name strict world =
          some
            (.ofHandle? type.name strict (type.answer world.handlers.length index),
              after) ∧
        type.Reentered (calls + 1) index world after := by
  have counted :
      ((world.record (.called type.name)).ask type.name).constructionsOf
        type.binding.serial = index := by
    rw [World.constructionsOf_called]
    exact count
  have construction :
      (Calls.nested resolver depth).builds type.binding
        ((world.record (.called type.name)).ask type.name)
        ((type.result index).mapError (ConstructionFailure.failed type.typeName))
        inner := by
    refine Calls.builds_of_factory rfl ?_
    rw [counted]
    exact ran
  have bound :
      resolver (world.record (.called type.name)).directory type.name =
        .bound type.binding :=
    binds world.directory.asked
  have missed :
      (world.record (.called type.name)).registry.cache.find? type.name = none :=
    unpublished
  by_cases fails : index < type.failures
  · simp only [result, fails, ↓reduceIte] at construction
    refine ⟨_, ?_, inside.failed position fails⟩
    simp only [answer, fails, ↓reduceIte]
    exact (Resolved.constructionFailed missed named bound construction).nested_eq
      strict
  · simp only [result, fails, ↓reduceIte] at construction
    simp only [answer, fails, ↓reduceIte]
    have succeeds : type.failures ≤ index := Nat.not_lt.mp fails
    cases calls with
    | zero =>
        have sameHandlers : inner.handlers = world.handlers := by
          rw [inside.handlers]
          simp [built]
          rfl
        have untouched : inner.registry = world.registry := inside.registry
        refine ⟨_, ?_, inside.publishedFirst position succeeds⟩
        have published :=
          (Resolved.published missed named bound construction
            (by rw [untouched]; exact unpublished)).nested_eq strict
        rw [sameHandlers] at published
        exact published
    | succ calls =>
        have reaches : type.failures ≤ type.reentries := by omega
        have present :
            inner.registry.cache.find? type.name =
              some ⟨type.name, world.handlers.length⟩ := by
          rw [inside.registry]
          simp only [Nat.zero_lt_succ, reaches, and_self, ↓reduceIte]
          rw [World.find?_insert, if_pos rfl]
          rfl
        refine ⟨_, ?_,
          inside.discardedLater position (Nat.zero_lt_succ calls) succeeds⟩
        exact (Resolved.discarded missed named bound construction present).nested_eq
          strict

/-- As many calls nest as there are constructions left that resolve the name. -/
theorem resolve_nested
    (named : type.name ≠ "")
    (binds : resolver.Binds world.directory type.name type.binding)
    (unpublished : world.registry.cache.find? type.name = none)
    (count : world.constructionsOf type.serial = index)
    (position : index + calls = type.reentries)
    (deep : calls < depth)
    (strict : Bool) :
    ∃ after,
      (Calls.nested resolver depth).resolve type.name strict world =
          some
            (.ofHandle? type.name strict (type.answer world.handlers.length index),
              after) ∧
        type.Reentered (calls + 1) index world after := by
  induction calls generalizing index depth world strict with
  | zero =>
      obtain ⟨depth, rfl⟩ := Nat.exists_eq_add_one_of_ne_zero (Nat.ne_of_gt deep)
      have last : ¬ index < type.reentries := by omega
      refine resolve_of_run named binds unpublished count position ?_
        (reentered_zero _ _) strict
      rw [make, if_neg last]
      exact run_outcome _ _ _
  | succ calls inductionHypothesis =>
      obtain ⟨depth, rfl⟩ :=
        Nat.exists_eq_add_one_of_ne_zero (Nat.ne_zero_of_lt deep)
      have reenters : index < type.reentries := by omega
      have counted :
          (type.started index world).constructionsOf type.serial = index + 1 := by
        rw [started, World.constructionsOf_opened, count]
      have bindsStill :
          resolver.Binds (type.started index world).directory type.name
              type.binding :=
        binds
      have unpublishedStill :
          (type.started index world).registry.cache.find? type.name = none :=
        unpublished
      obtain ⟨inner, resolved, inside⟩ :=
        inductionHypothesis bindsStill unpublishedStill counted (by omega)
          (Nat.lt_of_succ_lt_succ deep) (type.strict index)
      refine resolve_of_run named binds unpublished count position ?_ inside strict
      rw [make, if_pos reenters, Script.run, Run.bind_of_eq resolved]
      exact run_outcome _ _ _

/-! ## What the journal of such a run says -/

theorem constructions_chronicle
    (instanceId calls index : Nat) :
    (type.chronicle instanceId calls index).constructions =
      (List.range' index calls).map fun number => (type.typeName, some number) := by
  induction calls generalizing index with
  | zero =>
      rfl
  | succ calls inductionHypothesis =>
      have ended : (type.ending instanceId index).constructions = [] := by
        unfold ending
        split <;> rfl
      have begun :
          (type.opening index).constructions = [(type.typeName, some index)] :=
        rfl
      unfold Journal.constructions at *
      rw [chronicle, List.filterMap_append, List.filterMap_append,
        inductionHypothesis, begun, ended, List.append_nil]
      rfl

theorem returned_chronicle
    (instanceId calls index : Nat) :
    (type.chronicle instanceId calls index).returned =
      ((List.range' index calls).map fun number =>
        (type.name, type.answer instanceId number)).reverse := by
  induction calls generalizing index with
  | zero =>
      rfl
  | succ calls inductionHypothesis =>
      have ended :
          (type.ending instanceId index).returned =
            [(type.name, type.answer instanceId index)] := by
        unfold ending
        split <;> rfl
      have begun : (type.opening index).returned = [] :=
        rfl
      unfold Journal.returned at *
      rw [chronicle, List.filterMap_append, List.filterMap_append,
        inductionHypothesis, begun, ended, List.nil_append, List.range'_succ,
        List.map_cons, List.reverse_cons]

/-- The innermost handler is adopted first. -/
theorem head?_built
    (position : index + calls = type.reentries)
    (succeeds : type.failures ≤ type.reentries) :
    (type.built (calls + 1) index).head? = some (type.handler type.reentries) := by
  induction calls generalizing index with
  | zero =>
      have last : index = type.reentries := position
      subst last
      simp [built, Nat.not_lt.mpr succeeds]
  | succ calls inductionHypothesis =>
      have inner :
          (type.built (calls + 1) (index + 1)).head? =
            some (type.handler type.reentries) :=
        inductionHypothesis (by omega)
      rw [built, List.head?_append, inner]
      rfl

/--
Of a constructor that resolves its own name a number of times, all calls are
made, and the innermost construction alone can be published.  If that one fails,
so do all.  If it succeeds, its handler is what every call obtains whose own
construction succeeds, whereas those that fail are unresolved although the name
is cached; and it is what every later call obtains, from the cache.
-/
theorem innermost_wins
    (type : SelfReentry)
    (resolver : Resolver)
    {depth : Nat}
    {world : World}
    (named : type.name ≠ "")
    (unpublished : world.registry.cache.find? type.name = none)
    (binds : resolver.Binds world.directory type.name type.binding)
    (fresh : world.constructionsOf type.serial = 0)
    (deep : type.reentries < depth)
    (strict : Bool) :
    ∃ after,
      (Calls.nested resolver depth).resolve type.name strict world =
          some
            (if type.failures = 0 then
                .ok (some ⟨type.name, world.handlers.length⟩)
              else if strict then
                .error (.unresolved type.name)
              else
                .ok none,
              after) ∧
        after.directory =
          { world.directory with
            asked :=
              world.directory.asked ++
                List.replicate (type.reentries + 1) type.name } ∧
        (∃ happened : Journal,
          after.journal = world.journal ++ happened ∧
          happened = type.chronicle world.handlers.length (type.reentries + 1) 0 ∧
          happened.constructions =
            (List.range (type.reentries + 1)).map
              (fun number => (type.typeName, some number)) ∧
          happened.returned =
            ((List.range (type.reentries + 1)).map fun number =>
              (type.name,
                if number < type.failures then
                  none
                else
                  some ⟨type.name, world.handlers.length⟩)).reverse) ∧
        (type.reentries < type.failures →
          after.registry = world.registry) ∧
        (type.failures ≤ type.reentries →
          after.registry =
              (world.insert type.name ⟨type.name, world.handlers.length⟩).registry ∧
            after.handlers[world.handlers.length]? =
              some (type.handler type.reentries) ∧
            ∀ others limit history answers later,
              Operation.performAll (Calls.nested others limit) history after =
                  some (answers, later) →
              ∀ others limit strict,
                (Calls.nested others (limit + 1)).resolve type.name strict later =
                  some
                    (.ok (some ⟨type.name, world.handlers.length⟩),
                      ((later.record (.called type.name)).emit
                          (.cacheHit type.name)).record
                        (.returned type.name
                          (some ⟨type.name, world.handlers.length⟩)))) := by
  have position : 0 + type.reentries = type.reentries := Nat.zero_add _
  obtain ⟨after, resolved, effect⟩ :=
    resolve_nested named binds unpublished fresh position deep strict
  refine ⟨after, ?_, effect.directory, ⟨_, effect.journal, rfl, ?_, ?_⟩, ?_, ?_⟩
  · rw [resolved]
    by_cases succeeds : type.failures = 0
    · simp [answer, succeeds, Resolution.ofHandle?]
    · simp [answer, succeeds, Nat.pos_of_ne_zero succeeds, Resolution.ofHandle?]
  · rw [constructions_chronicle, List.range_eq_range']
  · rw [returned_chronicle, List.range_eq_range']
    rfl
  · intro fails
    rw [effect.registry, if_neg (by omega)]
  · intro succeeds
    have registry := effect.registry
    rw [if_pos ⟨Nat.succ_pos _, succeeds⟩] at registry
    refine ⟨registry, ?_, ?_⟩
    · rw [effect.handlers, List.getElem?_append_right (Nat.le_refl _), Nat.sub_self,
        ← List.head?_eq_getElem?]
      exact head?_built position succeeds
    · intro others limit history answers later performed nextOthers
        nextLimit nextStrict
      have cached :
          after.registry.cache.find? type.name =
            some ⟨type.name, world.handlers.length⟩ := by
        rw [registry, World.find?_insert, if_pos rfl]
      have grows :=
        World.Grows.stable.performAll
          (World.Grows.stable.nested others limit) history
          performed
      have cachedThen :
          (later.record (.called type.name)).registry.cache.find? type.name =
            some ⟨type.name, world.handlers.length⟩ :=
        grows.cached cached
      exact (Resolved.cached cachedThen).nested_eq nextStrict

/-- Three constructions, of which the outermost fails. -/
def ouroboros : SelfReentry where
  name := "ouroboros"
  typeName := "Ouroboros"
  serial := 0
  reentries := 2
  failures := 1
  strict := fun _ => true
  failure := fun _ => .single "bitten"
  handler := fun _ => .echo

/-- A world in which it is bound. -/
def bitten : World :=
  ((World.create .default).register "ouroboros"
    (.factory "Ouroboros" ouroboros.make)).2

/-- The outermost call is told that there is no handle, and yet there is one. -/
theorem ouroboros_innermost_wins :
    ∃ after,
      (Calls.nested .ofTable 3).resolve "ouroboros" true bitten =
        some (.error (.unresolved "ouroboros"), after) ∧
      after.directory.asked = ["ouroboros", "ouroboros", "ouroboros"] ∧
      after.registry.cache.find? "ouroboros" = some ⟨"ouroboros", 0⟩ := by
  obtain ⟨after, resolved, directory, _, _, succeeded⟩ :=
    @innermost_wins ouroboros .ofTable 3 bitten (by decide) rfl
      (Resolver.ofTable_binds rfl) rfl (Nat.lt_succ_self 2) true
  refine ⟨after, resolved, ?_, ?_⟩
  · rw [directory]
    rfl
  · rw [(succeeded (by decide)).1]
    rfl

end SelfReentry

end Dispatch
