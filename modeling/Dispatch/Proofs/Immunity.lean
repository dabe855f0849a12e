import Dispatch.Proofs.Numbering
import Dispatch.Proofs.PublishedNames

namespace Dispatch

/-!
# Immunity to the resolver

Once a name has a handle, the resolver has no say in it any more.  What is done
to its binding, or to the lookups of it, makes no difference to any answer, as
long as constructors and handlers do not themselves deal with the binding.

`Immune` relates the worlds of two runs that differ in what is done to the
binding of a published name.  Bindings of other names correspond in the two
worlds though their numbers may differ, as every operation on the binding of the
name may use up a number.
-/

/-- An operation on what is bound to a name, or on whether lookups of it fail. -/
def Operation.rebinds
    (name : String) : Operation → Bool
  | register other _ => other == name
  | unregister other => other == name
  | breakLookup other _ => other == name
  | healLookup other => other == name
  | _ => false

/-- Something other than binding a name or removing what is bound to it. -/
def Act.Spares
    (name : String)
    (act : Act) : Prop :=
  act ≠ .register name ∧ act ≠ .unregister name

namespace World

theorem constructionsOf_register
    (world : World)
    (name : String)
    (descriptor : Descriptor)
    (serial : Nat) :
    (world.register name descriptor).2.constructionsOf serial =
      world.constructionsOf serial := by
  change ((world.emit _).record _).constructionsOf serial = _
  simp [emit, constructionsOf_record, Journal.constructionsOf]

theorem requestsTo_register
    (world : World)
    (name : String)
    (descriptor : Descriptor)
    (instanceId : Nat) :
    (world.register name descriptor).2.requestsTo instanceId =
      world.requestsTo instanceId := by
  change ((world.emit _).record _).requestsTo instanceId = _
  simp [emit, requestsTo_record, Journal.requestsTo]

theorem constructionsOf_unregister
    (world : World)
    (name : String)
    (serial : Nat) :
    (world.unregister name).2.constructionsOf serial =
        world.constructionsOf serial := by
  change (world.record _).constructionsOf serial = _
  simp [constructionsOf_record, Journal.constructionsOf]

theorem requestsTo_unregister
    (world : World)
    (name : String)
    (instanceId : Nat) :
    (world.unregister name).2.requestsTo instanceId =
        world.requestsTo instanceId := by
  change (world.record _).requestsTo instanceId = _
  simp [requestsTo_record, Journal.requestsTo]

end World

/-! ## Resolvers that are rebound -/

/-- What a resolver offers for a name: a constructor, nothing, or a failure. -/
def Lookup.offered : Lookup → Except LookupFailure (Option Descriptor)
  | bound binding => .ok (some binding.descriptor)
  | unbound => .ok none
  | failed failure => .error failure

/--
A resolver over the type table that, on all names but one, answers from what is
bound to the name at hand and from whether lookups of it fail.
-/
structure Resolver.Apart
    (name : String)
    (resolver : Resolver) : Prop where
  tabular :
    resolver.Tabular
  offers :
    ∀ {first second : Directory} {other},
      other ≠ name →
      second.asked = first.asked →
      second.faults.find? other = first.faults.find? other →
      (second.table.find? other).map Binding.descriptor =
        (first.table.find? other).map Binding.descriptor →
      (resolver second other).offered = (resolver first other).offered

theorem Resolver.ofTable_apart
    (name : String) :
    Resolver.ofTable.Apart name where
  tabular := ofTable_tabular
  offers := by
    intro first second other _ _ _ descriptors
    have offered (directory : Directory) :
        (Resolver.ofTable directory other).offered =
          .ok ((directory.table.find? other).map Binding.descriptor) := by
      unfold Resolver.ofTable
      cases directory.table.find? other <;> rfl
    rw [offered, offered, descriptors]

/-- Arranged failures are told apart by their names. -/
theorem Resolver.Apart.withFaults
    {name : String}
    {resolver : Resolver}
    (apart : resolver.Apart name) :
    resolver.withFaults.Apart name where
  tabular := Resolver.Tabular.withFaults apart.tabular
  offers := by
    intro first second other different asked faults descriptors
    unfold Resolver.withFaults
    rw [faults]
    cases first.faults.find? other with
    | none => exact apart.offers different asked faults descriptors
    | some reason => rfl

/--
What two worlds bind to a name: nothing, or one constructor that spares another
name and has been run equally often.
-/
inductive Binding.Counterparts
    (name : String)
    (world twin : World) :
    Option Binding → Option Binding → Prop
  | unbound :
      Counterparts name world twin none none
  | bound {binding other : Binding}
      (descriptor : other.descriptor = binding.descriptor)
      (within : binding.descriptor.Within (Act.Spares name))
      (counted :
        twin.constructionsOf other.serial = world.constructionsOf binding.serial) :
      Counterparts name world twin (some binding) (some other)

namespace Binding.Counterparts

variable
  {name : String}
  {world twin : World}
  {binding other : Option Binding}

theorem descriptors
    (counterparts : Counterparts name world twin binding other) :
    other.map Binding.descriptor = binding.map Binding.descriptor := by
  cases counterparts with
  | unbound => rfl
  | bound descriptor _ _ => exact congrArg some descriptor

theorem summaries
    (counterparts : Counterparts name world twin binding other) :
    other.map Binding.summary = binding.map Binding.summary := by
  cases counterparts with
  | unbound => rfl
  | bound descriptor _ _ => exact congrArg (some ·.summary) descriptor

theorem of_none
    (counterparts : Counterparts name world twin none other) :
    other = none := by
  cases counterparts
  rfl

theorem of_some
    {bound : Binding}
    (counterparts : Counterparts name world twin (some bound) other) :
    ∃ twinBound,
      other = some twinBound ∧
        twinBound.descriptor = bound.descriptor ∧
        bound.descriptor.Within (Act.Spares name) ∧
        twin.constructionsOf twinBound.serial =
            world.constructionsOf bound.serial := by
  cases counterparts with
  | bound descriptor within counted =>
      exact ⟨_, rfl, descriptor, within, counted⟩

/-- Counterparts remain so where constructions are counted as before. -/
theorem carry
    (counterparts : Counterparts name world twin binding other)
    {after twinAfter : World}
    (counted :
      ∀ serial, after.constructionsOf serial = world.constructionsOf serial)
    (twinCounted :
      ∀ serial, twinAfter.constructionsOf serial = twin.constructionsOf serial) :
    Counterparts name after twinAfter binding other := by
  cases counterparts with
  | unbound =>
      exact .unbound
  | bound descriptor within same =>
      refine .bound descriptor within ?_
      rw [counted, twinCounted, same]

end Binding.Counterparts

/--
The worlds of two runs that differ in what is done to the binding of a published
name, and to the lookups of it.
-/
structure Immune
    (name : String)
    (handle : Handle)
    (start world twin : World) : Prop where
  later :
    start.journal <+: world.journal
  cached :
    world.registry.cache.find? name = some handle
  registry :
    twin.registry = world.registry
  handlers :
    twin.handlers = world.handlers
  requests :
    ∀ instanceId, twin.requestsTo instanceId = world.requestsTo instanceId
  asked :
    twin.directory.asked = world.directory.asked
  faults :
    ∀ {other},
      other ≠ name →
      twin.directory.faults.find? other = world.directory.faults.find? other
  bindings :
    ∀ {other},
      other ≠ name →
      Binding.Counterparts name world twin
        (world.directory.table.find? other) (twin.directory.table.find? other)
  numbered :
    world.Numbered
  twinNumbered :
    twin.Numbered

namespace Immune

variable
  {name : String}
  {handle : Handle}
  {start world twin : World}

/-- An entry on no construction may be made in both runs. -/
theorem record
    (twins : Immune name handle start world twin)
    {entry : Entry}
    (aside : entry.isConstruction = false) :
    Immune name handle start (world.record entry) (twin.record entry) :=
  { twins with
    later := twins.later.trans (World.Grows.record world entry).journal
    requests := by
      intro instanceId
      rw [World.requestsTo_record, World.requestsTo_record, twins.requests]
    bindings := fun different =>
      (twins.bindings different).carry
        (fun serial => by
          rw [World.constructionsOf_record, Entry.constructionsOf_eq_zero aside,
            Nat.add_zero])
        (fun serial => by
          rw [World.constructionsOf_record, Entry.constructionsOf_eq_zero aside,
            Nat.add_zero])
    numbered := twins.numbered.record aside
    twinNumbered := twins.twinNumbered.record aside }

theorem ask
    (twins : Immune name handle start world twin)
    (other : String) :
    Immune name handle start (world.ask other) (twin.ask other) :=
  { twins with
    asked := congrArg (· ++ [other]) twins.asked
    bindings := fun different =>
      (twins.bindings different).carry (fun _ => rfl) fun _ => rfl
    numbered := twins.numbered.of_eq rfl rfl fun _ => rfl
    twinNumbered := twins.twinNumbered.of_eq rfl rfl fun _ => rfl }

theorem adopt
    (twins : Immune name handle start world twin)
    (handler : Handler) :
    Immune name handle start (world.adopt handler).2 (twin.adopt handler).2 :=
  { twins with
    handlers := congrArg (· ++ [handler]) twins.handlers
    bindings := fun different =>
      (twins.bindings different).carry (fun _ => rfl) fun _ => rfl
    numbered := twins.numbered.of_eq rfl rfl fun _ => rfl
    twinNumbered := twins.twinNumbered.of_eq rfl rfl fun _ => rfl }

theorem insert
    (twins : Immune name handle start world twin)
    {other : String}
    (different : other ≠ name)
    (found : Handle) :
    Immune name handle start (world.insert other found) (twin.insert other found) :=
  { twins with
    cached := by
      rw [World.find?_insert, if_neg (Ne.symm different)]
      exact twins.cached
    registry := by
      simp [World.insert, twins.registry]
    bindings := fun different =>
      (twins.bindings different).carry (fun _ => rfl) fun _ => rfl
    numbered := twins.numbered.of_eq rfl rfl fun _ => rfl
    twinNumbered := twins.twinNumbered.of_eq rfl rfl fun _ => rfl }

/-- A constructor that spares the name may be bound in both runs. -/
theorem register
    (twins : Immune name handle start world twin)
    (other : String)
    {descriptor : Descriptor}
    (within : descriptor.Within (Act.Spares name)) :
    Immune name handle start (world.register other descriptor).2
      (twin.register other descriptor).2 :=
  { twins with
    later := twins.later.trans (World.Grows.register world other descriptor).journal
    requests := by
      intro instanceId
      rw [World.requestsTo_register, World.requestsTo_register, twins.requests]
    bindings := by
      intro second secondDifferent
      change Binding.Counterparts name _ _
        ((world.directory.table.set other _).find? second)
        ((twin.directory.table.set other _).find? second)
      rw [Table.find?_set, Table.find?_set]
      by_cases same : second = other
      · rw [if_pos same, if_pos same]
        refine .bound rfl within ?_
        rw [World.constructionsOf_register, World.constructionsOf_register,
          twins.numbered.unused (Nat.le_refl _),
            twins.twinNumbered.unused (Nat.le_refl _)]
      · rw [if_neg same, if_neg same]
        exact (twins.bindings secondDifferent).carry
          (World.constructionsOf_register world other descriptor)
          (World.constructionsOf_register twin other descriptor)
    numbered := twins.numbered.register other descriptor
    twinNumbered := twins.twinNumbered.register other descriptor }

/-- What is bound may be removed in both runs. -/
theorem unregister
    (twins : Immune name handle start world twin)
    (other : String) :
    Immune name handle start (world.unregister other).2 (twin.unregister other).2 :=
  { twins with
    later := twins.later.trans (World.Grows.unregister world other).journal
    requests := by
      intro instanceId
      rw [World.requestsTo_unregister, World.requestsTo_unregister, twins.requests]
    bindings := by
      intro second secondDifferent
      change Binding.Counterparts name _ _
        ((world.directory.table.erase other).find? second)
        ((twin.directory.table.erase other).find? second)
      rw [Table.find?_erase, Table.find?_erase]
      by_cases same : second = other
      · rw [if_pos same, if_pos same]
        exact .unbound
      · rw [if_neg same, if_neg same]
        exact (twins.bindings secondDifferent).carry
          (World.constructionsOf_unregister world other)
          (World.constructionsOf_unregister twin other)
    numbered := twins.numbered.unregister other
    twinNumbered := twins.twinNumbered.unregister other }

/-- The constructor that is bound to a name in both runs may be started in both. -/
theorem constructing
    (twins : Immune name handle start world twin)
    {other : String}
    {binding counterpart : Binding}
    (found : world.directory.table.find? other = some binding)
    (twinFound : twin.directory.table.find? other = some counterpart)
    (typeName : String)
    (index : Option Nat) :
    Immune name handle start
      (world.record (.constructing binding.serial typeName index))
      (twin.record (.constructing counterpart.serial typeName index)) :=
  { twins with
    later := twins.later.trans (World.Grows.record world _).journal
    requests := by
      intro instanceId
      rw [World.requestsTo_record, World.requestsTo_record, twins.requests]
      rfl
    bindings := by
      intro second secondDifferent
      have counterparts := twins.bindings secondDifferent
      change Binding.Counterparts name _ _
        (world.directory.table.find? second) (twin.directory.table.find? second)
      cases isFound : world.directory.table.find? second with
      | none =>
          rw [isFound] at counterparts
          rw [counterparts.of_none]
          exact .unbound
      | some bound =>
          rw [isFound] at counterparts
          obtain ⟨twinBound, twinIsFound, descriptor, within, counted⟩ :=
            counterparts.of_some
          rw [twinIsFound]
          refine .bound descriptor within ?_
          -- The two names share their numbers in both worlds or in none.
          have shared :
              counterpart.serial = twinBound.serial ↔
                  binding.serial = bound.serial := by
            constructor
            · intro same
              obtain rfl := twins.twinNumbered.distinct twinFound twinIsFound same
              cases found.symm.trans isFound
              rfl
            · intro same
              obtain rfl := twins.numbered.distinct found isFound same
              cases twinFound.symm.trans twinIsFound
              rfl
          rw [World.constructionsOf_record, World.constructionsOf_record, counted]
          simp [Journal.constructionsOf, shared]
    numbered :=
      twins.numbered.constructing (twins.numbered.bounded found) typeName index
    twinNumbered :=
      twins.twinNumbered.constructing (twins.twinNumbered.bounded twinFound) typeName
        index }

theorem lockstep
    (name : String)
    (handle : Handle)
    (start : World) :
    Lockstep (Act.Spares name) start (Immune name handle start) where
  later twins := twins.later
  cache twins := by rw [twins.registry]
  handlers twins := twins.handlers
  requests twins := twins.requests
  settings twins _ := by rw [twins.registry]
  recorded twins _ aside := twins.record aside
  asked twins := twins.ask
  adopted twins := twins.adopt
  registered := by
    intro world twin twins other descriptor permitted within
    have different : other ≠ name := by
      rintro rfl
      exact permitted.1 rfl
    exact ⟨(twins.bindings different).summaries, twins.register other within⟩
  unregistered := by
    intro world twin twins other permitted
    have different : other ≠ name := by
      rintro rfl
      exact permitted.2 rfl
    exact ⟨(twins.bindings different).summaries, twins.unregister other⟩

/-- On all other names the resolver answers alike. -/
theorem alike
    {resolver : Resolver}
    (apart : resolver.Apart name)
    {other : String}
    (different : other ≠ name) :
    resolver.Alike (Act.Spares name) (Immune name handle start) resolver other where
  inserted twins := twins.insert different
  answers := by
    intro world twin twins
    have counterparts := twins.bindings different
    have offers :=
      apart.offers different twins.asked (twins.faults different)
        counterparts.descriptors
    cases answer : resolver world.directory other with
    | unbound =>
        cases twinAnswer : resolver twin.directory other <;>
          simp only [answer, twinAnswer, Lookup.offered] at offers
        · cases offers
        · exact .unbound
        · cases offers
    | failed failure =>
        cases twinAnswer : resolver twin.directory other <;>
          simp only [answer, twinAnswer, Lookup.offered] at offers
        · cases offers
        · cases offers
        · cases offers
          exact .failed
    | bound binding =>
        cases twinAnswer : resolver twin.directory other with
        | unbound =>
            simp only [answer, twinAnswer, Lookup.offered] at offers
            cases offers
        | failed failure =>
            simp only [answer, twinAnswer, Lookup.offered] at offers
            cases offers
        | bound counterpart =>
            have found := apart.tabular answer
            have twinFound := apart.tabular twinAnswer
            rw [found, twinFound] at counterparts
            cases counterparts with
            | bound descriptor within counted =>
                exact .bound
                  { descriptor := descriptor
                    within := within
                    counted := counted
                    started := (twins.ask other).constructing found twinFound }

/-- Calls in such worlds are in step, however deep they nest. -/
theorem nested
    {resolver : Resolver}
    (apart : resolver.Apart name)
    (depth : Nat) :
    (Calls.nested resolver depth).InStep (start.ServedWithin (Act.Spares name))
      (Immune name handle start) (Calls.nested resolver depth) := by
  refine (lockstep name handle start).nested ?_ depth
  intro calls others inStep other strict
  by_cases same : other = name
  · subst same
    intro world twin answer after twins _ finished
    have twinCached : twin.registry.cache.find? other = some handle := by
      rw [twins.registry]
      exact twins.cached
    rw [resolveWith_of_cached twins.cached] at finished
    cases finished
    exact ⟨_, resolveWith_of_cached twinCached _ _ _,
      ((twins.record rfl).record rfl).record rfl⟩
  · exact (lockstep name handle start).resolveWith inStep (alike apart same) strict

/--
Failures of lookups of another name may be arranged in both runs, or not any more.
-/
theorem refault
    (twins : Immune name handle start world twin)
    (change : Table String → Table String)
    (alike :
      ∀ {first second : Table String} {other},
        second.find? other = first.find? other →
        (change second).find? other = (change first).find? other) :
    Immune name handle start
      { world with
        directory :=
          { world.directory with faults := change world.directory.faults } }
      { twin with
        directory :=
          { twin.directory with faults := change twin.directory.faults } } :=
  { twins with
    faults := fun different => alike (twins.faults different)
    bindings := fun different =>
      (twins.bindings different).carry (fun _ => rfl) fun _ => rfl
    numbered := twins.numbered.of_eq rfl rfl fun _ => rfl
    twinNumbered := twins.twinNumbered.of_eq rfl rfl fun _ => rfl }

/-- An operation that does not rebind the name may be performed in both runs. -/
theorem perform
    {resolver : Resolver}
    (apart : resolver.Apart name)
    {depth : Nat}
    {operation : Operation}
    {answer : Answer}
    {after : World}
    (twins : Immune name handle start world twin)
    (supplied :
      ∀ {other descriptor},
        operation = .register other descriptor → descriptor.Within (Act.Spares name))
    (served : start.ServedWithin (Act.Spares name) after)
    (performed :
      operation.perform (Calls.nested resolver depth) world = some (answer, after)) :
    ∃ twinAnswer twinAfter,
      operation.perform (Calls.nested resolver depth) twin =
          some (twinAnswer, twinAfter) ∧
        Immune name handle start after twinAfter ∧
        (operation.isCall = true → twinAnswer = answer) := by
  by_cases isCall : operation.isCall = true
  · obtain ⟨twinAfter, twinPerformed, afters⟩ :=
      (lockstep name handle start).perform (nested apart depth) ⟨nofun, nofun⟩ isCall
        twins served performed
    exact ⟨answer, twinAfter, twinPerformed, afters, fun _ => rfl⟩
  · cases operation with
    | register other descriptor =>
        cases performed
        exact ⟨_, _, rfl, twins.register other (supplied rfl), fun call =>
          nomatch call⟩
    | unregister other =>
        cases performed
        exact ⟨_, _, rfl, twins.unregister other, fun call => nomatch call⟩
    | breakLookup other reason =>
        cases performed
        refine ⟨_, _, rfl, twins.refault (·.set other reason) ?_,
          fun call => nomatch call⟩
        intro first second third same
        rw [Table.find?_set, Table.find?_set, same]
    | healLookup other =>
        cases performed
        refine ⟨_, _, rfl, twins.refault (·.erase other) ?_,
          fun call => nomatch call⟩
        intro first second third same
        rw [Table.find?_erase, Table.find?_erase, same]
    | _ =>
        exact absurd rfl isCall

end Immune

/-! ## Operations on the binding -/

/--
Two worlds between which only the binding of a name, or lookups of it, were changed.
-/
structure World.Rebound
    (name : String)
    (before after : World) : Prop where
  registry :
    after.registry = before.registry
  handlers :
    after.handlers = before.handlers
  asked :
    after.directory.asked = before.directory.asked
  requests :
    ∀ instanceId, after.requestsTo instanceId = before.requestsTo instanceId
  counted :
    ∀ serial, after.constructionsOf serial = before.constructionsOf serial
  faults :
    ∀ {other},
      other ≠ name →
      after.directory.faults.find? other = before.directory.faults.find? other
  table :
    ∀ {other},
      other ≠ name →
      after.directory.table.find? other = before.directory.table.find? other
  numbered :
    before.Numbered → after.Numbered
  journal :
    before.journal <+: after.journal

/-- An operation on a binding always ends, and changes nothing else. -/
theorem Operation.rebound
    {name : String}
    {operation : Operation}
    (rebinds : operation.rebinds name = true)
    (calls : Calls)
    (world : World) :
    ∃ answer after,
      operation.perform calls world = some (answer, after) ∧
        world.Rebound name after := by
  cases operation with
  | register other descriptor =>
      obtain rfl : other = name := by simpa [Operation.rebinds] using rebinds
      exact ⟨_, _, rfl,
        { registry := rfl
          handlers := rfl
          asked := rfl
          requests := World.requestsTo_register world other descriptor
          counted := World.constructionsOf_register world other descriptor
          faults := fun _ => rfl
          table := fun different => by
            change (world.directory.table.set other _).find? _ = _
            rw [Table.find?_set, if_neg different]
          numbered := fun numbered => numbered.register other descriptor
          journal := (World.Grows.register world other descriptor).journal }⟩
  | unregister other =>
      obtain rfl : other = name := by simpa [Operation.rebinds] using rebinds
      exact ⟨_, _, rfl,
        { registry := rfl
          handlers := rfl
          asked := rfl
          requests := World.requestsTo_unregister world other
          counted := World.constructionsOf_unregister world other
          faults := fun _ => rfl
          table := fun different => by
            change (world.directory.table.erase other).find? _ = _
            rw [Table.find?_erase, if_neg different]
          numbered := fun numbered => numbered.unregister other
          journal := (World.Grows.unregister world other).journal }⟩
  | breakLookup other reason =>
      obtain rfl : other = name := by simpa [Operation.rebinds] using rebinds
      exact ⟨_, _, rfl,
        { registry := rfl
          handlers := rfl
          asked := rfl
          requests := fun _ => rfl
          counted := fun _ => rfl
          faults := fun different => by
            change (world.directory.faults.set other reason).find? _ = _
            rw [Table.find?_set, if_neg different]
          table := fun _ => rfl
          numbered := fun numbered => numbered.of_eq rfl rfl fun _ => rfl
          journal := List.prefix_rfl }⟩
  | healLookup other =>
      obtain rfl : other = name := by simpa [Operation.rebinds] using rebinds
      exact ⟨_, _, rfl,
        { registry := rfl
          handlers := rfl
          asked := rfl
          requests := fun _ => rfl
          counted := fun _ => rfl
          faults := fun different => by
            change (world.directory.faults.erase other).find? _ = _
            rw [Table.find?_erase, if_neg different]
          table := fun _ => rfl
          numbered := fun numbered => numbered.of_eq rfl rfl fun _ => rfl
          journal := List.prefix_rfl }⟩
  | _ =>
      cases rebinds

namespace Immune

variable
  {name : String}
  {handle : Handle}
  {start world twin : World}

/-- The first run may rebind the name. -/
theorem rebindFirst
    (twins : Immune name handle start world twin)
    {after : World}
    (rebound : world.Rebound name after) :
    Immune name handle start after twin where
  later := twins.later.trans rebound.journal
  cached := by
    rw [rebound.registry]
    exact twins.cached
  registry := twins.registry.trans rebound.registry.symm
  handlers := twins.handlers.trans rebound.handlers.symm
  requests instanceId :=
    (twins.requests instanceId).trans (rebound.requests instanceId).symm
  asked := twins.asked.trans rebound.asked.symm
  faults different := (twins.faults different).trans (rebound.faults different).symm
  bindings different := by
    rw [rebound.table different]
    exact (twins.bindings different).carry rebound.counted fun _ => rfl
  numbered := rebound.numbered twins.numbered
  twinNumbered := twins.twinNumbered

/-- So may the second one. -/
theorem rebindSecond
    (twins : Immune name handle start world twin)
    {after : World}
    (rebound : twin.Rebound name after) :
    Immune name handle start world after where
  later := twins.later
  cached := twins.cached
  registry := rebound.registry.trans twins.registry
  handlers := rebound.handlers.trans twins.handlers
  requests instanceId :=
    (rebound.requests instanceId).trans (twins.requests instanceId)
  asked := rebound.asked.trans twins.asked
  faults different := (rebound.faults different).trans (twins.faults different)
  bindings different := by
    rw [rebound.table different]
    exact (twins.bindings different).carry (fun _ => rfl) rebound.counted
  numbered := twins.numbered
  twinNumbered := rebound.numbered twins.twinNumbered

end Immune

/-! ## Histories -/

/-- Two histories that differ only in operations on the binding of a name. -/
inductive SameButFor
    (name : String) :
    List Operation → List Operation → Prop
  | nil :
      SameButFor name [] []
  | both {operation : Operation} {first second : List Operation}
      (spares : operation.rebinds name = false)
      (rest : SameButFor name first second) :
      SameButFor name (operation :: first) (operation :: second)
  | first {operation : Operation} {first second : List Operation}
      (rebinds : operation.rebinds name = true)
      (rest : SameButFor name first second) :
      SameButFor name (operation :: first) second
  | second {operation : Operation} {first second : List Operation}
      (rebinds : operation.rebinds name = true)
      (rest : SameButFor name first second) :
      SameButFor name first (operation :: second)

/-- Histories without such operations that are equal differ only in these. -/
theorem SameButFor.of_filter
    {name : String}
    {first second : List Operation}
    (same :
      first.filter (fun operation => !operation.rebinds name) =
        second.filter fun operation => !operation.rebinds name) :
    SameButFor name first second := by
  induction first generalizing second with
  | nil =>
      induction second with
      | nil =>
          exact .nil
      | cons operation rest inductionHypothesis =>
          cases rebinds : operation.rebinds name with
          | true =>
              refine .second rebinds (inductionHypothesis ?_)
              simpa [rebinds] using same
          | false =>
              simp [rebinds] at same
  | cons operation rest inductionHypothesis =>
      cases rebinds : operation.rebinds name with
      | true =>
          refine .first rebinds (inductionHypothesis ?_)
          simpa [rebinds] using same
      | false =>
          induction second with
          | nil =>
              simp [rebinds] at same
          | cons other others otherHypothesis =>
              cases otherRebinds : other.rebinds name with
              | true =>
                  refine .second otherRebinds (otherHypothesis ?_)
                  simpa [rebinds, otherRebinds] using same
              | false =>
                  simp only [List.filter_cons, rebinds, otherRebinds, Bool.not_false,
                    if_true, List.cons.injEq] at same
                  obtain ⟨rfl, sameRest⟩ := same
                  exact .both rebinds (inductionHypothesis sameRest)

/-- The calls of a history with their answers. -/
def callsAnswered
    (history : List Operation)
    (answers : List Answer) : List (Operation × Answer) :=
  (history.zip answers).filter fun answered => answered.1.isCall

/-- What rebinds a name is no call. -/
theorem Operation.not_isCall_of_rebinds
    {name : String}
    {operation : Operation}
    (rebinds : operation.rebinds name = true) :
    operation.isCall = false := by
  cases operation <;> first | rfl | cases rebinds

/-- Operations on the binding of a published name change no answer of a call. -/
theorem Immune.performAll
    {name : String}
    {handle : Handle}
    {start world twin after : World}
    {resolver : Resolver}
    (apart : resolver.Apart name)
    {depth : Nat}
    {first second : List Operation}
    {answers : List Answer}
    (same : SameButFor name first second)
    (twins : Immune name handle start world twin)
    (supplied :
      ∀ {other descriptor},
        .register other descriptor ∈ first →
        other ≠ name →
        descriptor.Within (Act.Spares name))
    (served : start.ServedWithin (Act.Spares name) after)
    (performed :
      Operation.performAll (Calls.nested resolver depth) first world =
        some (answers, after)) :
    ∃ twinAnswers twinAfter,
      Operation.performAll (Calls.nested resolver depth) second twin =
          some (twinAnswers, twinAfter) ∧
        callsAnswered second twinAnswers = callsAnswered first answers := by
  induction same generalizing world twin answers with
  | nil =>
      cases performed
      exact ⟨[], twin, rfl, rfl⟩
  | @both operation first second spares _ inductionHypothesis =>
      obtain ⟨answer, middle, others, performedFirst, performedRest, rfl⟩ :=
        Operation.performAll_cons_eq_some_iff.mp performed
      have grows : middle.Grows after :=
        World.Grows.stable.performAll (World.Grows.stable.nested resolver depth) _
          performedRest
      have suppliedHere {other : String} {descriptor : Descriptor}
          (isRegister : operation = .register other descriptor) :
          descriptor.Within (Act.Spares name) := by
        subst isRegister
        refine supplied List.mem_cons_self ?_
        simpa [Operation.rebinds] using spares
      obtain ⟨twinAnswer, twinMiddle, twinPerformed, middles, answered⟩ :=
        twins.perform apart suppliedHere (served.earlier grows) performedFirst
      obtain ⟨twinAnswers, twinAfter, twinPerformedRest, answeredRest⟩ :=
        inductionHypothesis middles
          (fun member => supplied (List.mem_cons_of_mem _ member)) performedRest
      refine ⟨twinAnswer :: twinAnswers, twinAfter,
        Operation.performAll_cons_eq_some_iff.mpr
          ⟨_, _, _, twinPerformed, twinPerformedRest, rfl⟩, ?_⟩
      unfold callsAnswered at answeredRest ⊢
      rw [List.zip_cons_cons, List.zip_cons_cons, List.filter_cons, List.filter_cons,
        answeredRest]
      by_cases isCall : operation.isCall = true
      · rw [if_pos isCall, if_pos isCall, answered isCall]
      · rw [if_neg isCall, if_neg isCall]
  | @first operation first second rebinds _ inductionHypothesis =>
      obtain ⟨answer, middle, others, performedFirst, performedRest, rfl⟩ :=
        Operation.performAll_cons_eq_some_iff.mp performed
      obtain ⟨_, _, isPerformed, rebound⟩ :=
        Operation.rebound rebinds (Calls.nested resolver depth) world
      cases performedFirst.symm.trans isPerformed
      obtain ⟨twinAnswers, twinAfter, twinPerformed, answered⟩ :=
        inductionHypothesis (twins.rebindFirst rebound)
          (fun member => supplied (List.mem_cons_of_mem _ member)) performedRest
      refine ⟨twinAnswers, twinAfter, twinPerformed, ?_⟩
      rw [answered]
      simp [callsAnswered, Operation.not_isCall_of_rebinds rebinds]
  | @second operation first second rebinds _ inductionHypothesis =>
      obtain ⟨answer, middle, isPerformed, rebound⟩ :=
        Operation.rebound rebinds (Calls.nested resolver depth) twin
      obtain ⟨twinAnswers, twinAfter, twinPerformed, answered⟩ :=
        inductionHypothesis (twins.rebindSecond rebound) supplied performed
      refine ⟨answer :: twinAnswers, twinAfter,
        Operation.performAll_cons_eq_some_iff.mpr
          ⟨_, _, _, isPerformed, twinPerformed, rfl⟩, ?_⟩
      rw [← answered]
      simp [callsAnswered, Operation.not_isCall_of_rebinds rebinds]

/--
A published name is immune to the resolver.  Take two histories that go on from a
world in which the name has a handle, and that differ only in operations on the
binding of the name and on lookups of it.  If constructors and handlers leave
that binding alone, the calls of both are answered alike, those for the name by
its handle; in neither is the name looked up or anything built for it; and a
resolve call for the name changes neither cache nor bindings nor any count of
constructions.
-/
theorem published_immune
    {resolver : Resolver}
    {name : String}
    (apart : resolver.Apart name)
    {settings : Settings}
    {reach : Nat}
    {past : List Operation}
    {earlier : List Answer}
    {start : World}
    (reached :
      Operation.performAll (Calls.nested resolver reach) past
        (World.create settings) =
        some (earlier, start))
    {handle : Handle}
    (cached : start.registry.cache.find? name = some handle)
    (boundWithin :
      ∀ {other binding},
        other ≠ name →
        start.directory.table.find? other = some binding →
        binding.descriptor.Within (Act.Spares name))
    {first second : List Operation}
    (same :
      first.filter (fun operation => !operation.rebinds name) =
        second.filter fun operation => !operation.rebinds name)
    (suppliedWithin :
      ∀ {other descriptor},
        .register other descriptor ∈ first →
        other ≠ name →
        descriptor.Within (Act.Spares name))
    {depth : Nat}
    {answers : List Answer}
    {after : World}
    (performed :
      Operation.performAll (Calls.nested resolver depth) first start =
        some (answers, after))
    (servedWithin : start.ServedWithin (Act.Spares name) after) :
    (∃ twinAnswers twinAfter,
      Operation.performAll (Calls.nested resolver depth) second start =
          some (twinAnswers, twinAfter) ∧
        callsAnswered second twinAnswers = callsAnswered first answers ∧
        start.LeavesAlone name after ∧
        start.LeavesAlone name twinAfter) ∧
    (∀ operation answer,
      (operation, answer) ∈ callsAnswered first answers →
      operation.resolves? = some name →
      answer.handle? = some handle ∨ ∃ locator base, operation = .get locator base) ∧
    ∀ world, start.Grows world →
      ∀ depth strict, ∃ ended,
        (Calls.nested resolver (depth + 1)).resolve name strict world =
            some (.ok (some handle), ended) ∧
          ended.registry = world.registry ∧
          ended.directory = world.directory ∧
          ended.handlers = world.handlers ∧
          ∀ serial, ended.constructionsOf serial = world.constructionsOf serial := by
  have rests (history : List Operation) :
      (Operation.performAll (Calls.nested resolver depth) history).Keeps
        (World.Rests name) :=
    (World.Rests.stable name).performAll
      ((World.Rests.stable name).nested resolver depth)
      history
  have numbered : start.Numbered :=
    (World.Numbered.create settings).performAll apart.tabular reached
  have twins : Immune name handle start start start :=
    { later := List.prefix_rfl
      cached := cached
      registry := rfl
      handlers := rfl
      requests := fun _ => rfl
      asked := rfl
      faults := fun _ => rfl
      bindings := by
        intro other different
        cases found : start.directory.table.find? other with
        | none => exact .unbound
        | some binding => exact .bound rfl (boundWithin different found) rfl
      numbered := numbered
      twinNumbered := numbered }
  refine ⟨?_, ?_, ?_⟩
  · obtain ⟨twinAnswers, twinAfter, twinPerformed, answered⟩ :=
      Immune.performAll apart (.of_filter same) twins suppliedWithin
        servedWithin performed
    exact ⟨twinAnswers, twinAfter, twinPerformed, answered,
      (rests first performed).alone cached,
        (rests second twinPerformed).alone cached⟩
  · intro operation answer member resolves
    exact Operation.handle?_of_performAll cached performed
      (List.mem_filter.mp member).1
      resolves
  · intro world grows depth strict
    refine ⟨_, resolveWith_of_cached (grows.cached cached) _ _ _, rfl, rfl, rfl, ?_⟩
    intro serial
    simp [World.emit, World.constructionsOf_record, Journal.constructionsOf]

/--
A name that is published, and one that is bound to a constructor which forwards to
it.
-/
def settlement : List Operation :=
  [.register "inner" (.plain "Inner" .echo),
    .register "outer" (.factory "Outer" fun _ => .forwardingTo "inner" true),
    .resolve "inner" true]

/-- Calls for both. -/
def errands : List Operation :=
  [.resolveStrict "inner", .find "outer", .get ⟨some "outer", "x"⟩ none]

/--
The same calls, while the name is unbound, lookups of it are made to fail, and it is
bound anew.
-/
def siege : List Operation :=
  [.unregister "inner", .resolveStrict "inner", .breakLookup "inner" "gone",
    .find "outer",
    .register "inner" (.plain "Other" .shout), .get ⟨some "outer", "x"⟩ none]

/-- Forwarding leaves all bindings alone. -/
theorem Handler.forwarding_within
    {permits : Act → Prop}
    (handle : Handle) :
    (Handler.forwarding handle).Within permits := by
  intro earlier request
  refine .call fun outcome => ?_
  cases outcome with
  | error failure => exact .fail
  | ok value => exact .answer

/-- So does what obtains a handler to forward to. -/
theorem Script.forwardingTo_within
    {permits : Act → Prop}
    (name : String)
    (strict : Bool) :
    (Script.forwardingTo name strict).Within permits := by
  cases strict with
  | true =>
      refine .resolve fun answer => ?_
      match answer with
      | .ok (some handle) => exact .build
      | .ok none => exact .fail
      | .error error => exact .fail
  | false =>
      refine .resolve fun answer => ?_
      match answer with
      | .ok (some handle) => exact .build
      | .ok none => exact .fail
      | .error error => exact .fail

/-- The calls are answered during the siege as they are without it. -/
theorem settlement_immune :
    ∃ earlier start,
      Operation.performAll (Calls.nested (.withFaults .ofTable) 3) settlement
          (World.create .default) =
        some (earlier, start) ∧
      start.registry.cache.find? "inner" = some ⟨"inner", 0⟩ ∧
      ∃ answers after,
        Operation.performAll (Calls.nested (.withFaults .ofTable) 3) siege start =
          some (answers, after) ∧
        callsAnswered siege answers =
          [(.resolveStrict "inner", .required (.ok ⟨"inner", 0⟩)),
            (.find "outer", .resolution (.ok (some ⟨"outer", 1⟩))),
            (.get ⟨some "outer", "x"⟩ none,
              .value (.ok (.object
                [("handler", .string "echo"), ("scheme", .string "outer"),
                  ("body", .string "x"), ("has_base", .boolean false),
                  ("base", .null)])))] ∧
        start.LeavesAlone "inner" after := by
  have apart : (Resolver.withFaults .ofTable).Apart "inner" :=
    (Resolver.ofTable_apart "inner").withFaults
  refine ⟨_, _, rfl, rfl, ?_⟩
  have whole :=
    @published_immune (.withFaults .ofTable) "inner" apart .default 3 settlement
    _ _ rfl ⟨"inner", 0⟩ rfl ?_ errands siege rfl ?_ 3 _ _ rfl ?_
  · obtain ⟨⟨answers, after, performed, answered, -, alone⟩, -⟩ := whole
    exact ⟨answers, after, performed, answered, alone⟩
  · intro other binding different found
    change ((Table.empty.set "inner" _).set "outer" _).find? other = _ at found
    rw [Table.find?_set, Table.find?_set, if_neg different] at found
    by_cases isOuter : other = "outer"
    · rw [if_pos isOuter] at found
      cases found
      exact .factory fun _ => Script.forwardingTo_within "inner" true
    · rw [if_neg isOuter] at found
      cases found
  · intro other descriptor member
    simp [errands] at member
  · intro instanceId request handler _ known
    have member : handler ∈ [Handler.echo, Handler.forwarding ⟨"inner", 0⟩] :=
      List.mem_of_getElem? known
    rcases List.mem_cons.mp member with rfl | rest
    · exact fun _ _ => .answer
    · rw [List.mem_singleton.mp rest]
      exact Handler.forwarding_within _

end Dispatch
