import Dispatch.Handler.Stock
import Dispatch.Proofs.Lockstep

namespace Dispatch

/-!
# Why there is no handler

A name can be left without a handler for many reasons: nothing is bound to it,
the resolver fails, the type is abstract, its constructor fails.  Two registries
over resolvers that bind the same names to the same constructors, and that leave
all others without a handler for whatever reasons, cannot be told apart by what
they answer.
-/

/--
A script that does nothing and fails; it may read the settings and leave remarks.
-/
inductive Script.Futile : Script .construct → Prop
  | fail {failure : Failure} :
      Script.Futile (.fail failure)
  | readSettings {next : Settings → Script .construct}
      (goesOn : ∀ settings, Script.Futile (next settings)) :
      Script.Futile (.readSettings next)
  | note {remark : Note} {next : Script .construct}
      (goesOn : Script.Futile next) :
      Script.Futile (.note remark next)

/-- A type without a constructor, or with one that does nothing and fails. -/
inductive Descriptor.Futile : Descriptor → Prop
  | abstract {typeName : String} :
      Descriptor.Futile (.abstract typeName)
  | factory {typeName : String} {make : Nat → Script .construct}
      (fails : ∀ index, (make index).Futile) :
      Descriptor.Futile (.factory typeName make)

/--
A resolver over a directory, with the names that it offers and what it binds
them to.  Constructors of what is offered leave the bindings alone.  On any other
name the resolver answers nothing, fails, or answers a type of which nothing can
be built, registered apart from what is offered.
-/
structure Offering where
  resolver : Resolver
  directory : Directory
  offered : String → Option Binding
  bound :
    ∀ {name binding},
      offered name = some binding → resolver.Binds directory name binding
  leavesBindings :
    ∀ {name binding},
      offered name = some binding → binding.descriptor.Within (· = .readSettings)
  refused :
    ∀ {name},
      offered name = none →
      ∀ {asked binding},
        resolver { directory with asked := asked } name = .bound binding →
        binding.descriptor.Futile ∧
          ∀ {other found},
            offered other = some found → binding.serial ≠ found.serial

/--
The same constructors are offered under the same names.  They may have been
registered under other numbers, but names share a registration in both or in none.
-/
structure Offering.Matches
    (offering other : Offering) : Prop where
  descriptors :
    ∀ name,
      (other.offered name).map Binding.descriptor =
        (offering.offered name).map Binding.descriptor
  serials :
    ∀ {name second binding twin found twinFound},
      offering.offered name = some binding →
      other.offered name = some twin →
      offering.offered second = some found →
      other.offered second = some twinFound →
      (twin.serial = twinFound.serial ↔ binding.serial = found.serial)

/-- What is offered in one place is offered in the other. -/
theorem Offering.Matches.exists_offered
    {offering other : Offering}
    (same : offering.Matches other)
    {name : String}
    {binding : Binding}
    (bound : offering.offered name = some binding) :
    ∃ twin,
      other.offered name = some twin ∧ twin.descriptor = binding.descriptor := by
  have descriptors := same.descriptors name
  rw [bound] at descriptors
  exact Option.map_eq_some_iff.mp descriptors

/-- What is not offered in one place is not offered in the other. -/
theorem Offering.Matches.unoffered
    {offering other : Offering}
    (same : offering.Matches other)
    {name : String}
    (unoffered : offering.offered name = none) :
    other.offered name = none := by
  have descriptors := same.descriptors name
  rw [unoffered] at descriptors
  exact Option.map_eq_none_iff.mp descriptors

namespace World

/-- A world in which nothing has happened but what no caller notices. -/
structure Unmoved
    (offered : String → Option Binding)
    (before after : World) : Prop where
  directory :
    after.directory = before.directory
  registry :
    after.registry = before.registry
  handlers :
    after.handlers = before.handlers
  requests :
    ∀ instanceId, after.requestsTo instanceId = before.requestsTo instanceId
  counted :
    ∀ {name binding},
      offered name = some binding →
      after.constructionsOf binding.serial = before.constructionsOf binding.serial
  journal :
    before.journal <+: after.journal

theorem requestsTo_record
    (world : World)
    (entry : Entry)
    (instanceId : Nat) :
    (world.record entry).requestsTo instanceId =
      world.requestsTo instanceId ++ Journal.requestsTo instanceId [entry] := by
  rw [requestsTo_eq, requestsTo_eq, journal_record]
  exact List.filterMap_append

theorem constructionsOf_record
    (world : World)
    (entry : Entry)
    (serial : Nat) :
    (world.record entry).constructionsOf serial =
      world.constructionsOf serial + Journal.constructionsOf serial [entry] := by
  rw [constructionsOf_eq, constructionsOf_eq, journal_record]
  exact List.countP_append

namespace Unmoved

variable {offered : String → Option Binding}

protected theorem refl
    (world : World) :
    world.Unmoved offered world where
  directory := rfl
  registry := rfl
  handlers := rfl
  requests _ := rfl
  counted _ := rfl
  journal := List.prefix_rfl

protected theorem trans
    {first second third : World}
    (earlier : first.Unmoved offered second)
    (later : second.Unmoved offered third) :
    first.Unmoved offered third where
  directory := later.directory.trans earlier.directory
  registry := later.registry.trans earlier.registry
  handlers := later.handlers.trans earlier.handlers
  requests instanceId :=
    (later.requests instanceId).trans (earlier.requests instanceId)
  counted bound := (later.counted bound).trans (earlier.counted bound)
  journal := earlier.journal.trans later.journal

/--
Entries that are about no request and no construction of what is offered go
unnoticed.
-/
theorem record
    (world : World)
    {entry : Entry}
    (noRequest : ∀ instanceId, Journal.requestsTo instanceId [entry] = [])
    (noConstruction :
      ∀ {name binding},
        offered name = some binding →
        Journal.constructionsOf binding.serial [entry] = 0) :
    world.Unmoved offered (world.record entry) where
  directory := rfl
  registry := rfl
  handlers := rfl
  requests instanceId := by
    rw [requestsTo_record, noRequest, List.append_nil]
  counted bound := by
    rw [constructionsOf_record, noConstruction bound, Nat.add_zero]
  journal := (Grows.record world entry).journal

/-- So do events. -/
theorem emit
    (world : World)
    (event : Event) :
    world.Unmoved offered (world.emit event) :=
  record world (fun _ => rfl) fun _ => rfl

/-- So does a construction that fails. -/
theorem settle
    (world : World)
    (name : String)
    (failure : ConstructionFailure) :
    world.Unmoved offered (world.settle name (.error failure)).2 :=
  (record world (fun _ => rfl) fun _ => rfl).trans (emit _ _)

end Unmoved

end World

/-- A futile script fails wherever it runs, and nobody notices. -/
theorem Script.Futile.run
    {script : Script .construct}
    (futile : script.Futile)
    (offered : String → Option Binding)
    (calls : Calls)
    (world : World) :
    ∃ failure after,
      script.run calls world = some (.error failure, after) ∧
        world.Unmoved offered after := by
  induction futile generalizing world with
  | @fail failure =>
      exact ⟨failure, world, rfl, .refl world⟩
  | readSettings _ inductionHypothesis =>
      exact inductionHypothesis world.registry.settings world
  | @note remark _ _ inductionHypothesis =>
      obtain ⟨failure, after, ran, unmoved⟩ :=
        inductionHypothesis (world.record (.noted remark))
      exact ⟨failure, after, ran,
        (World.Unmoved.record world (fun _ => rfl) fun _ => rfl).trans unmoved⟩

/-- Nothing is built from a futile type, and nobody notices. -/
theorem Descriptor.Futile.builds
    {binding : Binding}
    (futile : binding.descriptor.Futile)
    {offered : String → Option Binding}
    (apart :
      ∀ {name found}, offered name = some found → binding.serial ≠ found.serial)
    (calls : Calls)
    (world : World) :
    ∃ failure after,
      calls.builds binding world (.error failure) after ∧
        world.Unmoved offered after := by
  cases described : binding.descriptor with
  | abstract typeName =>
      exact ⟨_, world, Calls.builds_iff.mpr (.abstract described), .refl world⟩
  | plain typeName handler =>
      rw [described] at futile
      cases futile
  | factory typeName make =>
      rw [described] at futile
      cases futile with
      | factory fails =>
          have started (index : Nat) :
              world.Unmoved offered
                (world.record
                    (.constructing binding.serial typeName (some index))) := by
            refine .record world (fun _ => rfl) fun bound => ?_
            simp [Journal.constructionsOf, apart bound]
          obtain ⟨failure, after, ran, unmoved⟩ :=
            (fails (world.constructionsOf binding.serial)).run offered calls
              (world.record
                (.constructing binding.serial typeName
                  (some (world.constructionsOf binding.serial))))
          exact ⟨.failed typeName failure, after,
            Calls.builds_of_factory described ran, (started _).trans unmoved⟩

/-- For a name that is not offered the resolver is asked, and nothing comes of it. -/
theorem Offering.refuses
    (offering : Offering)
    {name : String}
    (unoffered : offering.offered name = none)
    {world : World}
    {asked : List String}
    (fixed : world.directory = { offering.directory with asked := asked })
    (missed : world.registry.cache.find? name = none)
    (named : name ≠ "")
    (calls : Calls) :
    ∃ ended,
      Resolved offering.resolver calls.builds name world none ended ∧
        (world.ask name).Unmoved offering.offered ended := by
  cases answer : offering.resolver world.directory name with
  | unbound =>
      exact ⟨_, .unbound missed named answer, .emit _ _⟩
  | failed failure =>
      exact ⟨_, .lookupFailed missed named answer, .emit _ _⟩
  | bound binding =>
      obtain ⟨futile, apart⟩ := offering.refused unoffered (fixed ▸ answer)
      obtain ⟨failure, built, builds, unmoved⟩ :=
        futile.builds apart calls (world.ask name)
      exact ⟨_, .constructionFailed missed named answer builds,
        unmoved.trans (.settle built name failure)⟩

/--
The worlds of two runs over matching offerings.  They differ in what else the
directories hold, and in what is reported of it.
-/
structure Indistinct
    (offering other : Offering)
    (start world twin : World) : Prop where
  fixed :
    ∃ names,
      world.directory =
          { offering.directory with asked := offering.directory.asked ++ names } ∧
        twin.directory =
          { other.directory with asked := other.directory.asked ++ names }
  registry :
    twin.registry = world.registry
  handlers :
    twin.handlers = world.handlers
  requests :
    ∀ instanceId, twin.requestsTo instanceId = world.requestsTo instanceId
  counted :
    ∀ {name binding twinBinding},
      offering.offered name = some binding →
      other.offered name = some twinBinding →
      twin.constructionsOf twinBinding.serial = world.constructionsOf binding.serial
  cached :
    ∀ {name handle},
      world.registry.cache.find? name = some handle →
      ∃ binding, offering.offered name = some binding
  later :
    start.journal <+: world.journal

namespace Indistinct

variable
  {offering other : Offering}
  {start world twin : World}

/-- Two entries on the same requests, one in each run, leave worlds indistinct. -/
theorem record
    (twins : Indistinct offering other start world twin)
    {entry twinEntry : Entry}
    (sameRequests :
      ∀ instanceId,
        Journal.requestsTo instanceId [twinEntry] =
          Journal.requestsTo instanceId [entry])
    (sameConstructions :
      ∀ {name binding twinBinding},
        offering.offered name = some binding →
        other.offered name = some twinBinding →
        Journal.constructionsOf twinBinding.serial [twinEntry] =
          Journal.constructionsOf binding.serial [entry]) :
    Indistinct offering other start (world.record entry)
      (twin.record twinEntry) where
  fixed := twins.fixed
  registry := twins.registry
  handlers := twins.handlers
  requests instanceId := by
    rw [World.requestsTo_record, World.requestsTo_record, twins.requests,
      sameRequests]
  counted bound twinBound := by
    rw [World.constructionsOf_record, World.constructionsOf_record,
      twins.counted bound twinBound, sameConstructions bound twinBound]
  cached := twins.cached
  later := twins.later.trans (World.Grows.record world entry).journal

/-- So does one entry that is about no construction. -/
theorem recordSame
    (twins : Indistinct offering other start world twin)
    {entry : Entry}
    (noConstruction : entry.isConstruction = false) :
    Indistinct offering other start (world.record entry) (twin.record entry) := by
  refine twins.record (fun _ => rfl) fun _ _ => ?_
  cases entry with
  | constructing serial typeName index =>
      cases noConstruction
  | _ =>
      rfl

theorem ask
    (twins : Indistinct offering other start world twin)
    (name : String) :
    Indistinct offering other start (world.ask name) (twin.ask name) where
  fixed := by
    obtain ⟨names, fixed, twinFixed⟩ := twins.fixed
    refine ⟨names ++ [name], ?_, ?_⟩
    · simp [World.ask, Directory.ask, fixed]
    · simp [World.ask, Directory.ask, twinFixed]
  registry := twins.registry
  handlers := twins.handlers
  requests := twins.requests
  counted := twins.counted
  cached := twins.cached
  later := twins.later

/-- What goes unnoticed may be something else in each of the runs. -/
theorem unmoved
    (twins : Indistinct offering other start world twin)
    {ended twinEnded : World}
    (first : world.Unmoved offering.offered ended)
    (second : twin.Unmoved other.offered twinEnded) :
    Indistinct offering other start ended twinEnded where
  fixed := by
    rw [first.directory, second.directory]
    exact twins.fixed
  registry := by
    rw [first.registry, second.registry]
    exact twins.registry
  handlers := by
    rw [first.handlers, second.handlers]
    exact twins.handlers
  requests instanceId := by
    rw [first.requests, second.requests]
    exact twins.requests instanceId
  counted bound twinBound := by
    rw [first.counted bound, second.counted twinBound]
    exact twins.counted bound twinBound
  cached := by
    rw [first.registry]
    exact twins.cached
  later := twins.later.trans first.journal

/-- A handle for a name that is offered may be published. -/
theorem insert
    (twins : Indistinct offering other start world twin)
    {name : String}
    {binding : Binding}
    (bound : offering.offered name = some binding)
    (handle : Handle) :
    Indistinct offering other start (world.insert name handle)
      (twin.insert name handle) where
  fixed := twins.fixed
  registry := by
    simp only [World.insert, twins.registry]
  handlers := twins.handlers
  requests := twins.requests
  counted := twins.counted
  cached := by
    intro cachedName cachedHandle found
    rw [World.find?_insert] at found
    by_cases same : cachedName = name
    · exact ⟨binding, same ▸ bound⟩
    · rw [if_neg same] at found
      exact twins.cached found
  later := twins.later

/-- Code that leaves bindings alone cannot tell such worlds apart. -/
theorem lockstep
    (offering other : Offering)
    (start : World) :
    Lockstep (· = .readSettings) start (Indistinct offering other start) where
  later twins := twins.later
  cache twins := by
    rw [twins.registry]
  handlers twins := twins.handlers
  requests twins := twins.requests
  settings twins _ := by
    rw [twins.registry]
  recorded twins _ := twins.recordSame
  asked twins := twins.ask
  adopted twins handler :=
    { fixed := twins.fixed
      registry := twins.registry
      handlers := congrArg (· ++ [handler]) twins.handlers
      requests := twins.requests
      counted := twins.counted
      cached := twins.cached
      later := twins.later }
  registered _ := by
    intro name descriptor permitted
    cases permitted
  unregistered _ := by
    intro name permitted
    cases permitted

variable
  {calls others : Calls}
  {name : String}

/-- In such worlds the resolvers answer alike on what is offered. -/
theorem alike
    (same : offering.Matches other)
    {binding : Binding}
    (bound : offering.offered name = some binding) :
    offering.resolver.Alike (· = .readSettings) (Indistinct offering other start)
      other.resolver name := by
  obtain ⟨twinBinding, twinBound, descriptor⟩ := same.exists_offered bound
  refine ⟨?_, fun twins => twins.insert bound⟩
  intro world twin twins
  obtain ⟨names, fixed, twinFixed⟩ := twins.fixed
  rw [fixed, twinFixed, offering.bound bound, other.bound twinBound]
  exact .bound
    { descriptor := descriptor
      within := offering.leavesBindings bound
      counted := twins.counted bound twinBound
      started := by
        intro typeName index
        refine (twins.ask name).record (fun _ => rfl) fun found twinFound => ?_
        simp [Journal.constructionsOf,
          same.serials bound twinBound found twinFound] }

/-- A name that is not offered has no handle in either run. -/
theorem refused
    (same : offering.Matches other)
    (unoffered : offering.offered name = none)
    (others : Calls)
    {ended : World}
    {handle : Option Handle}
    (twins : Indistinct offering other start world twin)
    (resolved : Resolved offering.resolver calls.builds name world handle ended) :
    handle = none ∧
      ∃ twinEnded,
        Resolved other.resolver others.builds name twin none twinEnded ∧
          Indistinct offering other start ended twinEnded := by
  have missed : world.registry.cache.find? name = none := by
    cases found : world.registry.cache.find? name with
    | none =>
        rfl
    | some handle =>
        obtain ⟨binding, bound⟩ := twins.cached found
        rw [unoffered] at bound
        cases bound
  have twinMissed : twin.registry.cache.find? name = none := by
    rw [twins.registry]
    exact missed
  have only {expected : Option Handle} {expectedEnded : World}
      (expectedWay :
        Resolved offering.resolver calls.builds name world expected expectedEnded) :
      handle = expected ∧ ended = expectedEnded := by
    have finished := resolved.handleFor_eq.symm.trans expectedWay.handleFor_eq
    cases finished
    exact ⟨rfl, rfl⟩
  by_cases named : name = ""
  · obtain ⟨rfl, rfl⟩ := only (.nameless missed named)
    exact ⟨rfl, twin, .nameless twinMissed named, twins⟩
  · obtain ⟨names, fixed, twinFixed⟩ := twins.fixed
    obtain ⟨_, way, unmoved⟩ :=
      offering.refuses unoffered fixed missed named calls
    obtain ⟨twinEnded, twinWay, twinUnmoved⟩ :=
      other.refuses (same.unoffered unoffered) twinFixed twinMissed named others
    obtain ⟨rfl, rfl⟩ := only way
    exact ⟨rfl, twinEnded, twinWay, (twins.ask name).unmoved unmoved twinUnmoved⟩

/-- Calls in such worlds are in step, however deep they nest. -/
theorem nested
    (same : offering.Matches other)
    (depth : Nat) :
    (Calls.nested offering.resolver depth).InStep
      (start.ServedWithin (· = .readSettings)) (Indistinct offering other start)
      (Calls.nested other.resolver depth) := by
  refine (lockstep offering other start).nested ?_ depth
  intro calls others inStep name strict
  cases bound : offering.offered name with
  | some binding =>
      exact (lockstep offering other start).resolveWith inStep
        (alike same bound) strict
  | none =>
      intro world twin answer after twins _ finished
      obtain ⟨handle, ended, resolved, rfl, rfl⟩ :=
        resolveWith_eq_some_iff.mp finished
      obtain ⟨rfl, twinEnded, twinResolved, endeds⟩ :=
        refused same bound others (twins.recordSame rfl) resolved
      exact ⟨_, resolveWith_eq_some_iff.mpr
        ⟨none, twinEnded, twinResolved, rfl, rfl⟩, endeds.recordSame rfl⟩

end Indistinct

/-- The error that an answer gives, if it gives one of dispatch. -/
def Answer.error? : Answer → Option DispatchError
  | resolution (.error error) => some error
  | required (.error error) => some error
  | value (.error error) => some error
  | _ => none

/-- The only error for want of a handle is that there is none. -/
theorem Answer.Unresolved.error_eq
    {name : String}
    {answer : Answer}
    {error : DispatchError}
    (unresolved : answer.Unresolved name)
    (failed : answer.error? = some error) :
    error = .unresolved name := by
  cases unresolved with
  | resolution strict =>
      cases strict with
      | true =>
          exact (Option.some.inj failed).symm
      | false =>
          cases failed
  | required =>
      exact (Option.some.inj failed).symm
  | optional =>
      cases failed
  | value =>
      exact (Option.some.inj failed).symm

/--
A name that is not offered is answered by the error that it is unresolved, or by
nothing.  Any error for a name is that one, which has no source, or else comes
from a handler that there is.
-/
def Operation.Conceals
    (offered : String → Option Binding)
    (operation : Operation)
    (answer : Answer) : Prop :=
  ∀ name,
    operation.resolves? = some name →
    (offered name = none → answer.Unresolved name) ∧
      ∀ error,
        answer.error? = some error →
        (error = .unresolved name ∧ error.sources = []) ∨
          ∃ locator base cause,
            operation = .get locator base ∧
              error = .handlerFailed name locator.text cause

/-- Once there is a handle, only the handler itself can fail. -/
theorem Operation.error_of_conclude
    {operation : Operation}
    {calls : Calls}
    {settings : Settings}
    {name : String}
    {handle : Handle}
    {world after : World}
    {answer : Answer}
    {error : DispatchError}
    (concluded :
      operation.conclude calls settings name (some handle) world =
        some (answer, after))
    (failed : answer.error? = some error) :
    ∃ locator base cause,
      operation = .get locator base ∧
        error = .handlerFailed name locator.text cause := by
  cases operation with
  | get locator base =>
      obtain ⟨outcome, _, _, answered⟩ := Run.bind_eq_some_iff.mp concluded
      cases answered
      cases outcome with
      | ok value =>
          cases failed
      | error cause =>
          exact ⟨locator, base, cause, rfl, (Option.some.inj failed).symm⟩
  | _ =>
      cases concluded
      cases failed

namespace Indistinct

variable
  {offering other : Offering}
  {start world twin after : World}
  {depth : Nat}

/-- What an operation answers tells no reasons. -/
theorem conceals
    (same : offering.Matches other)
    {operation : Operation}
    {answer : Answer}
    (twins : Indistinct offering other start world twin)
    (performed :
      operation.perform (Calls.nested offering.resolver depth) world =
        some (answer, after)) :
    operation.Conceals offering.offered answer := by
  intro name resolves
  cases depth with
  | zero =>
      rw [Operation.perform_nested_zero resolves] at performed
      cases performed
  | succ depth =>
      obtain ⟨handle, ended, resolved, concluded⟩ :=
        (Operation.perform_nested_eq_some_iff resolves).mp performed
      have unresolved (isNone : handle = none) : answer.Unresolved name := by
        obtain ⟨expected, concludedNone, unresolved⟩ :=
          Operation.conclude_none resolves
            (Calls.nested offering.resolver (depth + 1))
            world.registry.settings (ended.record (.returned name handle))
        rw [isNone] at concluded concludedNone
        rw [concludedNone] at concluded
        cases concluded
        exact unresolved
      constructor
      · intro unoffered
        have none :=
          refused same unoffered (Calls.nested other.resolver depth)
            (twins.recordSame rfl) resolved
        exact unresolved none.1
      · intro error failed
        cases handle with
        | none =>
            have errorEq := (unresolved rfl).error_eq failed
            exact .inl ⟨errorEq, errorEq ▸ rfl⟩
        | some handle =>
            exact .inr (Operation.error_of_conclude concluded failed)

/-- Nor does what any number of operations answer, and both runs answer the same. -/
theorem performAll
    (same : offering.Matches other)
    {history : List Operation}
    (areCalls : ∀ operation ∈ history, operation.isCall)
    {answers : List Answer}
    (twins : Indistinct offering other start world twin)
    (served : start.ServedWithin (· = .readSettings) after)
    (performed :
      Operation.performAll (Calls.nested offering.resolver depth) history world =
        some (answers, after)) :
    ∃ twinAfter,
      Operation.performAll (Calls.nested other.resolver depth) history twin =
          some (answers, twinAfter) ∧
        Indistinct offering other start after twinAfter ∧
        ∀ operation answer,
          (operation, answer) ∈ history.zip answers →
          operation.Conceals offering.offered answer := by
  induction history generalizing world twin answers with
  | nil =>
      cases performed
      exact ⟨twin, rfl, twins, by simp⟩
  | cons operation rest inductionHypothesis =>
      obtain ⟨answer, middle, restAnswers, performedFirst, performedRest, rfl⟩ :=
        Operation.performAll_cons_eq_some_iff.mp performed
      have grows : middle.Grows after :=
        World.Grows.stable.performAll
          (World.Grows.stable.nested offering.resolver depth) _ performedRest
      have firstInStep :=
        (lockstep offering other start).perform (nested same depth) rfl
          (areCalls operation List.mem_cons_self)
      obtain ⟨twinMiddle, twinFirst, middles⟩ :=
        firstInStep twins (served.earlier grows) performedFirst
      have restAreCalls : ∀ operation ∈ rest, operation.isCall :=
        fun later member => areCalls later (List.mem_cons_of_mem _ member)
      obtain ⟨twinAfter, twinRest, afters, restConceals⟩ :=
        inductionHypothesis restAreCalls middles performedRest
      refine ⟨twinAfter, ?_, afters, ?_⟩
      · exact Operation.performAll_cons_eq_some_iff.mpr
          ⟨answer, twinMiddle, restAnswers, twinFirst, twinRest, rfl⟩
      · intro performedOperation given member
        rcases List.mem_cons.mp member with isFirst | inRest
        · cases isFirst
          exact twins.conceals same performedFirst
        · exact restConceals performedOperation given inRest

end Indistinct

/-- A registry that has just been created over the directory of an offering. -/
def Offering.world
    (offering : Offering)
    (settings : Settings) : World :=
  { World.create settings with directory := offering.directory }

/--
Two fresh registries whose resolvers offer the same constructors answer the same,
whatever keeps them from offering other names: that nothing is bound, that the
lookup fails, that the type is abstract, that its constructor fails.  They ask
for the same names and publish the same handles, and no error tells a reason.
Constructors and handlers may use the registry as they like, but leave the
bindings alone.
-/
theorem failure_reasons_concealed
    {offering other : Offering}
    (same : offering.Matches other)
    (settings : Settings)
    (depth : Nat)
    {history : List Operation}
    (areCalls : ∀ operation ∈ history, operation.isCall)
    {answers : List Answer}
    {after : World}
    (performed :
      Operation.performAll (Calls.nested offering.resolver depth) history
          (offering.world settings) =
        some (answers, after))
    (served : (offering.world settings).ServedWithin (· = .readSettings) after) :
    (∃ twinAfter asked,
      Operation.performAll (Calls.nested other.resolver depth) history
          (other.world settings) =
        some (answers, twinAfter) ∧
      after.directory.asked = offering.directory.asked ++ asked ∧
      twinAfter.directory.asked = other.directory.asked ++ asked ∧
      twinAfter.registry = after.registry ∧
      twinAfter.handlers = after.handlers) ∧
    ∀ operation answer,
      (operation, answer) ∈ history.zip answers →
      operation.Conceals offering.offered answer := by
  have twins :
      Indistinct offering other (offering.world settings)
        (offering.world settings) (other.world settings) :=
    { fixed := ⟨[], by simp [Offering.world], by simp [Offering.world]⟩
      registry := rfl
      handlers := rfl
      requests := fun _ => rfl
      counted := fun _ _ => rfl
      cached := nofun
      later := List.prefix_rfl }
  obtain ⟨twinAfter, twinPerformed, afters, conceals⟩ :=
    twins.performAll same areCalls served performed
  obtain ⟨asked, fixed, twinFixed⟩ := afters.fixed
  refine ⟨⟨twinAfter, asked, twinPerformed, ?_, ?_, afters.registry,
    afters.handlers⟩, conceals⟩
  · rw [fixed]
  · rw [twinFixed]

/-- Nothing but one binding is offered, under one name. -/
def onlyOffered
    (name : String)
    (binding : Binding) : String → Option Binding :=
  fun other => if other = name then some binding else none

theorem onlyOffered_eq_some_iff
    {name other : String}
    {binding found : Binding} :
    onlyOffered name binding other = some found ↔
      other = name ∧ found = binding := by
  unfold onlyOffered
  by_cases same : other = name
  · rw [if_pos same]
    simp [same, eq_comm]
  · rw [if_neg same]
    simp [same]

/-- A type of handlers that fail, and two of which there are no handlers. -/
def barren : Offering where
  resolver := .ofTable
  directory :=
    ((Directory.empty.register "unable" (.plain "Unable" .unable)).register
      "idea" (.abstract "Idea")).register
        "broken" (.factory "Broken" fun _ => .fail ⟨"missing store", ["no disk"]⟩)
  offered := onlyOffered "unable" ⟨0, .plain "Unable" .unable⟩
  bound := by
    intro name binding offered
    obtain ⟨rfl, rfl⟩ := onlyOffered_eq_some_iff.mp offered
    exact Resolver.ofTable_binds rfl
  leavesBindings := by
    intro name binding offered
    obtain ⟨_, rfl⟩ := onlyOffered_eq_some_iff.mp offered
    exact .plain
  refused := by
    intro name unoffered asked binding answer
    have other : name ≠ "unable" := by
      rintro rfl
      cases unoffered
    have found := Resolver.ofTable_eq_bound_iff.mp answer
    simp only [Directory.register, Table.find?_set, if_neg other] at found
    by_cases isBroken : name = "broken"
    · rw [if_pos isBroken] at found
      cases found
      refine ⟨.factory fun _ => .fail, ?_⟩
      intro second bound offered
      obtain ⟨_, rfl⟩ := onlyOffered_eq_some_iff.mp offered
      decide
    · rw [if_neg isBroken] at found
      by_cases isIdea : name = "idea"
      · rw [if_pos isIdea] at found
        cases found
        refine ⟨.abstract, ?_⟩
        intro second bound offered
        obtain ⟨_, rfl⟩ := onlyOffered_eq_some_iff.mp offered
        decide
      · rw [if_neg isIdea] at found
        cases found

/--
The same type of handlers, registered later, and two names that are out of reach.
-/
def remote : Offering where
  resolver := .withFaults .ofTable
  directory :=
    ((Directory.empty.register "broken" (.abstract "Broken")).register
      "unable" (.plain "Unable" .unable)).breakLookup "idea" "connection lost"
  offered := onlyOffered "unable" ⟨1, .plain "Unable" .unable⟩
  bound := by
    intro name binding offered
    obtain ⟨rfl, rfl⟩ := onlyOffered_eq_some_iff.mp offered
    exact fun _ => rfl
  leavesBindings := by
    intro name binding offered
    obtain ⟨_, rfl⟩ := onlyOffered_eq_some_iff.mp offered
    exact .plain
  refused := by
    intro name unoffered asked binding answer
    have other : name ≠ "unable" := by
      rintro rfl
      cases unoffered
    unfold Resolver.withFaults at answer
    split at answer
    · cases answer
    · have found := Resolver.ofTable_eq_bound_iff.mp answer
      simp only [Directory.breakLookup, Directory.register, Table.find?_set,
        if_neg other] at found
      by_cases isBroken : name = "broken"
      · rw [if_pos isBroken] at found
        cases found
        refine ⟨.abstract, ?_⟩
        intro second bound offered
        obtain ⟨_, rfl⟩ := onlyOffered_eq_some_iff.mp offered
        decide
      · rw [if_neg isBroken] at found
        cases found

/-- Both offer the one type of handlers. -/
theorem barren_matches_remote :
    barren.Matches remote where
  descriptors := by
    intro name
    change (onlyOffered _ _ name).map _ = (onlyOffered _ _ name).map _
    unfold onlyOffered
    by_cases isUnable : name = "unable"
    · rw [if_pos isUnable, if_pos isUnable]
      rfl
    · rw [if_neg isUnable, if_neg isUnable]
  serials := by
    intro name second binding twin found twinFound bound twinBound other twinOther
    obtain ⟨_, rfl⟩ := onlyOffered_eq_some_iff.mp bound
    obtain ⟨_, rfl⟩ := onlyOffered_eq_some_iff.mp twinBound
    obtain ⟨_, rfl⟩ := onlyOffered_eq_some_iff.mp other
    obtain ⟨_, rfl⟩ := onlyOffered_eq_some_iff.mp twinOther
    exact ⟨fun _ => rfl, fun _ => rfl⟩

/-- Calls for the name that both offer, and for names that neither does. -/
def inquiries : List Operation :=
  [.get ⟨some "unable", "door"⟩ none,
    .get ⟨some "idea", "door"⟩ none,
    .resolveStrict "broken",
    .resolveOrNone "idea",
    .find "lost",
    .resolve "unable" false]

/-- Nobody learns from the answers whether a type is abstract or out of reach. -/
theorem inquiries_concealed :
    ∃ twinAfter,
      Operation.performAll (Calls.nested (.withFaults .ofTable) 2) inquiries
          (remote.world .default) =
        some
          ([.value (.error (.handlerFailed "unable" "unable:door"
                (.single "cannot resolve door"))),
              .value (.error (.unresolved "idea")),
              .required (.error (.unresolved "broken")),
              .optional none,
              .resolution (.error (.unresolved "lost")),
              .resolution (.ok (some ⟨"unable", 0⟩))],
            twinAfter) ∧
      twinAfter.directory.asked = ["unable", "idea", "broken", "idea", "lost"] ∧
      twinAfter.registry.cache.names = ["unable"] := by
  have whole :=
    @failure_reasons_concealed barren remote barren_matches_remote
      .default 2 inquiries
      (by decide) _ _ rfl
  obtain ⟨⟨twinAfter, asked, twinPerformed, askedEq, twinAskedEq, registry, _⟩, _⟩ :=
    whole (by
      -- The only handler that there is by then does nothing but fail.
      intro instanceId request handler _ known
      have member : handler ∈ [Handler.unable] := List.mem_of_getElem? known
      have isUnable : handler = .unable := by simpa using member
      rw [isUnable]
      exact fun _ _ => .fail)
  refine ⟨twinAfter, twinPerformed, ?_, ?_⟩
  · rw [twinAskedEq]
    exact askedEq.symm
  · rw [registry]
    rfl

end Dispatch
