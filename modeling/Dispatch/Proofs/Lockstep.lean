import Dispatch.Proofs.CacheIntegrity

namespace Dispatch

/-!
# Runs in step

Two runs of the same code from worlds that differ go the same way as long as
the code cannot tell the worlds apart.  `Script.Within` says what code does to a
registry beside resolving names and calling handlers; `Lockstep` says which
relations between worlds code of that kind keeps.  The induction over scripts
and over the depth of nesting is done here once, for every such relation.

Handlers are only known once they are built.  What they may do is therefore
asked of those that have been given a request by the end of the first run.
-/

/-- What a script does to a registry beside resolving names and calling handlers. -/
inductive Act
  | readSettings
  | register (name : String)
  | unregister (name : String)
deriving DecidableEq

mutual

/-- A script does only what is permitted, whatever answers it is given. -/
inductive Script.Within (permits : Act → Prop) :
    {role : Role} → Script role → Prop
  | build {handler : Handler} :
      Script.Within permits (.build handler)
  | answer {value : Value} :
      Script.Within permits (.answer value)
  | fail {role : Role} {failure : Failure} :
      Script.Within permits (.fail failure : Script role)
  | resolve {role : Role} {name : String} {strict : Bool}
      {next : Resolution → Script role}
      (goesOn : ∀ answer, Script.Within permits (next answer)) :
      Script.Within permits (.resolve name strict next)
  | call {role : Role} {handle : Handle} {request : Request}
      {next : Except Failure Value → Script role}
      (goesOn : ∀ outcome, Script.Within permits (next outcome)) :
      Script.Within permits (.call handle request next)
  | readSettings {role : Role} {next : Settings → Script role}
      (permitted : permits .readSettings)
      (goesOn : ∀ settings, Script.Within permits (next settings)) :
      Script.Within permits (.readSettings next)
  | register {role : Role} {name : String} {descriptor : Descriptor}
      {next : Option TypeSummary → Script role}
      (permitted : permits (.register name))
      (bound : Descriptor.Within permits descriptor)
      (goesOn : ∀ previous, Script.Within permits (next previous)) :
      Script.Within permits (.register name descriptor next)
  | unregister {role : Role} {name : String}
      {next : Option TypeSummary → Script role}
      (permitted : permits (.unregister name))
      (goesOn : ∀ removed, Script.Within permits (next removed)) :
      Script.Within permits (.unregister name next)
  | note {role : Role} {remark : Note} {next : Script role}
      (goesOn : Script.Within permits next) :
      Script.Within permits (.note remark next)

/-- A constructor does only what is permitted, in each of its runs. -/
inductive Descriptor.Within (permits : Act → Prop) : Descriptor → Prop
  | abstract {typeName : String} :
      Descriptor.Within permits (.abstract typeName)
  | plain {typeName : String} {handler : Handler} :
      Descriptor.Within permits (.plain typeName handler)
  | factory {typeName : String} {make : Nat → Script .construct}
      (runs : ∀ index, Script.Within permits (make index)) :
      Descriptor.Within permits (.factory typeName make)

end

/-- A handler does only what is permitted, whatever it is asked. -/
def Handler.Within
    (permits : Act → Prop)
    (handler : Handler) : Prop :=
  ∀ earlier request, (handler.respond earlier request).Within permits

/--
Since a world, only handlers that do what is permitted have been given requests.
-/
def World.ServedWithin
    (permits : Act → Prop)
    (start after : World) : Prop :=
  ∀ instanceId request handler,
    .serving instanceId request ∈ after.journal.drop start.journal.length →
    after.handlers[instanceId]? = some handler →
    handler.Within permits

/-- What has happened by then had happened in part before. -/
theorem World.ServedWithin.earlier
    {permits : Act → Prop}
    {start before after : World}
    (grows : before.Grows after)
    (served : start.ServedWithin permits after) :
    start.ServedWithin permits before := by
  intro instanceId request handler member known
  obtain ⟨happened, journal⟩ := grows.journal
  obtain ⟨adopted, handlers⟩ := grows.handlers
  refine served instanceId request handler ?_ ?_
  · rw [← journal, List.drop_append]
    exact List.mem_append_left _ member
  · obtain ⟨inRange, _⟩ := List.getElem?_eq_some_iff.mp known
    rw [← handlers, List.getElem?_append_left inRange]
    exact known

namespace Run

variable
  {α β : Type}
  {guard : World → Prop}
  {related : World → World → Prop}

/--
From related worlds, a second run finishes where a first one does, with the same
answer and again in related worlds, provided the first run keeps a rule.
-/
def InStep
    (guard : World → Prop)
    (related : World → World → Prop)
    (first second : Run α) : Prop :=
  ∀ ⦃world twin answer after⦄,
    related world twin →
    guard after →
    first world = some (answer, after) →
    ∃ twinAfter, second twin = some (answer, twinAfter) ∧ related after twinAfter

/-- Runs that only give the same answer are in step. -/
theorem InStep.pure
    (answer : α) :
    (Pure.pure answer : Run α).InStep guard related (Pure.pure answer) := by
  intro world twin _ after twins _ finished
  cases finished
  exact ⟨twin, rfl, twins⟩

/-- Steps with the same answer are in step. -/
theorem InStep.ofStep
    {change twinChange : World → α × World}
    (alike :
      ∀ ⦃world twin⦄,
        related world twin →
        (twinChange twin).1 = (change world).1 ∧
          related (change world).2 (twinChange twin).2) :
    (step change).InStep guard related (step twinChange) := by
  intro world twin answer after twins _ finished
  have same : change world = (answer, after) := Option.some.inj finished
  obtain ⟨answers, worlds⟩ := alike twins
  rw [same] at answers worlds
  refine ⟨(twinChange twin).2, ?_, worlds⟩
  exact congrArg some (Prod.ext answers rfl)

/-- Sequences of parts that are in step are in step. -/
theorem InStep.bind
    (earlier :
      ∀ {before after}, before.Grows after → guard after → guard before)
    {first second : Run α}
    {next follow : α → Run β}
    (grows : ∀ value, (next value).Keeps World.Grows)
    (begin : first.InStep guard related second)
    (goesOn : ∀ value, (next value).InStep guard related (follow value)) :
    (first >>= next).InStep guard related (second >>= follow) := by
  intro world twin answer after twins kept finished
  obtain ⟨value, middle, firstFinished, nextFinished⟩ :=
    bind_eq_some_iff.mp finished
  obtain ⟨twinMiddle, secondFinished, middles⟩ :=
    begin twins (earlier (grows value nextFinished) kept) firstFinished
  obtain ⟨twinAfter, followFinished, afters⟩ :=
    goesOn value middles kept nextFinished
  exact ⟨twinAfter, (bind_of_eq secondFinished).trans followFinished, afters⟩

/-- Runs that are in step stay so when their answers are mapped. -/
theorem InStep.map
    {first second : Run α}
    {change : α → β}
    (inStep : first.InStep guard related second) :
    (change <$> first).InStep guard related (change <$> second) := by
  intro world twin answer after twins kept finished
  obtain ⟨value, firstFinished, changed⟩ := map_eq_some_iff.mp finished
  obtain ⟨twinAfter, secondFinished, afters⟩ := inStep twins kept firstFinished
  exact ⟨twinAfter, map_eq_some_iff.mpr ⟨value, secondFinished, changed⟩, afters⟩

end Run

/-- Calls that are in step, and of which the first take nothing away. -/
structure Calls.InStep
    (guard : World → Prop)
    (related : World → World → Prop)
    (calls others : Calls) : Prop where
  resolve :
    ∀ name strict,
      (calls.resolve name strict).InStep guard related (others.resolve name strict)
  serve :
    ∀ instanceId request,
      (calls.serve instanceId request).InStep guard related
        (others.serve instanceId request)
  grow :
    calls.Keep World.Grows

/-- The constructor of a registered descriptor was started. -/
def Entry.isConstruction : Entry → Bool
  | constructing _ _ _ => true
  | _ => false

/--
A relation between the worlds of two runs that code keeps if it does only what is
permitted.  Of the worlds, such code sees the cache, the handlers, the requests
these were given and, as far as permitted, settings and bindings.
-/
structure Lockstep
    (permits : Act → Prop)
    (start : World)
    (related : World → World → Prop) : Prop where
  later :
    ∀ {world twin}, related world twin → start.journal <+: world.journal
  cache :
    ∀ {world twin},
      related world twin → twin.registry.cache = world.registry.cache
  handlers :
    ∀ {world twin}, related world twin → twin.handlers = world.handlers
  requests :
    ∀ {world twin},
      related world twin →
      ∀ instanceId, twin.requestsTo instanceId = world.requestsTo instanceId
  settings :
    ∀ {world twin},
      related world twin →
      permits .readSettings →
      twin.registry.settings = world.registry.settings
  recorded :
    ∀ {world twin},
      related world twin →
      ∀ {entry : Entry},
        entry.isConstruction = false →
        related (world.record entry) (twin.record entry)
  asked :
    ∀ {world twin},
      related world twin →
      ∀ name, related (world.ask name) (twin.ask name)
  adopted :
    ∀ {world twin},
      related world twin →
      ∀ handler, related (world.adopt handler).2 (twin.adopt handler).2
  registered :
    ∀ {world twin},
      related world twin →
      ∀ {name descriptor},
        permits (.register name) →
        descriptor.Within permits →
        (twin.directory.table.find? name).map Binding.summary =
            (world.directory.table.find? name).map Binding.summary ∧
          related (world.register name descriptor).2
            (twin.register name descriptor).2
  unregistered :
    ∀ {world twin},
      related world twin →
      ∀ {name},
        permits (.unregister name) →
        (twin.directory.table.find? name).map Binding.summary =
            (world.directory.table.find? name).map Binding.summary ∧
          related (world.unregister name).2 (twin.unregister name).2

/--
One constructor, which does only what is permitted, is bound in two worlds.  The
numbers of its registrations may differ, but it has been run equally often.
-/
structure Binding.Alike
    (permits : Act → Prop)
    (related : World → World → Prop)
    (world twin : World)
    (binding other : Binding) : Prop where
  descriptor :
    other.descriptor = binding.descriptor
  within :
    binding.descriptor.Within permits
  counted :
    twin.constructionsOf other.serial = world.constructionsOf binding.serial
  started :
    ∀ typeName index,
      related (world.record (.constructing binding.serial typeName index))
        (twin.record (.constructing other.serial typeName index))

/-- Two answers of resolvers lead on in the same way. -/
inductive Lookup.Alike
    (permits : Act → Prop)
    (related : World → World → Prop)
    (world twin : World) :
    Lookup → Lookup → Prop
  | bound {binding other : Binding}
      (alike : Binding.Alike permits related world twin binding other) :
      Lookup.Alike permits related world twin (.bound binding) (.bound other)
  | unbound :
      Lookup.Alike permits related world twin .unbound .unbound
  | failed {failure : LookupFailure} :
      Lookup.Alike permits related world twin (.failed failure) (.failed failure)

namespace Lookup.Alike

variable
  {permits : Act → Prop}
  {related : World → World → Prop}
  {world twin : World}
  {answer : Lookup}

theorem of_bound
    {binding : Binding}
    (alike : Lookup.Alike permits related world twin (.bound binding) answer) :
    ∃ other,
      answer = .bound other ∧
        Binding.Alike permits related world twin binding other := by
  cases alike with
  | bound alike =>
      exact ⟨_, rfl, alike⟩

theorem of_unbound
    (alike : Lookup.Alike permits related world twin .unbound answer) :
    answer = .unbound := by
  cases alike
  rfl

theorem of_failed
    {failure : LookupFailure}
    (alike : Lookup.Alike permits related world twin (.failed failure) answer) :
    answer = .failed failure := by
  cases alike
  rfl

end Lookup.Alike

/--
On a name, two resolvers answer alike, and what is built may be published under it.
-/
structure Resolver.Alike
    (permits : Act → Prop)
    (related : World → World → Prop)
    (resolver other : Resolver)
    (name : String) : Prop where
  answers :
    ∀ {world twin},
      related world twin →
      Lookup.Alike permits related (world.ask name) (twin.ask name)
        (resolver world.directory name) (other twin.directory name)
  inserted :
    ∀ {world twin},
      related world twin →
      ∀ handle, related (world.insert name handle) (twin.insert name handle)

/-- An operation that obtains or uses a handler; the others are about bindings. -/
def Operation.isCall : Operation → Bool
  | register _ _ => false
  | unregister _ => false
  | breakLookup _ _ => false
  | healLookup _ => false
  | _ => true

namespace Lockstep

variable
  {permits : Act → Prop}
  {start : World}
  {related : World → World → Prop}
  {calls others : Calls}

/-- Code that does what is permitted stays in step. -/
theorem script
    (lockstep : Lockstep permits start related)
    (inStep : calls.InStep (start.ServedWithin permits) related others)
    {role : Role}
    {script : Script role}
    (within : script.Within permits) :
    (script.run calls).InStep (start.ServedWithin permits) related
      (script.run others) := by
  have grows {role : Role} (script : Script role) :
      (script.run calls).Keeps World.Grows :=
    World.Grows.stable.script inStep.grow script
  have earlier := @World.ServedWithin.earlier permits start
  fun_induction Script.run calls script with
  | case1 handler =>
      exact .pure _
  | case2 value =>
      exact .pure _
  | case3 role failure =>
      exact .pure _
  | case4 role name strict next inductionHypothesis =>
      cases within with
      | resolve goesOn =>
          exact .bind earlier (fun _ => grows _) (inStep.resolve name strict)
            fun answer => inductionHypothesis answer (goesOn answer)
  | case5 role handle request next inductionHypothesis =>
      cases within with
      | call goesOn =>
          exact .bind earlier (fun _ => grows _)
            (inStep.serve handle.instanceId request)
            fun outcome => inductionHypothesis outcome (goesOn outcome)
  | case6 role next inductionHypothesis =>
      cases within with
      | readSettings permitted goesOn =>
          intro world twin answer after twins kept finished
          have same := lockstep.settings twins permitted
          change ∃ twinAfter,
            (next twin.registry.settings).run others twin = _ ∧ _
          rw [same]
          exact inductionHypothesis world (goesOn _) twins kept finished
  | case7 role name descriptor next inductionHypothesis =>
      cases within with
      | register permitted bound goesOn =>
          intro world twin answer after twins kept finished
          obtain ⟨seen, afters⟩ := lockstep.registered twins permitted bound
          have goesOnTwin :=
            inductionHypothesis _ (goesOn _) afters kept finished
          rwa [← seen] at goesOnTwin
  | case8 role name next inductionHypothesis =>
      cases within with
      | unregister permitted goesOn =>
          intro world twin answer after twins kept finished
          obtain ⟨seen, afters⟩ := lockstep.unregistered twins permitted
          have goesOnTwin :=
            inductionHypothesis _ (goesOn _) afters kept finished
          rwa [← seen] at goesOnTwin
  | case9 role remark next inductionHypothesis =>
      cases within with
      | note goesOn =>
          refine .bind earlier (fun _ => grows _) (.ofStep ?_)
            fun _ => inductionHypothesis goesOn
          exact fun world twin twins => ⟨rfl, lockstep.recorded twins rfl⟩

/-- Requests to handlers that do what is permitted stay in step. -/
theorem serveWith
    (lockstep : Lockstep permits start related)
    (inStep : calls.InStep (start.ServedWithin permits) related others)
    (instanceId : Nat)
    (request : Request) :
    (Dispatch.serveWith calls instanceId request).InStep
      (start.ServedWithin permits) related
      (Dispatch.serveWith others instanceId request) := by
  intro world twin answer after twins kept finished
  have sameHandlers := lockstep.handlers twins
  cases serveWith_eq_some_iff.mp finished with
  | nobody absent =>
      rw [← sameHandlers] at absent
      exact ⟨twin, serveWith_eq_some_iff.mpr (.nobody absent), twins⟩
  | @answered ended handler _ present ran =>
      have grown : (world.record (.serving instanceId request)).Grows ended :=
        World.Grows.stable.script inStep.grow _ ran
      have keptEnded : start.ServedWithin permits ended :=
        kept.earlier (.record ended _)
      have within : handler.Within permits := by
        refine keptEnded.earlier grown instanceId request handler ?_ present
        rw [World.journal_record,
          List.drop_append_of_le_length (lockstep.later twins).length_le]
        exact List.mem_append_right _ List.mem_cons_self
      obtain ⟨twinEnded, twinRan, endeds⟩ :=
        lockstep.script inStep (within _ _) (lockstep.recorded twins rfl)
          keptEnded ran
      rw [← sameHandlers] at present
      rw [← lockstep.requests twins] at twinRan
      exact ⟨_, serveWith_eq_some_iff.mpr (.answered present twinRan),
        lockstep.recorded endeds rfl⟩

/-- The outcome of a construction leaves related worlds related. -/
theorem settled
    (lockstep : Lockstep permits start related)
    {world twin : World}
    (twins : related world twin)
    (name : String)
    (outcome : Except ConstructionFailure Handler) :
    related (world.settle name outcome).2 (twin.settle name outcome).2 := by
  cases outcome with
  | error failure =>
      exact lockstep.recorded (lockstep.recorded twins rfl) rfl
  | ok handler =>
      exact lockstep.adopted (lockstep.recorded twins rfl) handler

/-- Constructors that do what is permitted stay in step. -/
theorem instantiate
    (lockstep : Lockstep permits start related)
    (inStep : calls.InStep (start.ServedWithin permits) related others)
    {world twin after : World}
    {binding other : Binding}
    {outcome : Except ConstructionFailure Handler}
    (alike : Binding.Alike permits related world twin binding other)
    (twins : related world twin)
    (kept : start.ServedWithin permits after)
    (built : calls.builds binding world outcome after) :
    ∃ twinAfter,
      others.builds other twin outcome twinAfter ∧ related after twinAfter := by
  rw [Calls.builds_iff] at built
  cases built with
  | abstract isAbstract =>
      have otherIsAbstract := alike.descriptor.trans isAbstract
      exact ⟨twin, Calls.builds_iff.mpr (.abstract otherIsAbstract), twins⟩
  | plain isPlain =>
      have otherIsPlain := alike.descriptor.trans isPlain
      exact ⟨_, Calls.builds_iff.mpr (.plain otherIsPlain), alike.started _ _⟩
  | factory isFactory ran =>
      have otherIsFactory := alike.descriptor.trans isFactory
      have within := alike.within
      rw [isFactory] at within
      cases within with
      | factory runs =>
          obtain ⟨twinAfter, twinRan, afters⟩ :=
            lockstep.script inStep (runs _) (alike.started _ _) kept ran
          rw [← alike.counted] at twinRan
          exact ⟨twinAfter, Calls.builds_iff.mpr (.factory otherIsFactory twinRan),
            afters⟩

/--
Where a first run obtains a handle for a name on which the resolvers answer
alike, or none, a second run does, in the same of the seven ways.
-/
theorem resolved
    (lockstep : Lockstep permits start related)
    (inStep : calls.InStep (start.ServedWithin permits) related others)
    {resolver other : Resolver}
    {name : String}
    (alike : resolver.Alike permits related other name)
    {world twin ended : World}
    {handle : Option Handle}
    (twins : related world twin)
    (kept : start.ServedWithin permits ended)
    (resolved : Resolved resolver calls.builds name world handle ended) :
    ∃ twinEnded,
      Resolved other others.builds name twin handle twinEnded ∧
        related ended twinEnded := by
  have asked := lockstep.asked twins name
  have answers := alike.answers twins
  have sameCache {world twin : World} (twins : related world twin) :
      twin.registry.cache.find? name = world.registry.cache.find? name := by
    rw [lockstep.cache twins]
  -- What is built in the first run is built in the second, as the rule is kept
  -- until then.
  have construction {binding : Binding}
    {outcome : Except ConstructionFailure Handler}
      {built : World}
      (bound : resolver world.directory name = .bound binding)
      (grows : built.Grows ended)
      (builds : calls.builds binding (world.ask name) outcome built) :
      ∃ twinBinding twinBuilt,
        other twin.directory name = .bound twinBinding ∧
          others.builds twinBinding (twin.ask name) outcome twinBuilt ∧
          related built twinBuilt := by
    obtain ⟨twinBinding, twinBound, bindings⟩ := (bound ▸ answers).of_bound
    obtain ⟨twinBuilt, twinBuilds, builts⟩ :=
      lockstep.instantiate inStep bindings asked (kept.earlier grows) builds
    exact ⟨twinBinding, twinBuilt, twinBound, twinBuilds, builts⟩
  cases resolved with
  | cached found =>
      exact ⟨_, .cached ((sameCache twins).trans found), lockstep.recorded twins rfl⟩
  | nameless missed empty =>
      exact ⟨_, .nameless ((sameCache twins).trans missed) empty, twins⟩
  | unbound missed named answer =>
      exact ⟨_, .unbound ((sameCache twins).trans missed) named
        (answer ▸ answers).of_unbound, lockstep.recorded asked rfl⟩
  | lookupFailed missed named answer =>
      exact ⟨_, .lookupFailed ((sameCache twins).trans missed) named
        (answer ▸ answers).of_failed, lockstep.recorded asked rfl⟩
  | constructionFailed missed named bound builds =>
      obtain ⟨_, twinBuilt, twinBound, twinBuilds, builts⟩ :=
        construction bound (.settle _ _ _) builds
      exact ⟨_, .constructionFailed ((sameCache twins).trans missed) named twinBound
        twinBuilds, lockstep.settled builts name _⟩
  | @published built _ handler missed named bound builds unpublished =>
      have grows :
          built.Grows (((built.settle name (.ok handler)).2.insert name
            ⟨name, built.handlers.length⟩).emit (.published name)) := by
        refine ((World.Grows.settle _ _ _).trans (.insert ?_ _)).trans (.record _ _)
        rwa [World.settle_registry]
      obtain ⟨_, twinBuilt, twinBound, twinBuilds, builts⟩ :=
        construction bound grows builds
      have published :=
        Resolved.published ((sameCache twins).trans missed) named
          twinBound twinBuilds
          ((sameCache builts).trans unpublished)
      rw [lockstep.handlers builts] at published
      exact ⟨_, published,
        lockstep.recorded (alike.inserted (lockstep.settled builts name _) _) rfl⟩
  | @discarded built _ handler _ missed named bound builds present =>
      obtain ⟨_, twinBuilt, twinBound, twinBuilds, builts⟩ :=
        construction bound ((World.Grows.settle _ _ _).trans (.record _ _)) builds
      exact ⟨_, .discarded ((sameCache twins).trans missed) named
        twinBound twinBuilds
        ((sameCache builts).trans present),
        lockstep.recorded (lockstep.settled builts name _) rfl⟩

/-- Resolve calls for such a name stay in step. -/
theorem resolveWith
    (lockstep : Lockstep permits start related)
    (inStep : calls.InStep (start.ServedWithin permits) related others)
    {resolver other : Resolver}
    {name : String}
    (alike : resolver.Alike permits related other name)
    (strict : Bool) :
    (Dispatch.resolveWith resolver calls name strict).InStep
      (start.ServedWithin permits) related
      (Dispatch.resolveWith other others name strict) := by
  intro world twin answer after twins kept finished
  obtain ⟨handle, ended, resolved, rfl, rfl⟩ :=
    resolveWith_eq_some_iff.mp finished
  obtain ⟨twinEnded, twinResolved, endeds⟩ :=
    lockstep.resolved inStep alike (lockstep.recorded twins rfl)
      (kept.earlier (.record ended _)) resolved
  exact ⟨_, resolveWith_eq_some_iff.mpr ⟨handle, twinEnded, twinResolved, rfl, rfl⟩,
    lockstep.recorded endeds rfl⟩

/--
Calls that nest to any depth are in step if resolve calls are over calls that are.
-/
theorem nested
    (lockstep : Lockstep permits start related)
    {resolver other : Resolver}
    (resolves :
      ∀ {calls others : Calls},
        calls.InStep (start.ServedWithin permits) related others →
        ∀ name strict,
          (Dispatch.resolveWith resolver calls name strict).InStep
            (start.ServedWithin permits) related
            (Dispatch.resolveWith other others name strict))
    (depth : Nat) :
    (Calls.nested resolver depth).InStep (start.ServedWithin permits) related
      (Calls.nested other depth) := by
  induction depth with
  | zero =>
      refine ⟨?_, ?_, World.Grows.stable.nested resolver 0⟩
      · intro name strict world twin answer after _ _ finished
        cases finished
      · intro instanceId request world twin answer after _ _ finished
        cases finished
  | succ depth inductionHypothesis =>
      exact
        { resolve := resolves inductionHypothesis
          serve := lockstep.serveWith inductionHypothesis
          grow := World.Grows.stable.nested resolver (depth + 1) }

/-- Resolving strictly stays in step. -/
theorem resolveStrict
    (inStep : calls.InStep (start.ServedWithin permits) related others)
    (name : String) :
    (calls.resolveStrict name).InStep (start.ServedWithin permits) related
      (others.resolveStrict name) :=
  .bind .earlier (fun _ => World.Grows.stable.pure _) (inStep.resolve name true)
    fun _ => .pure _

/-- Resolving a locator stays in step. -/
theorem get
    (inStep : calls.InStep (start.ServedWithin permits) related others)
    (locator : Locator)
    (base : Option Value) :
    (calls.get locator base).InStep (start.ServedWithin permits) related
      (others.get locator base) := by
  unfold Calls.get
  cases locator.scheme with
  | none =>
      exact .pure _
  | some name =>
      refine .bind .earlier ?_ (resolveStrict inStep name) ?_
      · intro answer
        cases answer with
        | error error =>
            exact World.Grows.stable.pure _
        | ok handle =>
            exact (inStep.grow.serve handle.instanceId ⟨locator, base⟩).bind
              World.Grows.stable.trans fun _ => World.Grows.stable.pure _
      · intro answer
        cases answer with
        | error error =>
            exact .pure _
        | ok handle =>
            exact .bind .earlier (fun _ => World.Grows.stable.pure _)
              (inStep.serve handle.instanceId ⟨locator, base⟩) fun _ => .pure _

/-- Operations that obtain or use a handler stay in step, if settings may be read. -/
theorem perform
    (lockstep : Lockstep permits start related)
    (inStep : calls.InStep (start.ServedWithin permits) related others)
    (readable : permits .readSettings)
    {operation : Operation}
    (isCall : operation.isCall) :
    (operation.perform calls).InStep (start.ServedWithin permits) related
      (operation.perform others) := by
  cases operation with
  | resolve name strict =>
      exact (inStep.resolve name strict).map
  | resolveStrict name =>
      exact (resolveStrict inStep name).map
  | resolveOrNone name =>
      exact (Run.InStep.bind .earlier (fun _ => World.Grows.stable.pure _)
        (inStep.resolve name false) fun _ => .pure _).map
  | find name =>
      refine Run.InStep.map ?_
      intro world twin answer after twins kept finished
      have same := lockstep.settings twins readable
      change ∃ twinAfter, others.resolve name twin.registry.settings.strict twin =
        _ ∧ _
      rw [same]
      exact inStep.resolve name _ twins kept finished
  | get locator base =>
      exact (get inStep locator base).map
  | serve handle request =>
      exact (inStep.serve handle.instanceId request).map
  | _ =>
      cases isCall

end Lockstep

end Dispatch
