import Dispatch.Registry.Run

namespace Dispatch

/-!
# What a resolve call does

A resolve call has seven ways to go.  `Resolved` lists them with the world that
each one leaves, and `handleFor_eq_some_iff` says that there are no others.
Read from left to right it tells what a finished call has done; read from right
to left it runs a call.  A request has two ways to go, which `Served` lists in
the same manner.
-/

namespace Run

variable {α β : Type}

/-- A finished sequence consists of two finished parts. -/
theorem bind_eq_some_iff
    {run : Run α}
    {next : α → Run β}
    {world after : World}
    {answer : β} :
    (run >>= next) world = some (answer, after) ↔
      ∃ value middle,
        run world = some (value, middle) ∧
          next value middle = some (answer, after) := by
  change (run world).bind (fun found => next found.1 found.2) = _ ↔ _
  rw [Option.bind_eq_some_iff]
  constructor
  · rintro ⟨⟨value, middle⟩, first, second⟩
    exact ⟨value, middle, first, second⟩
  · rintro ⟨value, middle, first, second⟩
    exact ⟨(value, middle), first, second⟩

/-- A sequence goes on with what its first part has given. -/
theorem bind_of_eq
    {run : Run α}
    {next : α → Run β}
    {world middle : World}
    {value : α}
    (first : run world = some (value, middle)) :
    (run >>= next) world = next value middle := by
  change (run world).bind (fun found => next found.1 found.2) = _
  rw [first]
  rfl

/-- A mapped run finishes where the run does. -/
theorem map_eq_some_iff
    {run : Run α}
    {change : α → β}
    {world after : World}
    {answer : β} :
    (change <$> run) world = some (answer, after) ↔
      ∃ value, run world = some (value, after) ∧ change value = answer := by
  change (run world).bind (fun found => some (change found.1, found.2)) = _ ↔ _
  rw [Option.bind_eq_some_iff]
  constructor
  · rintro ⟨⟨value, middle⟩, finished, same⟩
    cases same
    exact ⟨value, finished, rfl⟩
  · rintro ⟨value, finished, rfl⟩
    exact ⟨(value, after), finished, rfl⟩

@[simp] theorem pure_apply
    (answer : α)
    (world : World) :
    (pure answer : Run α) world = some (answer, world) :=
  rfl

@[simp] theorem step_bind_apply
    (change : World → α × World)
    (next : α → Run β)
    (world : World) :
    (step change >>= next) world =
      next (change world).1 (change world).2 :=
  rfl

@[simp] theorem record_bind_apply
    (entry : Entry)
    (next : Unit → Run β)
    (world : World) :
    (record entry >>= next) world = next () (world.record entry) :=
  rfl

@[simp] theorem world_bind_apply
    (next : World → Run β)
    (world : World) :
    (Run.world >>= next) world = next world world :=
  rfl

end Run

/--
Says how the constructions of a binding go: their outcomes and the worlds they
leave.
-/
abbrev Builds :=
  Binding → World → Except ConstructionFailure Handler → World → Prop

/-- The constructions that run over the given calls. -/
def Calls.builds
    (calls : Calls) : Builds :=
  fun binding world outcome after =>
    binding.instantiate calls world = some (outcome, after)

namespace World

/-- The world in which a constructor runs for a resolve call. -/
def opened
    (world : World)
    (name : String)
    (serial : Nat)
    (typeName : String)
    (index : Option Nat) : World :=
  ((world.record (.called name)).ask name).record
    (.constructing serial typeName index)

@[simp] theorem journal_opened
    (world : World)
    (name : String)
    (serial : Nat)
    (typeName : String)
    (index : Option Nat) :
    (world.opened name serial typeName index).journal =
      world.journal ++ [.called name, .constructing serial typeName index] := by
  simp [opened]

@[simp] theorem constructionsOf_called
    (world : World)
    (name : String)
    (serial : Nat) :
    ((world.record (.called name)).ask name).constructionsOf serial =
      world.constructionsOf serial := by
  simp [constructionsOf, Journal.constructionsOf, record, ask]

theorem constructionsOf_opened
    (world : World)
    (name : String)
    (serial : Nat)
    (typeName : String)
    (index : Option Nat) :
    (world.opened name serial typeName index).constructionsOf serial =
      world.constructionsOf serial + 1 := by
  simp [constructionsOf, Journal.constructionsOf, opened, record, ask]

end World

/-- A factory builds what its script for this run gives, and fails where it fails. -/
theorem Calls.builds_of_factory
    {calls : Calls}
    {binding : Binding}
    {typeName : String}
    {make : Nat → Script .construct}
    (isFactory : binding.descriptor = .factory typeName make)
    {world after : World}
    {outcome : Except Failure Handler}
    (ran :
      (make (world.constructionsOf binding.serial)).run calls
          (world.record
            (.constructing binding.serial typeName
              (some (world.constructionsOf binding.serial)))) =
        some (outcome, after)) :
    calls.builds binding world
      (outcome.mapError (ConstructionFailure.failed typeName)) after := by
  simp only [builds, Binding.instantiate, isFactory, Run.world_bind_apply,
    Run.record_bind_apply]
  rw [Run.bind_of_eq ran]
  rfl

/--
Says what scripts of constructors do: their outcomes and the worlds they leave.
-/
abbrev Runs :=
  Script .construct → World → Except Failure Handler → World → Prop

/-- The scripts that run over the given calls. -/
def Calls.runs
    (calls : Calls) : Runs :=
  fun script world outcome after =>
    script.run calls world = some (outcome, after)

/--
The ways in which a handler is built from a binding, each with the world that it
leaves.
-/
inductive Constructed
    (runs : Runs)
    (binding : Binding) :
    World → Except ConstructionFailure Handler → World → Prop
  /-- The type has no constructor. -/
  | abstract
      {world : World}
      {typeName : String}
      (isAbstract : binding.descriptor = .abstract typeName) :
      Constructed runs binding
        world (.error (.abstract typeName)) world
  /-- The constructor gives the handler of the type. -/
  | plain
      {world : World}
      {typeName : String}
      {handler : Handler}
      (isPlain : binding.descriptor = .plain typeName handler) :
      Constructed runs binding
        world (.ok handler)
          (world.record (.constructing binding.serial typeName none))
  /-- The constructor runs the script for the number of its runs so far. -/
  | factory
      {world after : World}
      {typeName : String}
      {make : Nat → Script .construct}
      {outcome : Except Failure Handler}
      (isFactory : binding.descriptor = .factory typeName make)
      (ran :
        runs (make (world.constructionsOf binding.serial))
          (world.record
            (.constructing binding.serial typeName
              (some (world.constructionsOf binding.serial))))
          outcome after) :
      Constructed runs binding
        world (outcome.mapError (ConstructionFailure.failed typeName)) after

/-- The ways of a construction depend on scripts only through what these do. -/
theorem Constructed.mono
    {runs weaker : Runs}
    (weakens :
      ∀ {script world outcome after},
        runs script world outcome after →
        weaker script world outcome after)
    {binding : Binding}
    {world after : World}
    {outcome : Except ConstructionFailure Handler}
    (constructed : Constructed runs binding world outcome after) :
    Constructed weaker binding world outcome after := by
  cases constructed with
  | abstract isAbstract =>
      exact .abstract isAbstract
  | plain isPlain =>
      exact .plain isPlain
  | factory isFactory ran =>
      exact .factory isFactory (weakens ran)

/-- A type with a handler of its own gives that. -/
theorem Constructed.of_plain
    {runs : Runs}
    {binding : Binding}
    {typeName : String}
    {handler : Handler}
    (isPlain : binding.descriptor = .plain typeName handler)
    {world after : World}
    {outcome : Except ConstructionFailure Handler}
    (constructed : Constructed runs binding world outcome after) :
    outcome = .ok handler ∧
      after = world.record (.constructing binding.serial typeName none) := by
  cases constructed with
  | abstract isAbstract =>
      cases isPlain.symm.trans isAbstract
  | plain isPlainToo =>
      cases isPlain.symm.trans isPlainToo
      exact ⟨rfl, rfl⟩
  | factory isFactory ran =>
      cases isPlain.symm.trans isFactory

/-- A type with a constructor gives what the script of its run ends with. -/
theorem Constructed.of_factory
    {runs : Runs}
    {binding : Binding}
    {typeName : String}
    {make : Nat → Script .construct}
    (isFactory : binding.descriptor = .factory typeName make)
    {world after : World}
    {outcome : Except ConstructionFailure Handler}
    (constructed : Constructed runs binding world outcome after) :
    ∃ ended,
      outcome = ended.mapError (ConstructionFailure.failed typeName) ∧
        runs (make (world.constructionsOf binding.serial))
          (world.record
            (.constructing binding.serial typeName
              (some (world.constructionsOf binding.serial))))
          ended after := by
  cases constructed with
  | abstract isAbstract =>
      cases isFactory.symm.trans isAbstract
  | plain isPlain =>
      cases isFactory.symm.trans isPlain
  | factory isFactoryToo ran =>
      cases isFactory.symm.trans isFactoryToo
      exact ⟨_, rfl, ran⟩

/-- There are no other ways. -/
theorem Calls.builds_iff
    {calls : Calls}
    {binding : Binding}
    {world after : World}
    {outcome : Except ConstructionFailure Handler} :
    calls.builds binding world outcome after ↔
      Constructed calls.runs binding world outcome after := by
  constructor
  · intro built
    cases described : binding.descriptor with
    | abstract typeName =>
        simp only [builds, Binding.instantiate, described] at built
        cases built
        exact .abstract described
    | plain typeName handler =>
        simp only [builds, Binding.instantiate, described] at built
        cases built
        exact .plain described
    | factory typeName make =>
        simp only [builds, Binding.instantiate, described, Run.world_bind_apply,
          Run.record_bind_apply] at built
        obtain ⟨_, ended, ran, answered⟩ := Run.bind_eq_some_iff.mp built
        cases answered
        exact .factory described ran
  · intro constructed
    cases constructed with
    | abstract isAbstract =>
        simp [builds, Binding.instantiate, isAbstract]
    | plain isPlain =>
        simp [builds, Binding.instantiate, isPlain]
    | factory isFactory ran =>
        exact builds_of_factory isFactory ran

/-- Whoever was asked for, a resolver answers a name with a binding. -/
def Resolver.Binds
    (resolver : Resolver)
    (directory : Directory)
    (name : String)
    (binding : Binding) : Prop :=
  ∀ asked, resolver { directory with asked := asked } name = .bound binding

/-- The binding that an answer of a resolver gives, if it gives one. -/
def Lookup.binding? : Lookup → Option Binding
  | bound binding => some binding
  | unbound => none
  | failed _ => none

/-- Whoever was asked for, the bindings of a resolver are the same. -/
def Resolver.Offers
    (resolver : Resolver)
    (directory : Directory)
    (bound : String → Option Binding) : Prop :=
  ∀ name asked,
    name ≠ "" →
    (resolver { directory with asked := asked } name).binding? = bound name

/-- What the type table binds is on offer. -/
theorem Resolver.ofTable_offers
    (directory : Directory) :
    Resolver.ofTable.Offers directory directory.table.find? := by
  intro name asked _
  cases found : directory.table.find? name <;>
    simp [ofTable, found, Lookup.binding?]

/-- The resolver of the type table answers a binding where the table has one. -/
theorem Resolver.ofTable_eq_bound_iff
    {directory : Directory}
    {name : String}
    {binding : Binding} :
    Resolver.ofTable directory name = .bound binding ↔
      directory.table.find? name = some binding := by
  cases found : directory.table.find? name with
  | none =>
      simp [ofTable, found]
  | some other =>
      simp [ofTable, found]

/-- What the type table binds is what its resolver answers. -/
theorem Resolver.ofTable_binds
    {directory : Directory}
    {name : String}
    {binding : Binding}
    (found : directory.table.find? name = some binding) :
    Resolver.ofTable.Binds directory name binding :=
  fun _ => ofTable_eq_bound_iff.mpr found

/--
The ways in which a handle is obtained for a name, each with the world that it
leaves.
-/
inductive Resolved
    (resolver : Resolver)
    (builds : Builds)
    (name : String) :
    World → Option Handle → World → Prop
  /-- The cache holds a handle. -/
  | cached
      {world : World}
      {handle : Handle}
      (found : world.registry.cache.find? name = some handle) :
      Resolved resolver builds name
        world (some handle) (world.emit (.cacheHit name))
  /-- The empty name is asked of nobody. -/
  | nameless
      {world : World}
      (missed : world.registry.cache.find? name = none)
      (empty : name = "") :
      Resolved resolver builds name
        world none world
  /-- Nothing is bound to the name. -/
  | unbound
      {world : World}
      (missed : world.registry.cache.find? name = none)
      (named : name ≠ "")
      (answer : resolver world.directory name = .unbound) :
      Resolved resolver builds name
        world none ((world.ask name).emit (.unbound name))
  /-- What is bound to the name cannot be learnt. -/
  | lookupFailed
      {world : World}
      {failure : LookupFailure}
      (missed : world.registry.cache.find? name = none)
      (named : name ≠ "")
      (answer : resolver world.directory name = .failed failure) :
      Resolved resolver builds name
        world none ((world.ask name).emit (.lookupFailed name failure))
  /-- The construction fails. -/
  | constructionFailed
      {world built : World}
      {binding : Binding}
      {failure : ConstructionFailure}
      (missed : world.registry.cache.find? name = none)
      (named : name ≠ "")
      (answer : resolver world.directory name = .bound binding)
      (construction : builds binding (world.ask name) (.error failure) built) :
      Resolved resolver builds name
        world none (built.settle name (.error failure)).2
  /-- The handler is built and published. -/
  | published
      {world built : World}
      {binding : Binding}
      {handler : Handler}
      (missed : world.registry.cache.find? name = none)
      (named : name ≠ "")
      (answer : resolver world.directory name = .bound binding)
      (construction : builds binding (world.ask name) (.ok handler) built)
      (unpublished : built.registry.cache.find? name = none) :
      Resolved resolver builds name
        world (some ⟨name, built.handlers.length⟩)
        (((built.settle name (.ok handler)).2.insert name
          ⟨name, built.handlers.length⟩).emit (.published name))
  /-- The handler is built and dropped, because one was published meanwhile. -/
  | discarded
      {world built : World}
      {binding : Binding}
      {handler : Handler}
      {existing : Handle}
      (missed : world.registry.cache.find? name = none)
      (named : name ≠ "")
      (answer : resolver world.directory name = .bound binding)
      (construction : builds binding (world.ask name) (.ok handler) built)
      (present : built.registry.cache.find? name = some existing) :
      Resolved resolver builds name
        world (some existing)
        ((built.settle name (.ok handler)).2.emit (.duplicateDiscarded name))

section

/-- The ways of a call depend on constructions only through what these do. -/
theorem Resolved.mono
    {resolver : Resolver}
    {builds weaker : Builds}
    (weakens :
      ∀ {binding world outcome after},
        builds binding world outcome after →
        weaker binding world outcome after)
    {name : String}
    {world after : World}
    {handle : Option Handle}
    (resolved : Resolved resolver builds name world handle after) :
    Resolved resolver weaker name world handle after := by
  cases resolved with
  | cached found =>
      exact .cached found
  | nameless missed empty =>
      exact .nameless missed empty
  | unbound missed named answer =>
      exact .unbound missed named answer
  | lookupFailed missed named answer =>
      exact .lookupFailed missed named answer
  | constructionFailed missed named answer construction =>
      exact .constructionFailed missed named answer (weakens construction)
  | published missed named answer construction unpublished =>
      exact .published missed named answer (weakens construction) unpublished
  | discarded missed named answer construction present =>
      exact .discarded missed named answer (weakens construction) present

/-- What a call obtains is then in the cache. -/
theorem Resolved.holds
    {resolver : Resolver}
    {builds : Builds}
    {name : String}
    {world after : World}
    {handle : Handle}
    (resolved : Resolved resolver builds name world (some handle) after) :
    after.registry.cache.find? name = some handle := by
  cases resolved with
  | cached found =>
      exact found
  | published missed named answer construction unpublished =>
      change (World.insert _ name _).registry.cache.find? name = _
      rw [World.find?_insert, if_pos rfl]
  | @discarded built _ handler _ missed named answer construction present =>
      change (built.settle name (.ok handler)).2.registry.cache.find? name = _
      rw [World.settle_registry]
      exact present

/-- A call that obtains nothing has not found anything in the cache. -/
theorem Resolved.missed
    {resolver : Resolver}
    {builds : Builds}
    {name : String}
    {world after : World}
    (resolved : Resolved resolver builds name world none after) :
    world.registry.cache.find? name = none := by
  cases resolved with
  | nameless missed empty => exact missed
  | unbound missed named answer => exact missed
  | lookupFailed missed named answer => exact missed
  | constructionFailed missed named answer construction => exact missed

variable
  {resolver : Resolver}
  {calls : Calls}
  {name : String}
  {world built after : World}
  {handle : Option Handle}

/-- The name of a construction is looked up, unless it is empty. -/
theorem construct_of_named
    (named : name ≠ "") :
    construct resolver calls name world =
      match world.hear name (resolver world.directory name) with
      | (none, heard) =>
          some (none, heard)
      | (some binding, heard) =>
          (binding.instantiate calls >>= fun outcome =>
            Run.step fun world => world.settle name outcome) heard := by
  have notEmpty : name.isEmpty = false := by
    simpa using named
  simp only [construct, notEmpty, Bool.false_eq_true, ↓reduceIte, lookUp,
    Run.step_bind_apply]
  rcases world.hear name (resolver world.directory name) with ⟨_ | binding, heard⟩
  · rfl
  · rfl

/-- What is bound to a name is built, and the outcome is taken note of. -/
theorem construct_of_bound
    {binding : Binding}
    {outcome : Except ConstructionFailure Handler}
    (named : name ≠ "")
    (answer : resolver world.directory name = .bound binding)
    (construction : calls.builds binding (world.ask name) outcome built) :
    construct resolver calls name world = some (built.settle name outcome) := by
  rw [construct_of_named named, answer]
  exact Run.bind_of_eq construction

/-- A miss leads to a construction; what it builds is published. -/
theorem handleFor_of_missed
    (missed : world.registry.cache.find? name = none)
    {instanceId : Option Nat}
    (constructed :
      construct resolver calls name world = some (instanceId, built)) :
    handleFor resolver calls name world =
      match instanceId with
      | none => some (none, built)
      | some instanceId =>
          some (some (built.publish name instanceId).1,
            (built.publish name instanceId).2) := by
  simp only [handleFor, Run.step_bind_apply, World.checkCache, missed]
  rw [Run.bind_of_eq constructed]
  cases instanceId with
  | none => rfl
  | some instanceId => rfl

/-- A call that has taken one of the seven ways ends as that way says. -/
theorem Resolved.handleFor_eq
    (resolved : Resolved resolver calls.builds name world handle after) :
    handleFor resolver calls name world = some (handle, after) := by
  cases resolved with
  | cached found =>
      simp [handleFor, World.checkCache, found]
  | nameless missed empty =>
      subst empty
      exact handleFor_of_missed missed rfl
  | unbound missed named answer =>
      have constructed :
          construct resolver calls name world =
            some (none, (world.ask name).emit (.unbound name)) := by
        rw [construct_of_named named, answer]
        rfl
      exact handleFor_of_missed missed constructed
  | @lookupFailed failure missed named answer =>
      have constructed :
          construct resolver calls name world =
            some (none, (world.ask name).emit (.lookupFailed name failure)) := by
        rw [construct_of_named named, answer]
        rfl
      exact handleFor_of_missed missed constructed
  | constructionFailed missed named answer construction =>
      exact handleFor_of_missed missed
        (construct_of_bound named answer construction)
  | @published built _ handler missed named answer construction unpublished =>
      have unpublishedYet :
          (built.settle name (.ok handler)).2.registry.cache.find? name = none := by
        rwa [World.settle_registry]
      rw [handleFor_of_missed missed
        (construct_of_bound named answer construction)]
      exact congrArg
        (fun result : Handle × World => some (some result.1, result.2))
        (World.publish_of_unpublished unpublishedYet built.handlers.length)
  | @discarded built _ handler existing missed named answer construction present =>
      have presentStill :
          (built.settle name (.ok handler)).2.registry.cache.find? name =
            some existing := by
        rwa [World.settle_registry]
      rw [handleFor_of_missed missed
        (construct_of_bound named answer construction)]
      exact congrArg
        (fun result : Handle × World => some (some result.1, result.2))
        (World.publish_of_present presentStill built.handlers.length)

/-- A construction of a bound name finishes only if its constructor does. -/
theorem builds_of_construct
    {binding : Binding}
    {instanceId : Option Nat}
    (named : name ≠ "")
    (answer : resolver world.directory name = .bound binding)
    (constructed :
      construct resolver calls name world = some (instanceId, after)) :
    ∃ outcome built, calls.builds binding (world.ask name) outcome built := by
  rw [construct_of_named named, answer] at constructed
  obtain ⟨outcome, built, construction, _⟩ :=
    Run.bind_eq_some_iff.mp constructed
  exact ⟨outcome, built, construction⟩

/-- A finished call has taken one of the seven ways. -/
theorem Resolved.exists_of_handleFor
    (finished : handleFor resolver calls name world = some (handle, after)) :
    ∃ handle after,
      Resolved resolver calls.builds name world handle after := by
  cases missed : world.registry.cache.find? name with
  | some existing =>
      exact ⟨_, _, .cached missed⟩
  | none =>
      by_cases named : name = ""
      · exact ⟨_, _, .nameless missed named⟩
      · cases answer : resolver world.directory name with
        | unbound =>
            exact ⟨_, _, .unbound missed named answer⟩
        | failed failure =>
            exact ⟨_, _, .lookupFailed missed named answer⟩
        | bound binding =>
            simp only [handleFor, Run.step_bind_apply, World.checkCache, missed,
              Run.bind_eq_some_iff] at finished
            obtain ⟨_, _, constructed, _⟩ := finished
            obtain ⟨outcome, built, construction⟩ :=
              builds_of_construct named answer constructed
            cases outcome with
            | error failure =>
                exact ⟨_, _, .constructionFailed missed named answer construction⟩
            | ok handler =>
                cases present : built.registry.cache.find? name with
                | none =>
                    exact ⟨_, _, .published missed named answer construction present⟩
                | some existing =>
                    exact ⟨_, _, .discarded missed named answer construction present⟩

/-- The seven ways are all that a finished call can have taken. -/
theorem handleFor_eq_some_iff :
    handleFor resolver calls name world = some (handle, after) ↔
      Resolved resolver calls.builds name world handle after := by
  constructor
  · intro finished
    obtain ⟨_, _, resolved⟩ := Resolved.exists_of_handleFor finished
    have same := resolved.handleFor_eq.symm.trans finished
    cases same
    exact resolved
  · exact Resolved.handleFor_eq

/-- A resolve call records its beginning and its end around what it does. -/
theorem resolveWith_eq_some_iff
    {strict : Bool}
    {answer : Resolution} :
    resolveWith resolver calls name strict world = some (answer, after) ↔
      ∃ handle ended,
        Resolved resolver calls.builds name
            (world.record (.called name)) handle ended ∧
          answer = Resolution.ofHandle? name strict handle ∧
          after = ended.record (.returned name handle) := by
  simp only [resolveWith, Run.record_bind_apply, Run.bind_eq_some_iff,
    handleFor_eq_some_iff, Run.pure_apply, Option.some.injEq, Prod.mk.injEq]
  constructor
  · rintro ⟨handle, ended, resolved, rfl, rfl⟩
    exact ⟨handle, ended, resolved, rfl, rfl⟩
  · rintro ⟨handle, ended, resolved, rfl, rfl⟩
    exact ⟨handle, ended, resolved, rfl, rfl⟩

/--
A call that has taken one of the seven ways answers as strictly as it is asked to.
-/
theorem Resolved.nested_eq
    {depth : Nat}
    {ended : World}
    (resolved :
      Resolved resolver (Calls.nested resolver depth).builds name
        (world.record (.called name)) handle ended)
    (strict : Bool) :
    (Calls.nested resolver (depth + 1)).resolve name strict world =
      some
        (Resolution.ofHandle? name strict handle,
          ended.record (.returned name handle)) :=
  resolveWith_eq_some_iff.mpr ⟨handle, ended, resolved, rfl, rfl⟩

end

/-! ## Requests -/

/--
The two ways a request goes: nobody is there to serve it, or a handler does its
work.
-/
inductive Served
    (calls : Calls)
    (instanceId : Nat)
    (request : Request) :
    World → Except Failure Value → World → Prop
  /-- No handler has the number. -/
  | nobody
      {world : World}
      (absent : world.handlers[instanceId]? = none) :
      Served calls instanceId request
        world (.error (Failure.single "no such handler")) world
  /-- The handler with the number has ended its work. -/
  | answered
      {world ended : World}
      {handler : Handler}
      {outcome : Except Failure Value}
      (present : world.handlers[instanceId]? = some handler)
      (ran :
        (handler.respond (world.requestsTo instanceId) request).run calls
            (world.record (.serving instanceId request)) =
          some (outcome, ended)) :
      Served calls instanceId request
        world outcome (ended.record (.served instanceId outcome))

/-- A finished request has gone one of the two ways. -/
theorem serveWith_eq_some_iff
    {calls : Calls}
    {instanceId : Nat}
    {request : Request}
    {world after : World}
    {outcome : Except Failure Value} :
    serveWith calls instanceId request world = some (outcome, after) ↔
      Served calls instanceId request world outcome after := by
  constructor
  · intro finished
    simp only [serveWith, Run.world_bind_apply] at finished
    cases known : world.handlers[instanceId]? with
    | none =>
        simp only [known] at finished
        cases finished
        exact .nobody known
    | some handler =>
        simp only [known, Run.record_bind_apply] at finished
        obtain ⟨_, ended, ran, answered⟩ := Run.bind_eq_some_iff.mp finished
        cases answered
        exact .answered known ran
  · intro served
    cases served with
    | nobody absent =>
        simp only [serveWith, Run.world_bind_apply, absent]
        rfl
    | answered present ran =>
        simp only [serveWith, Run.world_bind_apply, present, Run.record_bind_apply]
        rw [Run.bind_of_eq ran]
        rfl

end Dispatch
