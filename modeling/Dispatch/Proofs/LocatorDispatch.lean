import Dispatch.Proofs.CacheIntegrity
import Dispatch.Proofs.EntryPoints

namespace Dispatch

/-!
# Resolving a locator to a value

A locator is resolved in two steps.  Its scheme is resolved as a strict caller
resolves it, and the handler is then given one request: the locator itself, with
the base that came with it.  `Fetched` lists the three ways in which this goes.
That a published handle has a handler behind it is what makes them three; it
holds in every world that comes about, and `World.Reachable` says which these are.
-/

/-- Every published handle has a handler. -/
def World.Staffed
    (world : World) : Prop :=
  ∀ {name handle},
    world.registry.cache.find? name = some handle →
    handle.instanceId < world.handlers.length

/--
The worlds that come about over a resolver, those included in which the code of a
constructor or a handler goes on, and those of several registries that share what
is around them.
-/
inductive World.Reachable (resolver : Resolver) : World → Prop
  /-- A registry is created. -/
  | created (settings : Settings) :
      Reachable resolver (World.create settings)
  /-- An operation has been performed. -/
  | performed
      {world after : World}
      {operation : Operation}
      {depth : Nat}
      {answer : Answer}
      (reachable : Reachable resolver world)
      (finished :
        operation.perform (Calls.nested resolver depth) world =
          some (answer, after)) :
      Reachable resolver after
  /--
  Something has happened beside the registry: a constructor or a handler has begun,
  a remark was left, the resolver was asked, a handler was built for nobody.
  -/
  | beside
      {world after : World}
      (reachable : Reachable resolver world)
      (registry : after.registry = world.registry)
      (handlers : world.handlers <+: after.handlers) :
      Reachable resolver after
  /-- Another registry is used, a fresh one or one that was left aside earlier. -/
  | switched
      {earlier world : World}
      (aside : Reachable resolver earlier)
      (reachable : Reachable resolver world)
      (handlers : earlier.handlers <+: world.handlers) :
      Reachable resolver { world with registry := earlier.registry }

namespace World

namespace Staffed

variable {world : World}

/-- Further handlers do no harm. -/
theorem ofPrefix
    {after : World}
    (staffed : world.Staffed)
    (registry : after.registry = world.registry)
    (handlers : world.handlers <+: after.handlers) :
    after.Staffed := by
  intro name handle found
  rw [registry] at found
  exact Nat.lt_of_lt_of_le (staffed found) handlers.length_le

/-- What is published has been given its number before. -/
theorem published
    (staffed : world.Staffed)
    (name : String)
    (handler : Handler) :
    ((world.settle name (.ok handler)).2.insert name
      ⟨name, world.handlers.length⟩).Staffed := by
  intro other handle found
  change handle.instanceId < (world.handlers ++ [handler]).length
  rw [List.length_append, List.length_singleton]
  rw [find?_insert, settle_registry] at found
  split at found
  · cases found
    exact Nat.lt_succ_self _
  · exact Nat.lt_succ_of_lt (staffed found)

theorem gradual : Gradual fun before after => before.Staffed → after.Staffed where
  refl _ := id
  trans _ _ _ earlier later := later ∘ earlier
  recorded _ _ _ staffed := staffed
  redirected _ _ staffed := staffed
  settled world name outcome staffed :=
    staffed.ofPrefix (settle_registry _ _ _)
      (Grows.settle world name outcome).handlers
  published _ handler staffed := staffed.published _ handler

/-- No run takes a handler away from a published handle. -/
theorem stable : Stable fun before after => before.Staffed → after.Staffed where
  toFirm := gradual.firm
  served _ _ _ work staffed := work staffed

/-- So there is a handler for each. -/
theorem exists_handler
    (staffed : world.Staffed)
    {name : String}
    {handle : Handle}
    (found : world.registry.cache.find? name = some handle) :
    ∃ handler, world.handlers[handle.instanceId]? = some handler :=
  ⟨_, List.getElem?_eq_getElem (staffed found)⟩

end Staffed

/-- Whatever world comes about, every published handle has a handler. -/
theorem Reachable.staffed
    {resolver : Resolver}
    {world : World}
    (reachable : world.Reachable resolver) :
    world.Staffed := by
  induction reachable with
  | created settings =>
      intro name handle found
      cases found
  | performed _ finished inductionHypothesis =>
      exact Staffed.stable.perform (Staffed.stable.nested _ _) _ finished
        inductionHypothesis
  | beside _ registry handlers inductionHypothesis =>
      exact inductionHypothesis.ofPrefix registry handlers
  | switched _ _ handlers asideStaffed _ =>
      intro name handle found
      exact Nat.lt_of_lt_of_le (asideStaffed found) handlers.length_le

end World

/-- The handler behind a handle, given a request, works on it and ends in a world. -/
def Responds
    (calls : Calls)
    (handle : Handle)
    (request : Request)
    (world : World)
    (outcome : Except Failure Value)
    (ended : World) : Prop :=
  ∃ handler,
    world.handlers[handle.instanceId]? = some handler ∧
      (handler.respond (world.requestsTo handle.instanceId) request).run calls
          (world.record (.serving handle.instanceId request)) =
        some (outcome, ended)

/--
The ways in which a locator is resolved, each with its answer and the world that it
leaves.
-/
inductive Fetched
    (resolver : Resolver)
    (depth : Nat)
    (locator : Locator)
    (base : Option Value)
    (world : World) :
    Except DispatchError Value → World → Prop
  /-- A relative locator names no scheme, and nothing is done about it. -/
  | relative
      (isRelative : locator.scheme = none) :
      Fetched resolver depth locator base world
        (.error (.relative locator.text)) world
  /-- The scheme is not resolved, and nobody is given a request. -/
  | unresolved
      {name : String}
      {after : World}
      (scheme : locator.scheme = some name)
      (resolved :
        (Calls.nested resolver (depth + 1)).resolveStrict name world =
          some (.error (.unresolved name), after)) :
      Fetched resolver depth locator base world
        (.error (.unresolved name)) after
  /--
  The handler of the scheme is given one request, and what it ends with is the
  answer.
  -/
  | answered
      {name : String}
      {handle : Handle}
      {middle ended : World}
      {outcome : Except Failure Value}
      (scheme : locator.scheme = some name)
      (resolved :
        (Calls.nested resolver (depth + 1)).resolveStrict name world =
          some (.ok handle, middle))
      (published : middle.registry.cache.find? name = some handle)
      (responds :
        Responds (Calls.nested resolver depth) handle ⟨locator, base⟩ middle
          outcome ended) :
      Fetched resolver depth locator base world
        (outcome.mapError (.handlerFailed name locator.text))
        (ended.record (.served handle.instanceId outcome))

section

variable
  {resolver : Resolver}
  {depth : Nat}
  {calls : Calls}
  {locator : Locator}
  {base : Option Value}
  {world middle after : World}
  {name : String}
  {handle : Handle}
  {answer : Except DispatchError Value}

/-! ## The steps -/

/-- A relative locator is turned down, whatever the registry. -/
theorem Calls.get_of_relative
    (isRelative : locator.scheme = none)
    (calls : Calls)
    (base : Option Value)
    (world : World) :
    calls.get locator base world =
        some (.error (.relative locator.text), world) := by
  simp [get, isRelative]

/-- Without a handle for its scheme, a locator is answered as the scheme is. -/
theorem Calls.get_of_error
    {error : DispatchError}
    (scheme : locator.scheme = some name)
    (resolved : calls.resolveStrict name world = some (.error error, after))
    (base : Option Value) :
    calls.get locator base world = some (.error error, after) := by
  simp only [get, scheme]
  rw [Run.bind_of_eq resolved]
  rfl

/-- With a handle for its scheme, a locator is passed on to the handler. -/
theorem Calls.get_of_handle
    (scheme : locator.scheme = some name)
    (resolved : calls.resolveStrict name world = some (.ok handle, middle))
    (base : Option Value) :
    calls.get locator base world =
      (Except.mapError (.handlerFailed name locator.text) <$>
        calls.serve handle.instanceId ⟨locator, base⟩) middle := by
  simp only [get, scheme]
  rw [Run.bind_of_eq resolved]
  exact congrFun (map_eq_pure_bind _ _).symm middle

/-- The request is one entry before the handler's work and one after it. -/
theorem Responds.serve_eq
    {request : Request}
    {outcome : Except Failure Value}
    {ended : World}
    (responds :
      Responds (Calls.nested resolver depth) handle request world outcome ended) :
    (Calls.nested resolver (depth + 1)).serve handle.instanceId request world =
      some (outcome, ended.record (.served handle.instanceId outcome)) := by
  obtain ⟨_, present, ran⟩ := responds
  exact serveWith_eq_some_iff.mpr (.answered present ran)

/-- A handler at work takes no published handle away. -/
theorem Responds.grows
    {request : Request}
    {outcome : Except Failure Value}
    {ended : World}
    (responds :
      Responds (Calls.nested resolver depth) handle request world outcome ended) :
    world.Grows (ended.record (.served handle.instanceId outcome)) := by
  obtain ⟨_, _, ran⟩ := responds
  have stable := World.Grows.stable
  exact stable.served _ _ _ (stable.script (stable.nested _ _) _ ran)

/--
A strict caller is handed what the cache then holds, or told that the name is
unresolved.
-/
theorem Calls.resolveStrict_cases
    {resolution : Except DispatchError Handle}
    (finished :
      (nested resolver depth).resolveStrict name world = some (resolution, after)) :
    resolution = .error (.unresolved name) ∨
      ∃ handle,
        resolution = .ok handle ∧ after.registry.cache.find? name = some handle := by
  cases depth with
  | zero =>
      cases finished
  | succ depth =>
      obtain ⟨_, _, called, answered⟩ := Run.bind_eq_some_iff.mp finished
      obtain ⟨handle, ended, resolved, rfl, rfl⟩ := resolveWith_eq_some_iff.mp called
      cases answered
      cases handle with
      | none =>
          exact .inl rfl
      | some handle =>
          exact .inr ⟨handle, rfl, resolved.holds⟩

/-- Code of constructors and handlers resolves locators as users do. -/
theorem Script.run_get
    {role : Role}
    (calls : Calls)
    (locator : Locator)
    (base : Option Value)
    (next : Except DispatchError Value → Script role) :
    (Script.get locator base next).run calls =
      calls.get locator base >>= fun answer => (next answer).run calls := by
  cases scheme : locator.scheme with
  | none =>
      simp only [Script.get, Calls.get, scheme, pure_bind]
  | some name =>
      simp only [Script.get, Calls.get, scheme, resolveStrict, Script.run,
        Calls.resolveStrict, bind_assoc, pure_bind]
      refine bind_congr fun resolution => ?_
      cases resolution.required name with
      | error error =>
          simp only [pure_bind]
      | ok handle =>
          simp only [Script.run, bind_assoc, pure_bind]

/-! ## The whole -/

/-- These are all the ways, where published handles have handlers. -/
theorem Calls.get_eq_some_iff
    (staffed : world.Staffed) :
    (nested resolver (depth + 1)).get locator base world = some (answer, after) ↔
      Fetched resolver depth locator base world answer after := by
  constructor
  · intro finished
    cases scheme : locator.scheme with
    | none =>
        rw [get_of_relative scheme] at finished
        cases finished
        exact .relative scheme
    | some name =>
        have parts := finished
        simp only [get, scheme] at parts
        obtain ⟨resolution, middle, resolved, -⟩ := Run.bind_eq_some_iff.mp parts
        rcases resolveStrict_cases resolved with rfl | ⟨handle, rfl, published⟩
        · rw [get_of_error scheme resolved] at finished
          cases finished
          exact .unresolved scheme resolved
        · rw [get_of_handle scheme resolved] at finished
          obtain ⟨outcome, served, rfl⟩ := Run.map_eq_some_iff.mp finished
          have stable := World.Staffed.stable
          have middleStaffed : middle.Staffed :=
            stable.resolveStrict (stable.nested _ _) _ resolved staffed
          obtain ⟨handler, present⟩ := middleStaffed.exists_handler published
          cases serveWith_eq_some_iff.mp served with
          | nobody absent =>
              cases present.symm.trans absent
          | answered present ran =>
              exact .answered scheme resolved published ⟨_, present, ran⟩
  · intro fetched
    cases fetched with
    | relative isRelative =>
        exact get_of_relative isRelative _ base world
    | unresolved scheme resolved =>
        exact get_of_error scheme resolved base
    | answered scheme resolved published responds =>
        rw [get_of_handle scheme resolved]
        exact Run.map_eq_some_iff.mpr ⟨_, responds.serve_eq, rfl⟩

/-- A locator may be relative, its scheme unresolved, or its handler may fail. -/
inductive Locator.Fault
    (locator : Locator) :
    DispatchError → Prop
  | relative
      (isRelative : locator.scheme = none) :
      Fault locator (.relative locator.text)
  | unresolved
      {name : String}
      (scheme : locator.scheme = some name) :
      Fault locator (.unresolved name)
  | handlerFailed
      {name : String}
      (scheme : locator.scheme = some name)
      (cause : Failure) :
      Fault locator (.handlerFailed name locator.text cause)

/-- No other error is answered, and a handler's failure is told in full. -/
theorem Fetched.fault
    {error : DispatchError}
    (fetched : Fetched resolver depth locator base world answer after)
    (failed : answer = .error error) :
    locator.Fault error := by
  cases fetched with
  | relative isRelative =>
      cases failed
      exact .relative isRelative
  | unresolved scheme resolved =>
      cases failed
      exact .unresolved scheme
  | @answered _ _ _ _ outcome scheme resolved published responds =>
      cases outcome with
      | ok value =>
          cases failed
      | error cause =>
          cases failed
          exact .handlerFailed scheme cause

/--
A locator from end to end, in any world that comes about.  A relative one is
turned down with its text and nothing happens.  One with a scheme is resolved as
a strict caller resolves the scheme.  If that fails, the answer is that the
scheme is unresolved, and nothing else happens.  If it gives a handle, its handler
is given one request, with the locator and the base as they are.  The scheme then
stays published under the same handle, however the handler ends.  A value is
answered as it is; a failure is wrapped with the scheme and the normal form of
the locator, and its messages are the sources.  There are no other errors.
-/
theorem locator_end_to_end
    (resolver : Resolver)
    (depth : Nat)
    {world : World}
    (reachable : world.Reachable resolver)
    (locator : Locator)
    (base : Option Value) :
    (locator.isRelative = true →
      ∀ calls : Calls,
        calls.get locator base world =
          some (.error (.relative locator.text), world)) ∧
    (∀ answer after,
      (Calls.nested resolver (depth + 1)).get locator base world =
        some (answer, after) ↔
        Fetched resolver depth locator base world answer after) ∧
    (∀ error after,
      (Calls.nested resolver (depth + 1)).get locator base world =
        some (.error error, after) →
      locator.Fault error) ∧
    (∀ name error after,
      locator.scheme = some name →
      (Calls.nested resolver (depth + 1)).resolveStrict name world =
        some (.error error, after) →
      (Calls.nested resolver (depth + 1)).get locator base world =
        some (.error (.unresolved name), after)) ∧
    ∀ name handle middle outcome ended,
      locator.scheme = some name →
      (Calls.nested resolver (depth + 1)).resolveStrict name world =
        some (.ok handle, middle) →
      Responds (Calls.nested resolver depth) handle ⟨locator, base⟩ middle
        outcome ended →
      (ended.record (.served handle.instanceId outcome)).registry.cache.find? name =
          some handle ∧
        (∀ value,
          outcome = .ok value →
          (Calls.nested resolver (depth + 1)).get locator base world =
            some (.ok value, ended.record (.served handle.instanceId outcome))) ∧
        ∀ message causes,
          outcome = .error ⟨message, causes⟩ →
          ∃ error : DispatchError,
            (Calls.nested resolver (depth + 1)).get locator base world =
                some (.error error,
                  ended.record (.served handle.instanceId outcome)) ∧
              error = .handlerFailed name locator.text ⟨message, causes⟩ ∧
              error.schemeName? = some name ∧
              error.message =
                "Scheme '" ++ name ++ "' failed to resolve " ++ locator.text ++
                  ": " ++
                  message ∧
              error.sources = message :: causes := by
  have ways : ∀ answer after,
      (Calls.nested resolver (depth + 1)).get locator base world =
        some (answer, after) ↔
        Fetched resolver depth locator base world answer after :=
    fun _ _ => Calls.get_eq_some_iff reachable.staffed
  refine ⟨?_, ways, ?_, ?_, ?_⟩
  · intro isRelative calls
    exact calls.get_of_relative (Option.isNone_iff_eq_none.mp isRelative) base world
  · intro error after finished
    exact ((ways _ after).mp finished).fault rfl
  · intro name error after scheme resolved
    rcases Calls.resolveStrict_cases resolved with failed | ⟨_, found, -⟩
    · cases failed
      exact Calls.get_of_error scheme resolved base
    · cases found
  · intro name handle middle outcome ended scheme resolved responds
    have published : middle.registry.cache.find? name = some handle := by
      rcases Calls.resolveStrict_cases resolved with
        failed | ⟨other, found, published⟩
      · cases failed
      · cases found
        exact published
    have finished := (ways _ _).mpr (.answered scheme resolved published responds)
    refine ⟨responds.grows.cached published, ?_, ?_⟩
    · rintro value rfl
      exact finished
    · rintro message causes rfl
      exact ⟨_, finished, rfl, rfl, rfl, rfl⟩

/-- A handler that answers its first request only. -/
def Handler.disposable : Handler :=
  .mk fun earlier request =>
    if earlier.isEmpty then
      .answer (.string request.locator.body)
    else
      .fail ⟨"cannot answer", ["used before"]⟩

/-- A locator is answered once, and then in vain; the scheme keeps its handle. -/
theorem disposable_end_to_end :
    ∃ locator first second third,
      Locator.parse "MEM:Key" = .ok locator ∧
      first.Reachable .ofTable ∧
      (Calls.nested .ofTable 2).get locator none first =
        some (.ok (.string "Key"), second) ∧
      second.Reachable .ofTable ∧
      (Calls.nested .ofTable 2).get locator none second =
        some
          (.error (.handlerFailed "mem" "mem:Key"
            ⟨"cannot answer", ["used before"]⟩), third) ∧
      third.registry.cache.find? "mem" = some ⟨"mem", 0⟩ := by
  have isRead : Locator.parse "MEM:Key" = .ok ⟨some "mem", "Key"⟩ := rfl
  have start : (World.create .default).Reachable .ofTable := .created .default
  have registering :
      (Operation.register "mem" (.plain "Disposable" .disposable)).perform
          (Calls.nested .ofTable 2) (World.create .default) =
        some _ := rfl
  have bound := start.performed registering
  obtain ⟨-, -, -, -, firstTime⟩ :=
    locator_end_to_end .ofTable 1 bound ⟨some "mem", "Key"⟩ none
  obtain ⟨-, value, -⟩ :=
    firstTime "mem" ⟨"mem", 0⟩ _ (.ok (.string "Key")) _ rfl rfl
    ⟨_, rfl, rfl⟩
  have getting :
      (Operation.get ⟨some "mem", "Key"⟩ none).perform (Calls.nested .ofTable 2) _ =
        some (.value (.ok (.string "Key")), _) :=
    Run.map_eq_some_iff.mpr ⟨_, value _ rfl, rfl⟩
  have answered := bound.performed getting
  obtain ⟨-, -, -, -, secondTime⟩ :=
    locator_end_to_end .ofTable 1 answered ⟨some "mem", "Key"⟩ none
  obtain ⟨published, -, failure⟩ := secondTime "mem" ⟨"mem", 0⟩ _
    (.error ⟨"cannot answer", ["used before"]⟩) _ rfl rfl ⟨_, rfl, rfl⟩
  obtain ⟨_, failed, rfl, -⟩ := failure _ _ rfl
  exact ⟨_, _, _, _, isRead, bound, value _ rfl, answered, failed, published⟩

end

end Dispatch
