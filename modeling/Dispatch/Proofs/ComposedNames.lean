import Dispatch.Proofs.Chronicle
import Dispatch.Proofs.DependencyConstruction
import Dispatch.Proofs.FailureReasons

namespace Dispatch

/-!
# Composed names

A constructor may obtain another name and build a handler that passes everything
on to it.  Names that are composed in this way, one upon the other, are built
all together or not at all.

`World.Composed` says what composing does to a world, step by step, and
`Composition.resolve_nested` is the induction along the names.
-/

/--
A constructor that resolves a name and builds a handler that forwards to what it
was given, or fails if it was given nothing.
-/
inductive Script.Forwards (inner : String) : Script .construct → Prop
  | resolve
      {strict : Bool}
      {next : Resolution → Script .construct}
      (builds : ∀ handle, next (.ok (some handle)) = .build (.forwarding handle))
      (fails :
        ∀ answer, answer.orNone = none → ∃ failure, next answer = .fail failure) :
      Forwards inner (.resolve inner strict next)

/-- A type whose constructor always forwards to a name. -/
def Descriptor.Forwards
    (inner : String)
    (descriptor : Descriptor) : Prop :=
  ∃ typeName make,
    descriptor = .factory typeName make ∧
      ∀ index, (make index).Forwards inner

/-- Both stock constructors for composed handlers forward. -/
theorem Script.forwards_forwardingTo
    (name : String)
    (strict : Bool) :
    (Script.forwardingTo name strict).Forwards name := by
  cases strict with
  | true =>
      refine .resolve (fun _ => rfl) ?_
      rintro (error | handle) isNone
      · exact ⟨_, rfl⟩
      · obtain rfl : handle = none := isNone
        exact ⟨_, rfl⟩
  | false =>
      refine .resolve (fun _ => rfl) fun answer isNone => ?_
      simp only [isNone]
      exact ⟨_, rfl⟩

/-! ## Constructions without effects -/

/-- A constructor that reads the settings and leaves remarks, and what it ends in. -/
inductive Script.Ends (settings : Settings) :
    Script .construct → Except Failure Handler → Prop
  | build
      {handler : Handler} :
      Ends settings (.build handler) (.ok handler)
  | fail
      {failure : Failure} :
      Ends settings (.fail failure) (.error failure)
  | readSettings
      {next : Settings → Script .construct}
      {outcome : Except Failure Handler}
      (goesOn : Ends settings (next settings) outcome) :
      Ends settings (.readSettings next) outcome
  | note
      {remark : Note}
      {next : Script .construct}
      {outcome : Except Failure Handler}
      (goesOn : Ends settings next outcome) :
      Ends settings (.note remark next) outcome

/-- What comes of building from a binding in a world without effects. -/
inductive Binding.Yields
    (world : World)
    (binding : Binding) :
    Except ConstructionFailure Handler → Prop
  | abstract
      {typeName : String}
      (isAbstract : binding.descriptor = .abstract typeName) :
      Yields world binding (.error (.abstract typeName))
  | plain
      {typeName : String}
      {handler : Handler}
      (isPlain : binding.descriptor = .plain typeName handler) :
      Yields world binding (.ok handler)
  | factory
      {typeName : String}
      {make : Nat → Script .construct}
      {outcome : Except Failure Handler}
      (isFactory : binding.descriptor = .factory typeName make)
      (ends :
        (make (world.constructionsOf binding.serial)).Ends
          world.registry.settings outcome) :
      Yields world binding (outcome.mapError (.failed typeName))

/--
The handler that comes of the answer of a resolver, or that none does, for whatever
reason.
-/
inductive Lookup.Yields
    (world : World) :
    Lookup → Option Handler → Prop
  | unbound :
      Yields world .unbound none
  | failed
      {failure : LookupFailure} :
      Yields world (.failed failure) none
  | refused
      {binding : Binding}
      {failure : ConstructionFailure}
      (yields : binding.Yields world (.error failure)) :
      Yields world (.bound binding) none
  | built
      {binding : Binding}
      {handler : Handler}
      (yields : binding.Yields world (.ok handler)) :
      Yields world (.bound binding) (some handler)

namespace World

/--
What composing does to a world: the names that are looked up, those that are
published, and the handlers that are built for these.
-/
structure Composed
    (looked published : List String)
    (built : List Handler)
    (before after : World) : Prop where
  directory :
    after.directory =
      { before.directory with asked := before.directory.asked ++ looked }
  registry :
    after.registry = before.registry.fill before.handlers.length published
  handlers :
    after.handlers = before.handlers ++ built
  each :
    built.length = published.length
  requests :
    ∀ instanceId, after.requestsTo instanceId = before.requestsTo instanceId
  journal :
    ∃ happened,
      after.journal = before.journal ++ happened ∧ happened.published = published

namespace Composed

variable
  {looked published more others : List String}
  {built rest : List Handler}
  {before middle after : World}

protected theorem refl
    (world : World) :
    world.Composed [] [] [] world where
  directory := by simp
  registry := rfl
  handlers := by simp
  each := rfl
  requests _ := rfl
  journal := ⟨[], by simp, rfl⟩

protected theorem trans
    (first : before.Composed looked published built middle)
    (second : middle.Composed more others rest after) :
    before.Composed (looked ++ more) (published ++ others)
      (built ++ rest) after where
  directory := by
    rw [second.directory, first.directory, List.append_assoc]
  registry := by
    rw [second.registry, first.registry, first.handlers, List.length_append,
      first.each, Registry.fill_append]
  handlers := by
    rw [second.handlers, first.handlers, List.append_assoc]
  each := by
    rw [List.length_append, List.length_append, first.each, second.each]
  requests instanceId :=
    (second.requests instanceId).trans (first.requests instanceId)
  journal := by
    obtain ⟨happened, isJournal, arePublished⟩ := first.journal
    obtain ⟨later, isLater, alsoPublished⟩ := second.journal
    refine ⟨happened ++ later, by rw [isLater, isJournal, List.append_assoc], ?_⟩
    rw [Journal.published_append, arePublished, alsoPublished]

/-- What does nothing does nothing more. -/
theorem trans_nothing
    (first : before.Composed looked published built middle)
    (second : middle.Composed [] [] [] after) :
    before.Composed looked published built after := by
  simpa using first.trans second

/-- Entries about no publication and no request do nothing. -/
theorem record
    (world : World)
    {entry : Entry}
    (noRequest : ∀ instanceId, Journal.requestsTo instanceId [entry] = [])
    (notPublished : Journal.published [entry] = []) :
    world.Composed [] [] [] (world.record entry) where
  directory := by simp [World.record]
  registry := rfl
  handlers := by simp [World.record]
  each := rfl
  requests instanceId := by
    rw [requestsTo_record, noRequest, List.append_nil]
  journal := ⟨[entry], journal_record world entry, notPublished⟩

theorem ask
    (world : World)
    (name : String) :
    world.Composed [name] [] [] (world.ask name) where
  directory := rfl
  registry := rfl
  handlers := by simp [World.ask]
  each := rfl
  requests _ := rfl
  journal := ⟨[], by simp, rfl⟩

/-- A construction that fails does nothing. -/
theorem settle
    (world : World)
    (name : String)
    (failure : ConstructionFailure) :
    world.Composed [] [] [] (world.settle name (.error failure)).2 := by
  have ended : world.Composed [] [] [] (world.record (.instantiated name false)) :=
    record world (fun _ => rfl) rfl
  exact ended.trans (record _ (fun _ => rfl) rfl)

/-- A handler that has been built is published. -/
theorem publish
    (world : World)
    (name : String)
    (handler : Handler) :
    world.Composed [] [name] [handler]
      (((world.settle name (.ok handler)).2.insert name
        ⟨name, world.handlers.length⟩).emit (.published name)) where
  directory := by
    simp [World.settle, World.adopt, World.insert, World.emit, World.record]
  registry := rfl
  handlers := rfl
  each := rfl
  requests instanceId := by
    rw [requestsTo_eq, requestsTo_eq, journal_emit]
    change Journal.requestsTo instanceId
      ((world.settle name (.ok handler)).2.journal ++ _) = _
    rw [settle_ok_journal]
    simp [Journal.requestsTo]
  journal := by
    refine ⟨[.instantiated name true, .emitted (.published name)], ?_, rfl⟩
    rw [journal_emit]
    change (world.settle name (.ok handler)).2.journal ++ _ = _
    rw [settle_ok_journal, List.append_assoc]
    rfl

/--
What happens to a world in the midst of a call is all that the call does, but for
its lookup.
-/
theorem ofCall
    {name : String}
    (inside :
      ((before.record (.called name)).ask name).Composed looked
        published built after)
    (handle : Option Handle) :
    before.Composed (name :: looked) published built
      (after.record (.returned name handle)) := by
  have called : before.Composed [] [] [] (before.record (.called name)) :=
    record before (fun _ => rfl) rfl
  have returned : after.Composed [] [] [] (after.record (.returned name handle)) :=
    record after (fun _ => rfl) rfl
  exact (called.trans (ask _ name)).trans (inside.trans_nothing returned)

/-- Where nothing has been published, what is not cached is still not. -/
theorem find?_of_not_mem
    (composed : before.Composed looked published built after)
    {name : String}
    (fresh : name ∉ published) :
    after.registry.cache.find? name = before.registry.cache.find? name := by
  rw [composed.registry, Registry.find?_fill_of_not_mem _ _ fresh]

end Composed

end World

/-- A script without effects ends the same way wherever it runs. -/
theorem Script.Ends.run
    {settings : Settings}
    {script : Script .construct}
    {outcome : Except Failure Handler}
    (ends : script.Ends settings outcome)
    (calls : Calls)
    (world : World)
    (configured : world.registry.settings = settings) :
    ∃ after,
      script.run calls world = some (outcome, after) ∧
        world.Composed [] [] [] after := by
  induction ends generalizing world with
  | build =>
      exact ⟨world, rfl, .refl world⟩
  | fail =>
      exact ⟨world, rfl, .refl world⟩
  | readSettings _ inductionHypothesis =>
      obtain ⟨after, ran, composed⟩ := inductionHypothesis world configured
      refine ⟨after, ?_, composed⟩
      rw [← ran, ← configured]
      rfl
  | @note remark _ _ _ inductionHypothesis =>
      obtain ⟨after, ran, composed⟩ :=
        inductionHypothesis (world.record (.noted remark)) configured
      have noted : world.Composed [] [] [] (world.record (.noted remark)) :=
        .record world (fun _ => rfl) rfl
      exact ⟨after, ran, noted.trans composed⟩

/-- A construction without effects goes the same way wherever it is its turn. -/
theorem Binding.Yields.builds
    {start : World}
    {binding : Binding}
    {outcome : Except ConstructionFailure Handler}
    (yields : binding.Yields start outcome)
    (world : World)
    (configured : world.registry.settings = start.registry.settings)
    (counted :
      world.constructionsOf binding.serial = start.constructionsOf binding.serial)
    (calls : Calls) :
    ∃ after,
      calls.builds binding world outcome after ∧ world.Composed [] [] [] after := by
  have started (typeName : String) (index : Option Nat) :
      world.Composed [] [] []
        (world.record (.constructing binding.serial typeName index)) :=
    .record world (fun _ => rfl) rfl
  cases yields with
  | abstract isAbstract =>
      exact ⟨world, Calls.builds_iff.mpr (.abstract isAbstract), .refl world⟩
  | plain isPlain =>
      exact ⟨_, Calls.builds_iff.mpr (.plain isPlain), started _ _⟩
  | factory isFactory ends =>
      rw [← counted] at ends
      obtain ⟨after, ran, composed⟩ := ends.run calls
        (world.record (.constructing binding.serial _
          (some (world.constructionsOf binding.serial)))) configured
      exact ⟨after, Calls.builds_of_factory isFactory ran,
        (started _ _).trans composed⟩

/--
A constructor that forwards to a name does what resolving the name does, and then
builds or fails.
-/
theorem Script.Forwards.run
    {inner : String}
    {script : Script .construct}
    (forwards : script.Forwards inner)
    {calls : Calls}
    {handle : Option Handle}
    {world middle : World}
    (resolved :
      ∀ strict,
        calls.resolve inner strict world =
          some (.ofHandle? inner strict handle, middle)) :
    ∃ outcome : Except Failure Handler,
      script.run calls world = some (outcome, middle) ∧
        match handle with
        | some handle => outcome = .ok (.forwarding handle)
        | none => ∃ failure, outcome = .error failure := by
  cases forwards with
  | @resolve strict next builds fails =>
      cases handle with
      | some handle =>
          refine ⟨.ok (.forwarding handle), ?_, rfl⟩
          have ran : (next (.ok (some handle))).run calls middle =
              some (.ok (.forwarding handle), middle) := by
            rw [builds]
            rfl
          exact (Run.bind_of_eq (resolved strict)).trans ran
      | none =>
          obtain ⟨failure, isFailure⟩ :=
            fails (.ofHandle? inner strict none) (by cases strict <;> rfl)
          refine ⟨.error failure, ?_, failure, rfl⟩
          have ran : (next (.ofHandle? inner strict none)).run calls middle =
              some (.error failure, middle) := by
            rw [isFailure]
            rfl
          exact (Run.bind_of_eq (resolved strict)).trans ran

/-! ## Composing -/

/--
Names in a row, each but the first of which is bound to a constructor that
forwards to the name before it.  None of them has a handle at the start.
-/
structure Composition
    (resolver : Resolver)
    (start : World) where
  length : Nat
  name : Nat → String
  binding : Nat → Binding
  named :
    ∀ {index}, index ≤ length → name index ≠ ""
  distinct :
    ∀ {first second},
      first ≤ length → second ≤ length → name first = name second → first = second
  missed :
    ∀ {index},
      index ≤ length → start.registry.cache.find? (name index) = none
  bound :
    ∀ {index},
      index < length →
      resolver.Binds start.directory (name (index + 1)) (binding index)
  forwards :
    ∀ {index},
      index < length → (binding index).descriptor.Forwards (name index)

namespace Composition

variable
  {resolver : Resolver}
  {start : World}
  (composition : Composition resolver start)

/--
What comes of the first name, whenever it is looked up.  Its constructor is none
of those that forward.
-/
def Yields
    (source : Option Handler) : Prop :=
  ∀ asked,
    (resolver { start.directory with asked := asked } (composition.name 0)).Yields
        start source ∧
      ∀ {binding},
        resolver { start.directory with asked := asked } (composition.name 0) =
            .bound binding →
        ∀ {index}, index < composition.length →
          (composition.binding index).serial ≠ binding.serial

/-- The names up to a position, the first one first. -/
def names
    (last : Nat) : List String :=
  (List.range (last + 1)).map composition.name

/-- The handlers for the names up to a position, if there is one for the first. -/
def handlers
    (source : Handler)
    (last : Nat) : List Handler :=
  source :: (List.range last).map fun index =>
    .forwarding ⟨composition.name index, start.handlers.length + index⟩

/-- The names up to a position that are published. -/
def published
    (source : Option Handler)
    (last : Nat) : List String :=
  if source.isSome then composition.names last else []

/-- The handlers for the names up to a position that are built. -/
def built
    (source : Option Handler)
    (last : Nat) : List Handler :=
  match source with
  | some handler => composition.handlers handler last
  | none => []

/-- The handle that comes of a name. -/
def handle?
    (source : Option Handler)
    (index : Nat) : Option Handle :=
  source.map fun _ => ⟨composition.name index, start.handlers.length + index⟩

/--
Nothing has happened since the start but lookups, and starts of constructors that
forward.
-/
structure Awaits
    (world : World) : Prop where
  directory :
    ∃ asked, world.directory = { start.directory with asked := asked }
  registry :
    world.registry = start.registry
  handlers :
    world.handlers = start.handlers
  counted :
    ∀ {serial},
      (∀ {index}, index < composition.length →
        (composition.binding index).serial ≠ serial) →
      world.constructionsOf serial = start.constructionsOf serial

variable
  {composition : Composition resolver start}
  {source : Option Handler}
  {world : World}

theorem awaits_start :
    composition.Awaits start where
  directory := ⟨_, rfl⟩
  registry := rfl
  handlers := rfl
  counted _ := rfl

/--
The constructor of a later name is started where that of an earlier one is awaited.
-/
theorem Awaits.opened
    (awaits : composition.Awaits world)
    {index : Nat}
    (within : index < composition.length)
    (name typeName : String)
    (count : Option Nat) :
    composition.Awaits
      (world.opened name (composition.binding index).serial typeName count) where
  directory := by
    obtain ⟨asked, isDirectory⟩ := awaits.directory
    exact ⟨asked ++ [name], by simp [World.opened, World.record, World.ask,
      Directory.ask, isDirectory]⟩
  registry := awaits.registry
  handlers := awaits.handlers
  counted := by
    intro serial apart
    rw [← awaits.counted apart, World.constructionsOf_eq, World.constructionsOf_eq,
      World.journal_opened]
    simp [Journal.constructionsOf, apart within]

theorem names_succ
    (last : Nat) :
    composition.names (last + 1) =
      composition.names last ++ [composition.name (last + 1)] := by
  simp [names, List.range_succ]

theorem handlers_succ
    (handler : Handler)
    (last : Nat) :
    composition.handlers handler (last + 1) =
      composition.handlers handler last ++
        [.forwarding ⟨composition.name last, start.handlers.length + last⟩] := by
  simp [handlers, List.range_succ]

/-- A name comes after all names that are before it. -/
theorem not_mem_names
    {last : Nat}
    (within : last < composition.length) :
    composition.name (last + 1) ∉ composition.names last := by
  intro member
  obtain ⟨index, inRange, same⟩ := List.mem_map.mp member
  have before := List.mem_range.mp inRange
  have equal := composition.distinct (by omega) (by omega) same
  omega

/-- The first name is built as far as its own constructor gets. -/
theorem resolve_first
    (yields : composition.Yields source)
    (calls : Calls)
    (awaits : composition.Awaits world) :
    ∃ ended,
      Resolved resolver calls.builds (composition.name 0)
          (world.record (.called (composition.name 0)))
          (composition.handle? source 0) ended ∧
        ((world.record (.called (composition.name 0))).ask
          (composition.name 0)).Composed []
          (composition.published source 0) (composition.built source 0) ended := by
  obtain ⟨asked, isDirectory⟩ := awaits.directory
  obtain ⟨comes, apart⟩ := yields asked
  rw [← isDirectory] at comes apart
  have named := composition.named (Nat.zero_le _)
  have missed :
      (world.record (.called (composition.name 0))).registry.cache.find?
        (composition.name 0) = none :=
    awaits.registry ▸ composition.missed (Nat.zero_le _)
  have configured : world.registry.settings = start.registry.settings := by
    rw [awaits.registry]
  have counted {binding : Binding}
      (answer : resolver world.directory (composition.name 0) = .bound binding) :
      ((world.record (.called (composition.name 0))).ask
          (composition.name 0)).constructionsOf binding.serial =
        start.constructionsOf binding.serial := by
    rw [World.constructionsOf_called]
    exact awaits.counted (apart answer)
  cases answer : resolver world.directory (composition.name 0) with
  | unbound =>
      rw [answer] at comes
      cases comes
      exact ⟨_, .unbound missed named answer, .record _ (fun _ => rfl) rfl⟩
  | failed failure =>
      rw [answer] at comes
      cases comes
      exact ⟨_, .lookupFailed missed named answer, .record _ (fun _ => rfl) rfl⟩
  | bound binding =>
      rw [answer] at comes
      cases comes with
      | refused yieldsError =>
          obtain ⟨built, construction, composed⟩ :=
            yieldsError.builds
              ((world.record (.called (composition.name 0))).ask
                (composition.name 0))
              configured (counted answer) calls
          exact ⟨_, .constructionFailed missed named answer construction,
            composed.trans (.settle _ _ _)⟩
      | @built _ handler yieldsHandler =>
          obtain ⟨built, construction, composed⟩ :=
            yieldsHandler.builds
              ((world.record (.called (composition.name 0))).ask
                (composition.name 0))
              configured (counted answer) calls
          have unpublished :
              built.registry.cache.find? (composition.name 0) = none :=
            (composed.find?_of_not_mem List.not_mem_nil).trans missed
          have first : built.handlers.length = start.handlers.length := by
            rw [composed.handlers, List.append_nil, ← awaits.handlers]
            rfl
          have resolved :=
            Resolved.published missed named answer construction unpublished
          have published :=
            composed.trans (.publish built (composition.name 0) handler)
          rw [first] at resolved published
          exact ⟨_, resolved, published⟩

/-- Resolving a name of a composition builds all names up to it, or none. -/
theorem resolve_nested
    (yields : composition.Yields source)
    {index : Nat}
    (within : index ≤ composition.length)
    (depth : Nat)
    (awaits : composition.Awaits world) :
    ∃ after,
      (∀ strict,
        (Calls.nested resolver (depth + index + 1)).resolve
            (composition.name index) strict world =
          some
            (.ofHandle? (composition.name index) strict
              (composition.handle? source index), after)) ∧
        world.Composed (composition.names index).reverse
          (composition.published source index)
              (composition.built source index) after := by
  induction index generalizing world with
  | zero =>
      obtain ⟨ended, resolved, composed⟩ :=
        resolve_first yields (Calls.nested resolver depth) awaits
      exact ⟨_, resolved.nested_eq, composed.ofCall _⟩
  | succ index inductionHypothesis =>
      obtain ⟨asked, isDirectory⟩ := awaits.directory
      obtain ⟨typeName, make, isFactory, forwards⟩ := composition.forwards within
      have named := composition.named within
      have missed :
          (world.record
            (.called (composition.name (index + 1)))).registry.cache.find?
            (composition.name (index + 1)) = none :=
        awaits.registry ▸ composition.missed within
      have answer :
          resolver (world.record (.called (composition.name (index + 1)))).directory
            (composition.name (index + 1)) = .bound (composition.binding index) := by
        change resolver world.directory _ = _
        rw [isDirectory]
        exact composition.bound within asked
      obtain ⟨middle, resolved, composed⟩ :=
        inductionHypothesis (Nat.le_of_lt within)
          (awaits.opened within (composition.name (index + 1)) typeName
            (some (((world.record (.called (composition.name (index + 1)))).ask
              (composition.name (index + 1))).constructionsOf
                (composition.binding index).serial)))
      obtain ⟨outcome, ran, ended⟩ := (forwards _).run resolved
      have construction := Calls.builds_of_factory isFactory ran
      have started :
          ((world.record (.called (composition.name (index + 1)))).ask
              (composition.name (index + 1))).Composed [] [] []
            (world.opened (composition.name (index + 1))
              (composition.binding index).serial
              typeName
              (some (((world.record (.called (composition.name (index + 1)))).ask
                (composition.name (index + 1))).constructionsOf
                  (composition.binding index).serial))) :=
        .record _ (fun _ => rfl) rfl
      have inside := started.trans composed
      rw [composition.names_succ, List.reverse_append]
      cases source with
      | none =>
          obtain ⟨failure, rfl⟩ := ended
          have failed := Resolved.constructionFailed missed named answer construction
          exact ⟨_, failed.nested_eq,
            (inside.trans_nothing (.settle _ _ _)).ofCall none⟩
      | some handler =>
          obtain rfl : outcome = _ := ended
          have unpublished :
              middle.registry.cache.find? (composition.name (index + 1)) = none :=
            (inside.find?_of_not_mem (composition.not_mem_names within)).trans missed
          have count :
              middle.handlers.length = start.handlers.length + (index + 1) := by
            rw [composed.handlers, List.length_append, ← awaits.handlers]
            simp [built, handlers, World.opened, World.record, World.ask]
          have resolved :=
            Resolved.published missed named answer construction unpublished
          have publishes :=
            World.Composed.publish middle (composition.name (index + 1))
              (.forwarding ⟨composition.name index, start.handlers.length + index⟩)
          rw [count] at resolved publishes
          refine ⟨_, resolved.nested_eq, ?_⟩
          have all := (inside.trans publishes).ofCall
            (composition.handle? (some handler) (index + 1))
          simpa [published, built, handle?, names_succ, handlers_succ] using all

end Composition

end Dispatch
