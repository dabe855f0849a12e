import Dispatch.Proofs.OrderIndependence
import Dispatch.Proofs.UntouchedNames

namespace Dispatch

/-!
# Constructions that fail at first

A failed construction leaves nothing behind but its report, so the next call for
the name tries again, and once a construction has succeeded none is made any
more.  `Flaky` is a name bound to a constructor that fails a number of times;
`Flaky.Tried` is the invariant over the number of calls for the name so far, with
the calls before the last failure, the one that succeeds and those after it as
its three phases.
-/

/--
What is bound to a name, and arranged for its lookups, is the same in two
directories.
-/
structure Directory.SameOf
    (name : String)
    (directory other : Directory) : Prop where
  bound :
    other.table.find? name = directory.table.find? name
  faults :
    other.faults.find? name = directory.faults.find? name

/--
One construction by a constructor that fails a number of times and does not call
the registry: it counts as one, succeeds once the failures are over, and changes
neither the registry nor what is bound to the name.
-/
structure Binding.Attempt
    (name : String)
    (failures : Nat)
    (binding : Binding)
    (world : World)
    (outcome : Except ConstructionFailure Handler)
    (after : World) : Prop where
  isOk :
    outcome.isOk = decide (failures ≤ world.constructionsOf binding.serial)
  counted :
    after.constructionsOf binding.serial = world.constructionsOf binding.serial + 1
  registry :
    after.registry = world.registry
  asked :
    after.directory.asked = world.directory.asked
  bound :
    world.directory.SameOf name after.directory

/--
A name without a handle, bound to a constructor that has not been run yet.  It
fails a number of times and succeeds from then on, and never calls the registry.
-/
structure Flaky
    (resolver : Resolver)
    (depth : Nat)
    (start : World) where
  name : String
  binding : Binding
  failures : Nat
  named :
    name ≠ ""
  bound :
    ∀ directory,
      start.directory.SameOf name directory →
      resolver directory name = .bound binding
  unpublished :
    start.registry.cache.find? name = none
  unbuilt :
    start.constructionsOf binding.serial = 0
  attempt :
    ∀ world,
      start.Grows world →
      ∃ outcome after,
        (Calls.nested resolver depth).builds binding world outcome after ∧
          binding.Attempt name failures world outcome after

/-- A call for a name, in one of the ways, or something else that is done. -/
inductive Turn
  | own (entrance : Entrance)
  | other (operation : Operation)

namespace Turn

/-- What is done when it is the turn. -/
def operation
    (name : String) : Turn → Operation
  | own entrance => entrance.operation name
  | other operation => operation

/-- It is the turn of a call for the name. -/
def isOwn : Turn → Bool
  | own _ => true
  | other _ => false

/-- The number of calls for the name. -/
def owned
    (turns : List Turn) : Nat :=
  turns.countP isOwn

/--
What is done in a turn of something else touches neither a name nor its lookups.
-/
def Spares
    (name : String)
    (serial : Nat)
    (turn : Turn)
    (before after : World) : Prop :=
  turn.isOwn = false →
    before.Untouched name serial after ∧
      after.directory.faults.find? name = before.directory.faults.find? name

/--
Whatever is done beside the calls for a name comes to an end and spares the name.
Of the calls themselves nothing is asked.
-/
def Undisturbed
    (calls : Calls)
    (name : String)
    (serial : Nat) :
    List Turn → World → Prop
  | [], _ =>
      True
  | turn :: rest, world =>
      match (turn.operation name).perform calls world with
      | none =>
          turn.isOwn = true
      | some (_, after) =>
          turn.Spares name serial world after ∧
            Undisturbed calls name serial rest after

variable
  {calls : Calls}
  {name : String}
  {serial : Nat}
  {turn : Turn}
  {past rest : List Turn}
  {world after : World}
  {answer : Answer}

instance : Decidable (turn.Spares name serial world after) :=
  inferInstanceAs (Decidable (_ → _ ∧ _))

/-- What follows a turn that has ended is undisturbed if the turn spares the name. -/
theorem undisturbed_cons
    (performed : (turn.operation name).perform calls world = some (answer, after)) :
    Undisturbed calls name serial (turn :: rest) world ↔
      turn.Spares name serial world after ∧
          Undisturbed calls name serial rest after := by
  simp only [Undisturbed, performed]

theorem undisturbed_cons_of_none
    (endless : (turn.operation name).perform calls world = none) :
    Undisturbed calls name serial (turn :: rest) world ↔ turn.isOwn = true := by
  simp only [Undisturbed, endless]

/-- Whether a list of turns is undisturbed is found out by performing them. -/
instance decidableUndisturbed :
    (turns : List Turn) →
      (world : World) →
      Decidable (Undisturbed calls name serial turns world)
  | [], _ =>
      .isTrue trivial
  | turn :: rest, world =>
      match performed : (turn.operation name).perform calls world with
      | none =>
          decidable_of_iff _ (undisturbed_cons_of_none performed).symm
      | some (_, after) =>
          have := decidableUndisturbed rest after
          decidable_of_iff _ (undisturbed_cons performed).symm

/-- A first part is as undisturbed as the whole. -/
theorem Undisturbed.earlier
    (undisturbed : Undisturbed calls name serial (past ++ rest) world) :
    Undisturbed calls name serial past world := by
  induction past generalizing world with
  | nil =>
      trivial
  | cons turn past inductionHypothesis =>
      cases performed : (turn.operation name).perform calls world with
      | none =>
          exact (undisturbed_cons_of_none performed).mpr
            ((undisturbed_cons_of_none performed).mp undisturbed)
      | some ended =>
          obtain ⟨spares, goesOn⟩ := (undisturbed_cons performed).mp undisturbed
          exact (undisturbed_cons performed).mpr ⟨spares, inductionHypothesis goesOn⟩

end Turn

namespace Flaky

variable
  {resolver : Resolver}
  {depth : Nat}
  {start : World}
  {flaky : Flaky resolver depth start}

/-- A handle is the instance that the construction of a number has given. -/
def Instance
    (flaky : Flaky resolver depth start)
    (index : Nat)
    (handle : Handle)
    (after : World) : Prop :=
  ∃ world built handler,
    start.Grows world ∧
      world.constructionsOf flaky.binding.serial = index ∧
      (Calls.nested resolver depth).builds flaky.binding world (.ok handler) built ∧
      built.Grows after ∧
      handle = ⟨flaky.name, built.handlers.length⟩ ∧
      after.handlers[handle.instanceId]? = some handler

/-- A world after a number of calls for the name. -/
structure Tried
    (flaky : Flaky resolver depth start)
    (past : Nat)
    (world : World) : Prop where
  grows :
    start.Grows world
  bound :
    start.directory.SameOf flaky.name world.directory
  asked :
    world.directory.asked.count flaky.name =
      start.directory.asked.count flaky.name + min past (flaky.failures + 1)
  constructed :
    world.constructionsOf flaky.binding.serial = min past (flaky.failures + 1)
  unpublished :
    past ≤ flaky.failures → world.registry.cache.find? flaky.name = none
  published :
    flaky.failures < past →
    ∃ handle,
      world.registry.cache.find? flaky.name = some handle ∧
        flaky.Instance flaky.failures handle world

/-- An instance stays what it is. -/
theorem Instance.mono
    {index : Nat}
    {handle : Handle}
    {world after : World}
    (isInstance : flaky.Instance index handle world)
    (grows : world.Grows after) :
    flaky.Instance index handle after := by
  obtain ⟨opened, built, handler, began, counted, builds, earlier, same, present⟩ :=
    isInstance
  exact ⟨opened, built, handler, began, counted, builds, earlier.trans grows, same,
    grows.present present⟩

namespace Tried

variable
  {past : Nat}
  {world after : World}

/-- Before any call, nothing has been tried. -/
theorem ofStart
    (flaky : Flaky resolver depth start) :
    flaky.Tried 0 start where
  grows := .refl start
  bound := ⟨rfl, rfl⟩
  asked := by simp
  constructed := by simpa using flaky.unbuilt
  unpublished _ := flaky.unpublished
  published late := absurd late (Nat.not_lt_zero _)

/-- Whatever else is done, the calls for the name are as far as they were. -/
theorem other
    (tried : flaky.Tried past world)
    {operation : Operation}
    {answer : Answer}
    (performed :
      operation.perform (Calls.nested resolver (depth + 1)) world =
        some (answer, after))
    (untouched : world.Untouched flaky.name flaky.binding.serial after)
    (faults :
      after.directory.faults.find? flaky.name =
        world.directory.faults.find? flaky.name) :
    flaky.Tried past after := by
  have stable := World.Bypasses.stable flaky.name flaky.binding.serial
  have bypasses :=
    stable.perform (stable.nested resolver (depth + 1)) operation performed
  have same := bypasses.same untouched
  exact
    { grows := tried.grows.trans bypasses.grows
      bound :=
        ⟨same.bound.trans tried.bound.bound, faults.trans tried.bound.faults⟩
      asked := same.asked.trans tried.asked
      constructed :=
        (untouched.constructionsOf_eq bypasses.grows).trans tried.constructed
      unpublished := fun pending => same.cached.trans (tried.unpublished pending)
      published := fun late => by
        obtain ⟨handle, found, isInstance⟩ := tried.published late
        exact ⟨handle, same.cached.trans found, isInstance.mono bypasses.grows⟩ }

/-- The world in which the constructor runs for one more call. -/
theorem grows_called
    (tried : flaky.Tried past world) :
    start.Grows ((world.record (.called flaky.name)).ask flaky.name) :=
  (tried.grows.trans (.record _ _)).trans (.ofDirectory _ _)

/-- What a call has done in which a construction was made. -/
theorem next
    (tried : flaky.Tried past world)
    (pending : past ≤ flaky.failures)
    {outcome : Except ConstructionFailure Handler}
    {built : World}
    (attempt :
      flaky.binding.Attempt flaky.name flaky.failures
        ((world.record (.called flaky.name)).ask flaky.name) outcome built)
    (grows : world.Grows after)
    (directory : after.directory = built.directory)
    (constructed :
      after.constructionsOf flaky.binding.serial =
        built.constructionsOf flaky.binding.serial)
    (unpublished :
      past + 1 ≤ flaky.failures → after.registry.cache.find? flaky.name = none)
    (published :
      flaky.failures < past + 1 →
      ∃ handle,
        after.registry.cache.find? flaky.name = some handle ∧
          flaky.Instance flaky.failures handle after) :
    flaky.Tried (past + 1) after where
  grows := tried.grows.trans grows
  bound := by
    rw [directory]
    exact
      ⟨attempt.bound.bound.trans tried.bound.bound,
        attempt.bound.faults.trans tried.bound.faults⟩
  asked := by
    have once :
        after.directory.asked.count flaky.name =
          world.directory.asked.count flaky.name + 1 := by
      rw [directory, attempt.asked]
      simp [World.ask, Directory.ask, World.record, List.count_append]
    rw [once, tried.asked]
    omega
  constructed := by
    rw [constructed, attempt.counted, World.constructionsOf_called,
      tried.constructed]
    omega
  unpublished := unpublished
  published := published

/--
One more call for the name, with the handle that it obtains and the world that it
leaves.
-/
structure Call
    (flaky : Flaky resolver depth start)
    (past : Nat)
    (world : World)
    (handle : Option Handle)
    (ended : World) : Prop where
  resolved :
    Resolved resolver (Calls.nested resolver depth).builds flaky.name
      (world.record (.called flaky.name)) handle ended
  handle_eq :
    handle = ended.registry.cache.find? flaky.name
  tried :
    flaky.Tried (past + 1) (ended.record (.returned flaky.name handle))
  registry :
    past ≠ flaky.failures → ended.registry = world.registry

/--
A call for the name that has made a construction, the outcome of which is not
settled yet.
-/
structure Begun
    (flaky : Flaky resolver depth start)
    (past : Nat)
    (world : World)
    (outcome : Except ConstructionFailure Handler)
    (built : World) : Prop where
  pending :
    past ≤ flaky.failures
  missed :
    (world.record (.called flaky.name)).registry.cache.find? flaky.name = none
  answer :
    resolver (world.record (.called flaky.name)).directory flaky.name =
      .bound flaky.binding
  index :
    ((world.record (.called flaky.name)).ask flaky.name).constructionsOf
        flaky.binding.serial = past
  builds :
    (Calls.nested resolver depth).builds flaky.binding
      ((world.record (.called flaky.name)).ask flaky.name) outcome built
  attempt :
    flaky.binding.Attempt flaky.name flaky.failures
      ((world.record (.called flaky.name)).ask flaky.name) outcome built

/-- Until the construction that succeeds, each call for the name makes one. -/
theorem exists_begun
    (tried : flaky.Tried past world)
    (pending : past ≤ flaky.failures) :
    ∃ outcome built, Begun flaky past world outcome built := by
  obtain ⟨outcome, built, builds, attempt⟩ := flaky.attempt _ tried.grows_called
  have index :
      ((world.record (.called flaky.name)).ask flaky.name).constructionsOf
          flaky.binding.serial = past := by
    rw [World.constructionsOf_called, tried.constructed]
    omega
  exact ⟨outcome, built, pending, tried.unpublished pending,
    flaky.bound _ tried.bound, index, builds, attempt⟩

namespace Begun

variable {built : World}

/-- The construction has published nothing. -/
theorem unpublished
    {outcome : Except ConstructionFailure Handler}
    (begun : Begun flaky past world outcome built) :
    built.registry.cache.find? flaky.name = none := by
  rw [begun.attempt.registry]
  exact begun.missed

/-- A construction that fails leaves the registry as it was. -/
theorem fails
    {failure : ConstructionFailure}
    (begun : Begun flaky past world (.error failure) built)
    (tried : flaky.Tried past world) :
    ∃ handle ended, Call flaky past world handle ended := by
  have isOk := begun.attempt.isOk
  rw [begun.index] at isOk
  have early : past < flaky.failures := by
    simpa [Except.isOk, Except.toBool] using isOk.symm
  have resolved :
      Resolved resolver (Calls.nested resolver depth).builds flaky.name
        (world.record (.called flaky.name)) none _ :=
    .constructionFailed begun.missed flaky.named begun.answer begun.builds
  refine ⟨_, _, resolved, begun.unpublished.symm, ?_, fun _ =>
    begun.attempt.registry⟩
  exact tried.next begun.pending begun.attempt
    (Catalogue.grows_of_resolved resolved) rfl rfl
    (fun _ => begun.unpublished) fun late => absurd late (by omega)

/-- The first one that succeeds is published. -/
theorem succeeds
    {handler : Handler}
    (begun : Begun flaky past world (.ok handler) built)
    (tried : flaky.Tried past world) :
    ∃ handle ended, Call flaky past world handle ended := by
  have isOk := begun.attempt.isOk
  rw [begun.index] at isOk
  have late : flaky.failures ≤ past := by
    simpa [Except.isOk, Except.toBool] using isOk.symm
  have last : past = flaky.failures := Nat.le_antisymm begun.pending late
  have resolved :
      Resolved resolver (Calls.nested resolver depth).builds flaky.name
        (world.record (.called flaky.name)) (some _) _ :=
    .published begun.missed flaky.named begun.answer begun.builds begun.unpublished
  have grows := ((World.Grows.gradual.published begun.unpublished handler).trans
    (.record _ (.emitted (.published flaky.name)))).trans
      (.record _ (.returned flaky.name (some ⟨flaky.name, built.handlers.length⟩)))
  have isInstance :
      flaky.Instance flaky.failures ⟨flaky.name, built.handlers.length⟩ _ :=
    ⟨_, built, handler, tried.grows_called, begun.index.trans last, begun.builds,
      grows, rfl, List.getElem?_concat_length⟩
  refine ⟨_, _, resolved, resolved.holds.symm, ?_, fun different =>
    absurd last different⟩
  exact tried.next begun.pending begun.attempt
    (Catalogue.grows_of_resolved resolved) rfl rfl
    (fun early => absurd early (by omega)) fun _ => ⟨_, resolved.holds, isInstance⟩

end Begun

/-- From then on, each call for the name is answered from the cache. -/
theorem call_of_late
    (tried : flaky.Tried past world)
    (late : flaky.failures < past) :
    ∃ handle ended, Call flaky past world handle ended := by
  obtain ⟨handle, found, isInstance⟩ := tried.published late
  have resolved :
      Resolved resolver (Calls.nested resolver depth).builds flaky.name
        (world.record (.called flaky.name)) (some handle) _ :=
    .cached found
  have grows := Catalogue.grows_of_resolved resolved
  refine ⟨_, _, resolved, found.symm, ?_, fun _ => rfl⟩
  exact
    { grows := tried.grows.trans grows
      bound := tried.bound
      asked := by
        have same := tried.asked
        rw [Nat.min_eq_right (by omega)] at same ⊢
        exact same
      constructed := by
        have same := tried.constructed
        rw [Nat.min_eq_right (by omega)] at same ⊢
        exact same
      unpublished := fun pending => absurd pending (by omega)
      published := fun _ => ⟨handle, found, isInstance.mono grows⟩ }

/-- One more call for the name, in whatever way. -/
theorem own
    (tried : flaky.Tried past world)
    (entrance : Entrance) :
    ∃ after,
      (entrance.operation flaky.name).perform
        (Calls.nested resolver (depth + 1)) world =
          some
            (entrance.answer start.registry.settings flaky.name
              (after.registry.cache.find? flaky.name),
              after) ∧
        flaky.Tried (past + 1) after ∧
        (past ≠ flaky.failures → after.registry = world.registry) := by
  have call : ∃ handle ended, Call flaky past world handle ended := by
    rcases Nat.lt_or_ge flaky.failures past with late | pending
    · exact tried.call_of_late late
    · obtain ⟨outcome, built, begun⟩ := tried.exists_begun pending
      cases outcome with
      | error failure =>
          exact begun.fails tried
      | ok handler =>
          exact begun.succeeds tried
  obtain ⟨handle, ended, call⟩ := call
  refine ⟨ended.record (.returned flaky.name handle), ?_, call.tried, call.registry⟩
  change _ = some (entrance.answer _ _ (ended.registry.cache.find? flaky.name), _)
  rw [← call.handle_eq, ← tried.grows.settings]
  exact (Operation.perform_nested_eq_some_iff (entrance.resolves_operation _)).mpr
    ⟨handle, ended, call.resolved, entrance.conclude_operation _ _ _ _ _⟩

/-- One more turn, whosever it is. -/
theorem turn
    (tried : flaky.Tried past world)
    {turn : Turn}
    {rest : List Turn}
    (undisturbed :
      Turn.Undisturbed (Calls.nested resolver (depth + 1)) flaky.name
        flaky.binding.serial
        (turn :: rest) world) :
    ∃ answer after,
      (turn.operation flaky.name).perform (Calls.nested resolver (depth + 1)) world =
          some (answer, after) ∧
        flaky.Tried (past + if turn.isOwn then 1 else 0) after ∧
        Turn.Undisturbed (Calls.nested resolver (depth + 1)) flaky.name
          flaky.binding.serial rest after := by
  cases turn with
  | own entrance =>
      obtain ⟨after, performed, triedAfter, -⟩ := tried.own entrance
      have performedTurn :
          (Turn.operation flaky.name (.own entrance)).perform
              (Calls.nested resolver (depth + 1)) world =
            some (_, after) := performed
      have goesOn := (Turn.undisturbed_cons performedTurn).mp undisturbed
      exact ⟨_, after, performed, triedAfter, goesOn.2⟩
  | other operation =>
      cases performed :
          (Turn.operation flaky.name (.other operation)).perform
            (Calls.nested resolver (depth + 1)) world with
      | none =>
          cases (Turn.undisturbed_cons_of_none performed).mp undisturbed
      | some ended =>
          obtain ⟨answer, after⟩ := ended
          obtain ⟨spares, goesOn⟩ := (Turn.undisturbed_cons performed).mp undisturbed
          obtain ⟨untouched, faults⟩ := spares rfl
          exact ⟨answer, after, rfl, tried.other performed untouched faults, goesOn⟩

/-- Any number of calls, with anything else between them. -/
theorem performAll
    (tried : flaky.Tried past world)
    {turns : List Turn}
    (undisturbed :
      Turn.Undisturbed (Calls.nested resolver (depth + 1)) flaky.name
        flaky.binding.serial
        turns world) :
    ∃ answers after,
      Operation.performAll (Calls.nested resolver (depth + 1))
          (turns.map (Turn.operation flaky.name)) world =
        some (answers, after) ∧
      flaky.Tried (past + Turn.owned turns) after := by
  induction turns generalizing past world with
  | nil =>
      exact ⟨[], world, rfl, tried⟩
  | cons turn rest inductionHypothesis =>
      obtain ⟨answer, middle, performed, triedMiddle, goesOn⟩ :=
        tried.turn undisturbed
      obtain ⟨answers, after, performedRest, triedAfter⟩ :=
        inductionHypothesis triedMiddle goesOn
      refine ⟨_, after, Operation.performAll_cons_eq_some_iff.mpr
        ⟨answer, middle, answers, performed, performedRest, rfl⟩, ?_⟩
      rw [Turn.owned, List.countP_cons, Nat.add_comm (rest.countP _),
        ← Nat.add_assoc]
      exact triedAfter

end Tried

end Flaky

/--
A name is bound to a constructor that fails a number of times and then succeeds.
However often and in whatever ways the name is called for, and whatever is done
in between that does not touch it, all calls for it end.  As long as no more of
them have been made than fail, the name has no handle.  Those that fail are
answered that there is none, and leave the registry as it was; all later ones are
answered by one handle, the instance of the first construction that succeeds.
The name has been looked up, and its constructor run, once for each call up to
the first that succeeds.
-/
theorem failed_constructions_retried
    {resolver : Resolver}
    {depth : Nat}
    {start : World}
    (flaky : Flaky resolver depth start)
    (turns : List Turn)
    (undisturbed :
      Turn.Undisturbed (Calls.nested resolver (depth + 1)) flaky.name
        flaky.binding.serial
        turns start) :
    ∃ answers after,
      Operation.performAll (Calls.nested resolver (depth + 1))
          (turns.map (Turn.operation flaky.name)) start =
        some (answers, after) ∧
      after.directory.asked.count flaky.name =
        start.directory.asked.count flaky.name +
          min (Turn.owned turns) (flaky.failures + 1) ∧
      after.constructionsOf flaky.binding.serial =
        min (Turn.owned turns) (flaky.failures + 1) ∧
      (Turn.owned turns ≤ flaky.failures →
        after.registry.cache.find? flaky.name = none) ∧
      (flaky.failures < Turn.owned turns →
        ∃ handle,
          after.registry.cache.find? flaky.name = some handle ∧
            flaky.Instance flaky.failures handle after) ∧
      ∀ past entrance rest,
        turns = past ++ .own entrance :: rest →
        ∃ earlier before answer middle,
          Operation.performAll (Calls.nested resolver (depth + 1))
              (past.map (Turn.operation flaky.name)) start =
            some (earlier, before) ∧
          (entrance.operation flaky.name).perform
            (Calls.nested resolver (depth + 1)) before =
            some (answer, middle) ∧
          answers[past.length]? = some answer ∧
          (Turn.owned past < flaky.failures →
            answer = entrance.answer start.registry.settings flaky.name none ∧
              middle.registry = before.registry) ∧
          (flaky.failures ≤ Turn.owned past →
            answer =
              entrance.answer start.registry.settings flaky.name
                (after.registry.cache.find? flaky.name)) := by
  obtain ⟨answers, after, performed, tried⟩ :=
    (Flaky.Tried.ofStart flaky).performAll undisturbed
  rw [Nat.zero_add] at tried
  refine ⟨answers, after, performed, tried.asked, tried.constructed,
    tried.unpublished, tried.published, ?_⟩
  rintro past entrance rest rfl
  rw [List.map_append, List.map_cons] at performed
  obtain ⟨earlier, before, answer, middle, later, performedPast, performedOwn,
    performedRest,
    length, isAnswers⟩ := Operation.performAll_append_cons_eq_some_iff.mp performed
  obtain ⟨_, _, samePast, triedBefore⟩ :=
    (Flaky.Tried.ofStart flaky).performAll undisturbed.earlier
  cases samePast.symm.trans performedPast
  rw [Nat.zero_add] at triedBefore
  obtain ⟨_, sameOwn, triedMiddle, registry⟩ := triedBefore.own entrance
  cases sameOwn.symm.trans performedOwn
  have grows : middle.Grows after :=
    World.Grows.stable.performAll (World.Grows.stable.nested resolver (depth + 1)) _
      performedRest
  rw [List.length_map] at length
  refine ⟨earlier, before, _, middle, performedPast, performedOwn, ?_, ?_, ?_⟩
  · rw [isAnswers, ← length, List.getElem?_append_right (Nat.le_refl _),
      Nat.sub_self, List.getElem?_cons_zero]
  · intro early
    rw [triedMiddle.unpublished early]
    exact ⟨rfl, registry (Nat.ne_of_lt early)⟩
  · intro late
    obtain ⟨handle, found, -⟩ := triedMiddle.published (Nat.lt_succ_of_le late)
    rw [found, grows.cached found]

/-! ## Constructors that leave the registry alone -/

/-- Code without effects starts no constructor. -/
theorem Script.Ends.constructionsOf_eq
    {settings : Settings}
    {script : Script .construct}
    {outcome ended : Except Failure Handler}
    {calls : Calls}
    {world after : World}
    (ends : script.Ends settings outcome)
    (configured : world.registry.settings = settings)
    (ran : script.run calls world = some (ended, after))
    (serial : Nat) :
    after.constructionsOf serial = world.constructionsOf serial := by
  induction ends generalizing world with
  | build =>
      cases ran
      rfl
  | fail =>
      cases ran
      rfl
  | readSettings _ inductionHypothesis =>
      subst configured
      exact inductionHypothesis rfl ran
  | @note remark next _ _ inductionHypothesis =>
      have goesOn :
          next.run calls (world.record (.noted remark)) = some (ended, after) := ran
      have same :
          after.constructionsOf serial =
            (world.record (.noted remark)).constructionsOf serial :=
        inductionHypothesis configured goesOn
      exact same

/--
A constructor without effects makes such attempts if its first runs fail and no
others do.
-/
theorem Binding.attempt_of_factory
    {binding : Binding}
    {typeName : String}
    {make : Nat → Script .construct}
    (isFactory : binding.descriptor = .factory typeName make)
    {failures : Nat}
    (ends :
      ∀ index settings,
        ∃ outcome,
          (make index).Ends settings outcome ∧
            outcome.isOk = decide (failures ≤ index))
    (name : String)
    (calls : Calls)
    (world : World) :
    ∃ outcome after,
      calls.builds binding world outcome after ∧
        binding.Attempt name failures world outcome after := by
  obtain ⟨outcome, ended, isOk⟩ :=
    ends (world.constructionsOf binding.serial) world.registry.settings
  have configured :
      (world.record
        (.constructing binding.serial typeName
          (some (world.constructionsOf binding.serial)))).registry.settings =
        world.registry.settings := rfl
  obtain ⟨after, ran, composed⟩ := ended.run calls _ configured
  have directory : after.directory = world.directory := by
    rw [composed.directory, List.append_nil]
    rfl
  refine ⟨_, after, Calls.builds_iff.mpr (.factory isFactory ran), ?_⟩
  exact
    { isOk := by
        rw [← isOk]
        cases outcome <;> rfl
      counted := by
        rw [ended.constructionsOf_eq configured ran]
        simp [World.constructionsOf, Journal.constructionsOf, World.record]
      registry := by
        rw [composed.registry]
        rfl
      asked := congrArg _ directory
      bound :=
        ⟨congrArg (·.table.find? name) directory,
          congrArg (·.faults.find? name) directory⟩ }

/--
A stock factory without effects fails on as many of its first runs as it is told to.
-/
theorem Blueprint.ends_make
    {blueprint : Blueprint}
    (noEffects : blueprint.effects = [])
    (product : ∀ index, ∃ handler, blueprint.product index = .build handler)
    (index : Nat)
    (settings : Settings) :
    ∃ outcome,
      (blueprint.make index).Ends settings outcome ∧
        outcome.isOk = decide (blueprint.failFirst ≤ index) := by
  have make :
      blueprint.make index =
        if index < blueprint.failFirst then
          .fail blueprint.failure
        else
          blueprint.product index := by
    simp [Blueprint.make, noEffects]
  rw [make]
  by_cases early : index < blueprint.failFirst
  · rw [if_pos early]
    exact ⟨_, .fail, by simp [Except.isOk, Except.toBool, early]⟩
  · obtain ⟨handler, isHandler⟩ := product index
    rw [if_neg early, isHandler]
    exact ⟨_, .build, by simp [Except.isOk, Except.toBool, Nat.le_of_not_lt early]⟩

/-- A stock factory in the type table, in a registry that has just been created. -/
def Flaky.ofBlueprint
    (depth : Nat)
    (directory : Directory)
    (name typeName : String)
    (serial : Nat)
    (blueprint : Blueprint)
    (named : name ≠ "")
    (found :
      directory.table.find? name = some ⟨serial, .factory typeName blueprint.make⟩)
    (noEffects : blueprint.effects = [])
    (product : ∀ index, ∃ handler, blueprint.product index = .build handler)
    (settings : Settings) :
    Flaky .ofTable depth { World.create settings with directory := directory } where
  name := name
  binding := ⟨serial, .factory typeName blueprint.make⟩
  failures := blueprint.failFirst
  named := named
  bound _ same := Resolver.ofTable_eq_bound_iff.mpr (same.bound.trans found)
  unpublished := rfl
  unbuilt := rfl
  attempt world _ :=
    Binding.attempt_of_factory
      rfl (Blueprint.ends_make noEffects product) name _ world

/-- A factory that fails twice. -/
def Blueprint.shy : Blueprint where
  effects := []
  effectsLimit := 0
  failFirst := 2
  failure := Failure.single "not yet"
  product index := .build (.tagged index)

/-- The shy factory, and a composed handler over another name. -/
def entryHall : Directory :=
  ((Directory.empty.register "shy"
    (.factory "Shy" Blueprint.shy.make)).register "inner"
    (.plain "Inner" .null)).register "outer"
      (.factory "Outer" fun _ => Script.forwardingTo "inner" true)

/-- The shy name in the entry hall. -/
def shyFlaky :
    Flaky .ofTable 2 { World.create .default with directory := entryHall } :=
  .ofBlueprint 2 entryHall "shy" "Shy" 0 .shy (by decide)
    rfl rfl (fun _ => ⟨_, rfl⟩) .default

/-- Four calls for the name, and others between them. -/
def knocks : List Turn :=
  [.own .find, .other (.resolveStrict "outer"), .own (.resolve true),
    .other (.find "missing"), .own .resolveOrNone, .own .resolveStrict]

theorem knocks_undisturbed :
    Turn.Undisturbed (Calls.nested .ofTable 3) "shy" 0 knocks
      { World.create .default with directory := entryHall } := by
  decide +kernel

/--
The first two calls are in vain, the others obtain one handle, after three lookups
in all.
-/
theorem knocks_retried :
    ∃ answers after handle,
      Operation.performAll (Calls.nested .ofTable 3)
        (knocks.map (Turn.operation "shy"))
          { World.create .default with directory := entryHall } =
        some (answers, after) ∧
      answers[0]? = some (Entrance.find.answer .default "shy" none) ∧
      answers[2]? = some (.resolution (.error (.unresolved "shy"))) ∧
      answers[4]? = some (.optional (some handle)) ∧
      answers[5]? = some (.required (.ok handle)) ∧
      shyFlaky.Instance 2 handle after ∧
      after.directory.asked.count "shy" = 3 ∧
      after.constructionsOf 0 = 3 := by
  obtain ⟨answers, after, performed, asked, constructed, -, published, each⟩ :=
    failed_constructions_retried shyFlaky knocks knocks_undisturbed
  obtain ⟨handle, found, isInstance⟩ := published (by decide)
  obtain ⟨_, _, _, _, -, -, first, firstFails, -⟩ := each [] .find _ rfl
  obtain ⟨_, _, _, _, -, -, second, secondFails, -⟩ :=
    each (knocks.take 2) (.resolve true) _ rfl
  obtain ⟨_, _, _, _, -, -, third, -, thirdFinds⟩ :=
    each (knocks.take 4) .resolveOrNone _ rfl
  obtain ⟨_, _, _, _, -, -, fourth, -, fourthFinds⟩ :=
    each (knocks.take 5) .resolveStrict _ rfl
  rw [(firstFails (by decide)).1] at first
  rw [(secondFails (by decide)).1] at second
  rw [thirdFinds (by decide), found] at third
  rw [fourthFinds (by decide), found] at fourth
  exact ⟨answers, after, handle, performed, first, second, third, fourth,
    isInstance, asked, constructed⟩

end Dispatch
