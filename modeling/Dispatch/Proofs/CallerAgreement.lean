import Dispatch.Handler.Stock
import Dispatch.Proofs.CacheIntegrity
import Dispatch.Registry.Interleaving

namespace Dispatch

/-!
# Agreement of concurrent callers

Callers that miss the cache together may build different handlers from different
bindings and come to publish them in any order.  Still, whoever ends with a
handle ends with the one in the cache: this is `Crowd.Agrees`, which every move
keeps because moves only ever add to the cache.
-/

/-- An operation that resolves a name. -/
structure Inquiry where
  operation : Operation
  name : String
  resolves : operation.resolves? = some name

/-- The caller whose step a move is; the others are moves of the environment. -/
def Move.caller? : Move → Option Nat
  | check index => some index
  | hear index _ => some index
  | settle index _ => some index
  | publish index => some index
  | register _ _ => none
  | unregister _ => none

namespace Crowd

/-- Callers that are each about to make the resolve call of an inquiry. -/
def gather
    (world : World)
    (inquiries : List Inquiry) : Crowd :=
  ⟨world, inquiries.map fun inquiry => ⟨inquiry.name, .ready⟩⟩

/-- The handle with which a caller's call has ended. -/
def returned?
    (crowd : Crowd)
    (index : Nat) : Option Handle :=
  crowd.callers[index]?.bind Caller.handle?

/-- The caller has not yet looked into the cache. -/
def IsReady
    (crowd : Crowd)
    (index : Nat) : Prop :=
  ∃ name, crowd.callers[index]? = some ⟨name, .ready⟩

/-- What the moves of a schedule do, each where its caller has come to it. -/
inductive Step (crowd : Crowd) : Move → Crowd → Prop
  | hit
      {index : Nat}
      {name : String}
      {handle : Handle}
      (ready : crowd.callers[index]? = some ⟨name, .ready⟩)
      (found : crowd.world.registry.cache.find? name = some handle) :
      Step crowd (.check index)
        (crowd.advance index name (.done (some handle))
          (crowd.world.emit (.cacheHit name)))
  | nameless
      {index : Nat}
      {name : String}
      (ready : crowd.callers[index]? = some ⟨name, .ready⟩)
      (missed : crowd.world.registry.cache.find? name = none)
      (empty : name = "") :
      Step crowd (.check index)
        (crowd.advance index name (.done none) crowd.world)
  | missed
      {index : Nat}
      {name : String}
      (ready : crowd.callers[index]? = some ⟨name, .ready⟩)
      (missed : crowd.world.registry.cache.find? name = none)
      (named : name ≠ "") :
      Step crowd (.check index)
        (crowd.advance index name .missed crowd.world)
  | found
      {index : Nat}
      {name : String}
      {binding : Binding}
      (missed : crowd.callers[index]? = some ⟨name, .missed⟩) :
      Step crowd (.hear index (.bound binding))
        (crowd.advance index name (.found binding) (crowd.world.ask name))
  | unbound
      {index : Nat}
      {name : String}
      (missed : crowd.callers[index]? = some ⟨name, .missed⟩) :
      Step crowd (.hear index .unbound)
        (crowd.advance index name (.done none)
          ((crowd.world.ask name).emit (.unbound name)))
  | lookupFailed
      {index : Nat}
      {name : String}
      {failure : LookupFailure}
      (missed : crowd.callers[index]? = some ⟨name, .missed⟩) :
      Step crowd (.hear index (.failed failure))
        (crowd.advance index name (.done none)
          ((crowd.world.ask name).emit (.lookupFailed name failure)))
  | built
      {index : Nat}
      {name : String}
      {binding : Binding}
      {handler : Handler}
      (found : crowd.callers[index]? = some ⟨name, .found binding⟩) :
      Step crowd (.settle index (.ok handler))
        (crowd.advance index name (.built crowd.world.handlers.length)
          (crowd.world.settle name (.ok handler)).2)
  | constructionFailed
      {index : Nat}
      {name : String}
      {binding : Binding}
      {failure : ConstructionFailure}
      (found : crowd.callers[index]? = some ⟨name, .found binding⟩) :
      Step crowd (.settle index (.error failure))
        (crowd.advance index name (.done none)
          (crowd.world.settle name (.error failure)).2)
  | published
      {index : Nat}
      {name : String}
      {instanceId : Nat}
      (built : crowd.callers[index]? = some ⟨name, .built instanceId⟩)
      (unpublished : crowd.world.registry.cache.find? name = none) :
      Step crowd (.publish index)
        (crowd.advance index name (.done (some ⟨name, instanceId⟩))
          ((crowd.world.insert name ⟨name, instanceId⟩).emit (.published name)))
  | discarded
      {index : Nat}
      {name : String}
      {instanceId : Nat}
      {existing : Handle}
      (built : crowd.callers[index]? = some ⟨name, .built instanceId⟩)
      (present : crowd.world.registry.cache.find? name = some existing) :
      Step crowd (.publish index)
        (crowd.advance index name (.done (some existing))
          (crowd.world.emit (.duplicateDiscarded name)))
  | registered
      (name : String)
      (descriptor : Descriptor) :
      Step crowd (.register name descriptor)
        { crowd with world := (crowd.world.register name descriptor).2 }
  | unregistered
      (name : String) :
      Step crowd (.unregister name)
        { crowd with world := (crowd.world.unregister name).2 }

namespace Step

variable {crowd moved : Crowd}

private theorem of_check
    {index : Nat}
    (accepted : crowd.check? index = some moved) :
    crowd.Step (.check index) moved := by
  unfold check? at accepted
  split at accepted
  · rename_i name ready
    cases found : crowd.world.registry.cache.find? name with
    | some handle =>
        simp only [World.checkCache, found, Option.some.injEq] at accepted
        exact accepted ▸ .hit ready found
    | none =>
        simp only [World.checkCache, found, Option.some.injEq] at accepted
        by_cases named : name = ""
        · subst named
          exact accepted ▸ .nameless ready found rfl
        · have notEmpty : name.isEmpty = false := by
            simpa using named
          rw [notEmpty] at accepted
          exact accepted ▸ .missed ready found named
  · cases accepted

private theorem of_hear
    {index : Nat}
    {answer : Lookup}
    (accepted : crowd.hear? index answer = some moved) :
    crowd.Step (.hear index answer) moved := by
  unfold hear? at accepted
  split at accepted
  · rename_i name missed
    cases answer with
    | bound binding =>
        cases accepted
        exact .found missed
    | unbound =>
        cases accepted
        exact .unbound missed
    | failed failure =>
        cases accepted
        exact .lookupFailed missed
  · cases accepted

private theorem of_settle
    {index : Nat}
    {outcome : Except ConstructionFailure Handler}
    (accepted : crowd.settle? index outcome = some moved) :
    crowd.Step (.settle index outcome) moved := by
  unfold settle? at accepted
  split at accepted
  · rename_i name binding found
    cases outcome with
    | ok handler =>
        cases accepted
        exact .built found
    | error failure =>
        cases accepted
        exact .constructionFailed found
  · cases accepted

private theorem of_publish
    {index : Nat}
    (accepted : crowd.publish? index = some moved) :
    crowd.Step (.publish index) moved := by
  unfold publish? at accepted
  split at accepted
  · rename_i name instanceId built
    cases present : crowd.world.registry.cache.find? name with
    | none =>
        rw [World.publish_of_unpublished present] at accepted
        cases accepted
        exact .published built present
    | some existing =>
        rw [World.publish_of_present present] at accepted
        cases accepted
        exact .discarded built present
  · cases accepted

/-- Every accepted move is one of these. -/
theorem of_move?
    {move : Move}
    (accepted : crowd.move? move = some moved) :
    crowd.Step move moved := by
  cases move with
  | check index =>
      exact of_check accepted
  | hear index answer =>
      exact of_hear accepted
  | settle index outcome =>
      exact of_settle accepted
  | publish index =>
      exact of_publish accepted
  | register name descriptor =>
      cases accepted
      exact .registered name descriptor
  | unregister name =>
      cases accepted
      exact .unregistered name

variable
  {move : Move}
  {index : Nat}

/-- No move takes anything out of the cache. -/
theorem grows
    (step : crowd.Step move moved) :
    crowd.world.Grows moved.world := by
  cases step with
  | hit ready found =>
      exact .record _ _
  | nameless ready missed empty =>
      exact .refl _
  | missed ready missed named =>
      exact .refl _
  | found missed =>
      exact .ofDirectory _ _
  | unbound missed =>
      exact (World.Grows.ofDirectory _ _).trans (.record _ _)
  | lookupFailed missed =>
      exact (World.Grows.ofDirectory _ _).trans (.record _ _)
  | built found =>
      exact .settle _ _ _
  | constructionFailed found =>
      exact .settle _ _ _
  | published built unpublished =>
      exact (World.Grows.insert unpublished _).trans (.record _ _)
  | discarded built present =>
      exact .record _ _
  | registered name descriptor =>
      exact .register _ _ _
  | unregistered name =>
      exact .unregister _ _

/-- A move leaves all callers but its own where they are. -/
theorem others
    (step : crowd.Step move moved)
    {other : Nat}
    (notOwn : move.caller? ≠ some other) :
    moved.callers[other]? = crowd.callers[other]? := by
  have different : ∀ {index name phase world},
      index ≠ other →
      (crowd.advance index name phase world).callers[other]? =
        crowd.callers[other]? := by
    intro index name phase world different
    exact List.getElem?_set_ne different
  cases step with
  | registered name descriptor =>
      rfl
  | unregistered name =>
      rfl
  | _ =>
      exact different fun same => notOwn (congrArg some same)

/--
A move takes its own caller on: from a call that has not ended, to one that has
begun, and to an end with a handle only if the cache then holds that handle.
-/
theorem own
    (step : crowd.Step move moved)
    (isOwn : move.caller? = some index) :
    ∃ name phase next,
      crowd.callers[index]? = some ⟨name, phase⟩ ∧
        moved.callers[index]? = some ⟨name, next⟩ ∧
        (∀ handle, phase ≠ .done handle) ∧
        next ≠ .ready ∧
        ∀ handle,
          next = .done (some handle) →
          moved.world.registry.cache.find? name = some handle := by
  have advanced : ∀ {name phase next world},
      crowd.callers[index]? = some ⟨name, phase⟩ →
      (crowd.advance index name next world).callers[index]? =
        some ⟨name, next⟩ := by
    intro name phase next world present
    obtain ⟨inBounds, _⟩ := List.getElem?_eq_some_iff.mp present
    exact List.getElem?_set_self inBounds
  cases step with
  | hit ready found =>
      cases isOwn
      refine ⟨_, _, _, ready, advanced ready, by simp, by simp, ?_⟩
      rintro handle ⟨⟩
      exact found
  | nameless ready missed empty =>
      cases isOwn
      exact ⟨_, _, _, ready, advanced ready, by simp, by simp, by simp⟩
  | missed ready missed named =>
      cases isOwn
      exact ⟨_, _, _, ready, advanced ready, by simp, by simp, by simp⟩
  | found missed =>
      cases isOwn
      exact ⟨_, _, _, missed, advanced missed, by simp, by simp, by simp⟩
  | unbound missed =>
      cases isOwn
      exact ⟨_, _, _, missed, advanced missed, by simp, by simp, by simp⟩
  | lookupFailed missed =>
      cases isOwn
      exact ⟨_, _, _, missed, advanced missed, by simp, by simp, by simp⟩
  | built found =>
      cases isOwn
      exact ⟨_, _, _, found, advanced found, by simp, by simp, by simp⟩
  | constructionFailed found =>
      cases isOwn
      exact ⟨_, _, _, found, advanced found, by simp, by simp, by simp⟩
  | @published _ name instanceId built unpublished =>
      cases isOwn
      refine ⟨_, _, _, built, advanced built, by simp, by simp, ?_⟩
      rintro handle ⟨⟩
      change (World.insert _ name _).registry.cache.find? name = _
      rw [World.find?_insert, if_pos rfl]
  | discarded built present =>
      cases isOwn
      refine ⟨_, _, _, built, advanced built, by simp, by simp, ?_⟩
      rintro handle ⟨⟩
      exact present
  | registered name descriptor =>
      cases isOwn
  | unregistered name =>
      cases isOwn

end Step

/-! ## Runs -/

/-- Every handle that a call has ended with is the cached one. -/
structure Agrees
    (crowd : Crowd) : Prop where
  cached :
    ∀ {index : Nat} {name : String} {handle : Handle},
      crowd.callers[index]? = some ⟨name, .done (some handle)⟩ →
      crowd.world.registry.cache.find? name = some handle

variable {crowd moved final : Crowd}

theorem run?_cons_eq_some_iff
    {move : Move}
    {rest : List Move} :
    crowd.run? (move :: rest) = some final ↔
      ∃ moved, crowd.move? move = some moved ∧ moved.run? rest = some final := by
  rw [run?]
  cases crowd.move? move with
  | none => simp
  | some moved => simp

theorem run?_append_eq_some_iff
    {earlier later : List Move} :
    crowd.run? (earlier ++ later) = some final ↔
      ∃ middle,
        crowd.run? earlier = some middle ∧ middle.run? later = some final := by
  induction earlier generalizing crowd with
  | nil =>
      simp [run?]
  | cons move rest inductionHypothesis =>
      simp only [List.cons_append, run?_cons_eq_some_iff, inductionHypothesis]
      constructor
      · rintro ⟨moved, accepted, middle, ran, finished⟩
        exact ⟨middle, ⟨moved, accepted, ran⟩, finished⟩
      · rintro ⟨middle, ⟨moved, accepted, ran⟩, finished⟩
        exact ⟨moved, accepted, middle, ran, finished⟩

/-- A move keeps the agreement of all that have returned. -/
theorem Agrees.step
    (agrees : crowd.Agrees)
    {move : Move}
    (step : crowd.Step move moved) :
    moved.Agrees where
  cached := by
    intro index name handle returned
    by_cases isOwn : move.caller? = some index
    · obtain ⟨_, _, _, _, after, _, _, cached⟩ := step.own isOwn
      rw [after] at returned
      cases returned
      exact cached handle rfl
    · rw [step.others isOwn] at returned
      exact step.grows.cached (agrees.cached returned)

theorem Agrees.run
    (agrees : crowd.Agrees)
    {schedule : List Move}
    (ran : crowd.run? schedule = some final) :
    final.Agrees := by
  induction schedule generalizing crowd with
  | nil =>
      cases ran
      exact agrees
  | cons move rest inductionHypothesis =>
      obtain ⟨moved, accepted, finished⟩ := run?_cons_eq_some_iff.mp ran
      exact inductionHypothesis (agrees.step (.of_move? accepted)) finished

/-- An ended call stays as it is, and its caller makes no further move. -/
theorem run?_of_done
    {index : Nat}
    {name : String}
    {outcome : Option Handle}
    (done : crowd.callers[index]? = some ⟨name, .done outcome⟩)
    {schedule : List Move}
    (ran : crowd.run? schedule = some final) :
    final.callers[index]? = some ⟨name, .done outcome⟩ ∧
      ∀ move ∈ schedule, move.caller? ≠ some index := by
  induction schedule generalizing crowd with
  | nil =>
      cases ran
      exact ⟨done, by simp⟩
  | cons move rest inductionHypothesis =>
      obtain ⟨moved, accepted, finished⟩ := run?_cons_eq_some_iff.mp ran
      have step := Step.of_move? accepted
      have notOwn : move.caller? ≠ some index := by
        intro isOwn
        obtain ⟨_, phase, _, before, _, notDone, _⟩ := step.own isOwn
        rw [done] at before
        cases before
        exact notDone outcome rfl
      rw [← step.others notOwn] at done
      obtain ⟨stays, restNotOwn⟩ := inductionHypothesis done finished
      exact ⟨stays, List.forall_mem_cons.mpr ⟨notOwn, restNotOwn⟩⟩

/-- A caller that has not begun has made no move. -/
theorem run?_of_ready
    {index : Nat}
    {schedule : List Move}
    (ran : crowd.run? schedule = some final)
    (ready : final.IsReady index) :
    crowd.IsReady index ∧ ∀ move ∈ schedule, move.caller? ≠ some index := by
  induction schedule generalizing crowd with
  | nil =>
      cases ran
      exact ⟨ready, by simp⟩
  | cons move rest inductionHypothesis =>
      obtain ⟨moved, accepted, finished⟩ := run?_cons_eq_some_iff.mp ran
      have step := Step.of_move? accepted
      obtain ⟨⟨name, readyThen⟩, restNotOwn⟩ := inductionHypothesis finished
      have notOwn : move.caller? ≠ some index := by
        intro isOwn
        obtain ⟨_, _, next, _, after, _, begun, _⟩ := step.own isOwn
        rw [after] at readyThen
        cases readyThen
        exact begun rfl
      rw [step.others notOwn] at readyThen
      exact ⟨⟨name, readyThen⟩, List.forall_mem_cons.mpr ⟨notOwn, restNotOwn⟩⟩

/-- Callers keep their names. -/
theorem name_of_run
    {schedule : List Move}
    (ran : crowd.run? schedule = some final)
    (index : Nat) :
    final.callers[index]?.map Caller.name =
      crowd.callers[index]?.map Caller.name := by
  induction schedule generalizing crowd with
  | nil =>
      cases ran
      rfl
  | cons move rest inductionHypothesis =>
      obtain ⟨moved, accepted, finished⟩ := run?_cons_eq_some_iff.mp ran
      have step := Step.of_move? accepted
      rw [inductionHypothesis finished]
      by_cases isOwn : move.caller? = some index
      · obtain ⟨name, _, _, before, after, _⟩ := step.own isOwn
        rw [before, after]
        rfl
      · rw [step.others isOwn]

/--
A call that has returned a handle has ended with it, under the name of its inquiry.
-/
theorem done_of_returned
    {world : World}
    {inquiries : List Inquiry}
    {schedule : List Move}
    (ran : (gather world inquiries).run? schedule = some final)
    {index : Nat}
    {inquiry : Inquiry}
    (asks : inquiries[index]? = some inquiry)
    {handle : Handle}
    (returned : final.returned? index = some handle) :
    final.callers[index]? = some ⟨inquiry.name, .done (some handle)⟩ := by
  obtain ⟨caller, present, handed⟩ := Option.bind_eq_some_iff.mp returned
  have nameKept := name_of_run ran index
  simp only [gather, List.getElem?_map, asks, present, Option.map_some,
    Option.some.injEq] at nameKept
  obtain ⟨name, phase⟩ := caller
  cases phase with
  | done outcome =>
      cases handed
      cases nameKept
      exact present
  | _ =>
      cases handed

/-- Callers that have not begun agree. -/
theorem agrees_gather
    (world : World)
    (inquiries : List Inquiry) :
    (gather world inquiries).Agrees where
  cached := by
    intro index name handle present
    simp only [gather, List.getElem?_map, Option.map_eq_some_iff] at present
    obtain ⟨inquiry, _, same⟩ := present
    cases same

/--
Who looks into the cache for a cached name ends with what it holds, and only that
changes.
-/
theorem hit_of_cached
    {index : Nat}
    {name : String}
    {handle : Handle}
    (accepted : crowd.move? (.check index) = some moved)
    (bears : crowd.callers[index]?.map Caller.name = some name)
    (cached : crowd.world.registry.cache.find? name = some handle) :
    crowd.IsReady index ∧
      moved.callers[index]? = some ⟨name, .done (some handle)⟩ ∧
      moved =
        crowd.advance index name (.done (some handle))
          (crowd.world.emit (.cacheHit name)) := by
  have step := Step.of_move? accepted
  cases step with
  | hit ready found =>
      rw [ready] at bears
      cases bears
      rw [found] at cached
      cases cached
      obtain ⟨inBounds, _⟩ := List.getElem?_eq_some_iff.mp ready
      exact ⟨⟨_, ready⟩, List.getElem?_set_self inBounds, rfl⟩
  | nameless ready missed empty =>
      rw [ready] at bears
      cases bears
      rw [missed] at cached
      cases cached
  | missed ready missed named =>
      rw [ready] at bears
      cases bears
      rw [missed] at cached
      cases cached

/--
In every schedule, all calls for one name that return a handle return the cached
one.  A call that looks into the cache after one of them has returned makes that
one move only, which reports a hit and changes nothing else.  Whichever way a
call came in, it hands over the handle that it has returned.
-/
theorem callers_agree
    (world : World)
    (inquiries : List Inquiry)
    (schedule : List Move)
    {final : Crowd}
    (ran : (gather world inquiries).run? schedule = some final) :
    (∀ i j first second handle other,
      inquiries[i]? = some first →
      inquiries[j]? = some second →
      first.name = second.name →
      final.returned? i = some handle →
      final.returned? j = some other →
      handle = other ∧
        final.world.registry.cache.find? first.name = some handle) ∧
    (∀ earlier later i j first second handle middle,
      schedule = earlier ++ .check i :: later →
      (gather world inquiries).run? earlier = some middle →
      inquiries[i]? = some first →
      inquiries[j]? = some second →
      first.name = second.name →
      middle.returned? j = some handle →
      final.returned? i = some handle ∧
        schedule.filter (fun move => move.caller? = some i) = [.check i] ∧
        middle.move? (.check i) =
          some
            (middle.advance i first.name (.done (some handle))
              (middle.world.emit (.cacheHit first.name)))) ∧
    ∀ inquiry ∈ inquiries, ∀ handle,
      inquiry.operation.HandsOver inquiry.name handle := by
  refine ⟨?_, ?_, ?_⟩
  · intro i j first second handle other firstAsks secondAsks sameName
      firstReturned secondReturned
    have agrees := (agrees_gather world inquiries).run ran
    have firstCached := agrees.cached (done_of_returned ran firstAsks firstReturned)
    have secondCached :=
      agrees.cached (done_of_returned ran secondAsks secondReturned)
    rw [← sameName, firstCached] at secondCached
    exact ⟨Option.some.inj secondCached, firstCached⟩
  · intro earlier later i j first second handle middle shape ranEarlier
      firstAsks secondAsks sameName returned
    subst shape
    obtain ⟨_, sameMiddle, ranLater⟩ := run?_append_eq_some_iff.mp ran
    rw [ranEarlier] at sameMiddle
    cases sameMiddle
    obtain ⟨moved, accepted, finished⟩ := run?_cons_eq_some_iff.mp ranLater
    have agrees := (agrees_gather world inquiries).run ranEarlier
    have cached :=
      agrees.cached (done_of_returned ranEarlier secondAsks returned)
    have bears : middle.callers[i]?.map Caller.name = some first.name := by
      rw [name_of_run ranEarlier i]
      simp [gather, firstAsks]
    rw [← sameName] at cached
    obtain ⟨ready, done, rfl⟩ := hit_of_cached accepted bears cached
    -- The caller was ready before its check, and done from then on.
    obtain ⟨_, notEarlier⟩ := run?_of_ready ranEarlier ready
    obtain ⟨stays, notLater⟩ := run?_of_done done finished
    refine ⟨?_, ?_, accepted⟩
    · simp [returned?, stays, Caller.handle?]
    · have noneEarlier :
          earlier.filter (fun move => move.caller? = some i) = [] := by
        simpa using notEarlier
      have noneLater :
          later.filter (fun move => move.caller? = some i) = [] := by
        simpa using notLater
      rw [List.filter_append, noneEarlier, List.filter_cons, noneLater]
      simp [Move.caller?]
  · intro inquiry _ handle
    exact Operation.handsOver inquiry.resolves handle

/-- Three ways to ask for one name. -/
def rivals : List Inquiry :=
  [⟨.resolve "mem" true, "mem", rfl⟩,
    ⟨.get ⟨some "mem", "key"⟩ none, "mem", rfl⟩,
    ⟨.find "mem", "mem", rfl⟩]

/-- Two callers race, and the name is bound anew between their lookups. -/
def rivalry : List Move :=
  [.check 0, .check 1, .hear 0 (.bound ⟨0, .plain "Null" .null⟩),
    .register "mem" (.plain "Echo" .echo),
    .hear 1 (.bound ⟨1, .plain "Echo" .echo⟩), .settle 1 (.ok .echo),
    .settle 0 (.ok .null), .publish 1, .publish 0, .unregister "mem"]

/--
The two rivals, and one who comes when nothing is bound, get what was published
first.
-/
theorem rivals_agree :
    ∃ final,
      (gather (World.create .default) rivals).run? (rivalry ++ [.check 2]) =
          some final ∧
        final.world.registry.cache.find? "mem" = some ⟨"mem", 0⟩ ∧
        final.returned? 2 = some ⟨"mem", 0⟩ := by
  have agreed :=
    @callers_agree (World.create .default) rivals (rivalry ++ [.check 2])
  refine ⟨_, rfl, ?_, ?_⟩
  · exact ((agreed rfl).1 0 1 _ _ ⟨"mem", 0⟩ ⟨"mem", 0⟩ rfl rfl rfl rfl rfl).2
  · exact ((agreed rfl).2.1 rivalry [] 2 0 _ _ ⟨"mem", 0⟩ _
      rfl rfl rfl rfl rfl rfl).1

end Crowd

end Dispatch
