import Dispatch.Proofs.CallerAgreement
import Dispatch.Proofs.Chronicle

namespace Dispatch

/-!
# Accounts of a race

Callers that race for a name which has no handle yet each look it up and build a
handler of their own, unless one was published before they looked into the
cache.  `Crowd.Accounts` ties the numbers of lookups, of constructions and of
reports to the numbers of callers that have come to each stage of their calls.
When all calls have ended, the numbers say who has contended, and that exactly
one of these has published.
-/

/-- The stages of a call. -/
inductive Stage
  | ready
  | missed
  | found
  | built
  | done
deriving DecidableEq

/-- The stage that a call has come to. -/
def Phase.stage : Phase → Stage
  | ready => .ready
  | missed => .missed
  | found _ => .found
  | built _ => .built
  | done _ => .done

/--
A move that brings a binding to whoever asks for one, and a handler to whoever
builds one.
-/
def Move.IsFruitful : Move → Prop
  | hear _ answer => ∃ binding, answer = .bound binding
  | settle _ outcome => ∃ handler, outcome = .ok handler
  | _ => True

@[simp] theorem Journal.tally_append
    (first second : Journal)
    (outcome : Outcome) :
    tally (first ++ second) outcome =
        first.tally outcome + second.tally outcome := by
  simp [tally]

theorem Journal.tally_of_silent
    (journal : Journal)
    (silent : journal.outcomes = [])
    (outcome : Outcome) :
    journal.tally outcome = 0 := by
  rw [tally, silent]
  rfl

namespace Crowd

/-- The number of callers that have come to a stage. -/
def standing
    (crowd : Crowd)
    (stage : Stage) : Nat :=
  crowd.callers.countP fun caller => caller.phase.stage = stage

section

variable
  {crowd : Crowd}
  {index : Nat}
  {name : String}
  {phase next : Phase}
  {world : World}

/-- A caller that is moved on leaves one stage and comes to another. -/
theorem standing_advance
    (present : crowd.callers[index]? = some ⟨name, phase⟩)
    (next : Phase)
    (world : World)
    (stage : Stage) :
    (crowd.advance index name next world).standing stage +
        (if phase.stage = stage then 1 else 0) =
      crowd.standing stage + if next.stage = stage then 1 else 0 := by
  obtain ⟨inBounds, isCaller⟩ := List.getElem?_eq_some_iff.mp present
  have counted :
      phase.stage = stage →
      0 < crowd.callers.countP fun caller => caller.phase.stage = stage := by
    intro atStage
    refine List.countP_pos_iff.mpr ⟨⟨name, phase⟩, ?_, by simpa using atStage⟩
    exact isCaller ▸ List.getElem_mem inBounds
  unfold standing advance
  rw [List.countP_set inBounds, isCaller]
  by_cases atStage : phase.stage = stage
  · have positive := counted atStage
    simp only [atStage, decide_true, if_true]
    by_cases comes : next.stage = stage <;> simp [comes] <;> omega
  · simp [atStage]

/-- What holds of all callers still does if it holds of the one that is moved on. -/
theorem forall_mem_advance
    {property : Caller → Prop}
    (all : ∀ caller ∈ crowd.callers, property caller)
    (moved : property ⟨name, next⟩) :
    ∀ caller ∈ (crowd.advance index name next world).callers, property caller := by
  intro caller member
  rcases List.mem_or_eq_of_mem_set member with earlier | rfl
  · exact all caller earlier
  · exact moved

end

/--
What has become of the cache since callers for one name were about to begin.
Nobody has met or dropped a handle before one was published, and the published
one is among those that they have built.
-/
inductive Holding
    (name : String)
    (start : World)
    (constructions : Nat)
    (happened : Journal)
    (world : World) : Prop
  | nothing
      (unchanged : world.registry = start.registry)
      (unpublished : happened.tally .published = 0)
      (undiscarded : happened.tally .discarded = 0)
      (unmet : happened.tally .hit = 0)
  | handle
      (instanceId : Nat)
      (inserted : world.registry = (start.insert name ⟨name, instanceId⟩).registry)
      (lower : start.handlers.length ≤ instanceId)
      (upper : instanceId < start.handlers.length + constructions)
      (published : happened.tally .published = 1)

namespace Holding

variable
  {name : String}
  {start world : World}
  {constructions : Nat}
  {happened : Journal}

/-- There is a handle in the cache if and only if one was published. -/
theorem find?_eq_none_iff
    (holding : Holding name start constructions happened world)
    (unpublished : start.registry.cache.find? name = none) :
    world.registry.cache.find? name = none ↔ happened.tally .published = 0 := by
  cases holding with
  | nothing unchanged isZero =>
      rw [unchanged]
      exact iff_of_true unpublished isZero
  | handle instanceId inserted lower upper isOne =>
      rw [inserted, World.find?_insert, if_pos rfl, isOne]
      simp

/-- What ends no call leaves the cache as it is. -/
theorem silent
    (holding : Holding name start constructions happened world)
    (after : World)
    (same : after.registry = world.registry)
    (more : Journal)
    (reports : more.outcomes = [])
    (further : Nat) :
    Holding name start (constructions + further) (happened ++ more) after := by
  have untold := more.tally_of_silent reports
  cases holding with
  | nothing unchanged unpublished undiscarded unmet =>
      exact .nothing (same.trans unchanged) (by simp [unpublished, untold])
        (by simp [undiscarded, untold]) (by simp [unmet, untold])
  | handle instanceId inserted lower upper isOne =>
      exact .handle instanceId (same.trans inserted) lower (by omega)
        (by simp [isOne, untold])

/-- A handle that is met by others stays where it is. -/
theorem met
    (holding : Holding name start constructions happened world)
    (unpublished : start.registry.cache.find? name = none)
    {handle : Handle}
    (found : world.registry.cache.find? name = some handle)
    (event : Event)
    (reports : Journal.tally [.emitted event] .published = 0) :
    Holding name start constructions (happened ++ [.emitted event])
      (world.emit event) := by
  have isPublished : happened.tally .published ≠ 0 := by
    rw [Ne, ← holding.find?_eq_none_iff unpublished, found]
    nofun
  cases holding with
  | nothing _ isZero =>
      exact (isPublished isZero).elim
  | handle instanceId inserted lower upper isOne =>
      exact .handle instanceId inserted lower upper (by simp [isOne, reports])

/-- Where there is no handle yet, one of those that were built may be published. -/
theorem publish
    (holding : Holding name start constructions happened world)
    (unpublished : start.registry.cache.find? name = none)
    (missed : world.registry.cache.find? name = none)
    {instanceId : Nat}
    (lower : start.handlers.length ≤ instanceId)
    (upper : instanceId < start.handlers.length + constructions) :
    Holding name start constructions (happened ++ [.emitted (.published name)])
      ((world.insert name ⟨name, instanceId⟩).emit (.published name)) := by
  have isZero := (holding.find?_eq_none_iff unpublished).mp missed
  cases holding with
  | nothing unchanged _ _ _ =>
      refine .handle instanceId ?_ lower upper ?_
      · change (world.insert name ⟨name, instanceId⟩).registry = _
        rw [World.insert, World.insert, unchanged]
      · rw [Journal.tally_append, isZero]
        rfl
  | handle _ _ _ _ isOne =>
      rw [isOne] at isZero
      cases isZero

end Holding

/--
What callers for one name have done since they were about to begin: how many
names were looked up, how many handlers were built, and what was reported.
Whoever has been given a binding has looked the name up once, whoever has built
a handler has done so once, and whoever has ended has reported so.  There is a
handle once one of them has published, and hits and discarded handlers come
after that.
-/
structure Accounts
    (name : String)
    (start : World)
    (lookups constructions : Nat)
    (happened : Journal)
    (crowd : Crowd) : Prop where
  journal :
    crowd.world.journal = start.journal ++ happened
  named :
    ∀ caller ∈ crowd.callers, caller.name = name
  served :
    ∀ caller ∈ crowd.callers, caller.phase ≠ .done none
  fresh :
    ∀ caller ∈ crowd.callers,
      ∀ instanceId,
        caller.phase = .built instanceId →
        start.handlers.length ≤ instanceId ∧
          instanceId < start.handlers.length + constructions
  asked :
    crowd.world.directory.asked =
      start.directory.asked ++ List.replicate lookups name
  instantiated :
    happened.instantiated = List.replicate constructions (name, true)
  handlers :
    crowd.world.handlers.length = start.handlers.length + constructions
  found :
    lookups = crowd.standing .found + constructions
  built :
    constructions =
      crowd.standing .built + happened.tally .discarded + happened.tally .published
  ended :
    crowd.standing .done =
      happened.tally .hit + happened.tally .discarded + happened.tally .published
  holding :
    Holding name start constructions happened crowd.world

namespace Accounts

variable
  {name : String}
  {start : World}
  {lookups constructions : Nat}
  {crowd moved : Crowd}
  {happened : Journal}

/--
A caller that moves on keeps the balance if its step is balanced: what it has
looked up, built and reported is what tells its new stage from the old one.
-/
theorem advance
    (accounts : Accounts name start lookups constructions happened crowd)
    (moreLookups moreConstructions : Nat)
    {index : Nat}
    {phase next : Phase}
    (present : crowd.callers[index]? = some ⟨name, phase⟩)
    {world : World}
    {more : Journal}
    (journal : world.journal = crowd.world.journal ++ more)
    (served : next ≠ .done none)
    (fresh :
      ∀ instanceId,
        next = .built instanceId →
        instanceId = crowd.world.handlers.length ∧ moreConstructions = 1)
    (asked :
      world.directory.asked =
        crowd.world.directory.asked ++ List.replicate moreLookups name)
    (instantiated :
      more.instantiated = List.replicate moreConstructions (name, true))
    (handlers :
      world.handlers.length = crowd.world.handlers.length + moreConstructions)
    (found :
      moreLookups + (if phase.stage = .found then 1 else 0) =
        (if next.stage = .found then 1 else 0) + moreConstructions)
    (built :
      moreConstructions + (if phase.stage = .built then 1 else 0) =
        (if next.stage = .built then 1 else 0) +
          (more.tally .discarded + more.tally .published))
    (ended :
      (if next.stage = .done then 1 else 0) =
        (if phase.stage = .done then 1 else 0) +
          (more.tally .hit + more.tally .discarded + more.tally .published))
    (holding :
      Holding name start (constructions + moreConstructions)
        (happened ++ more) world) :
    Accounts name start (lookups + moreLookups) (constructions + moreConstructions)
      (happened ++ more) (crowd.advance index name next world) where
  journal := by
    rw [← List.append_assoc, ← accounts.journal]
    exact journal
  named := forall_mem_advance accounts.named rfl
  served := forall_mem_advance accounts.served served
  fresh := by
    refine forall_mem_advance ?_ ?_
    · intro caller member instanceId isBuilt
      obtain ⟨lower, upper⟩ := accounts.fresh caller member instanceId isBuilt
      exact ⟨lower, by omega⟩
    · intro instanceId isBuilt
      obtain ⟨rfl, isOne⟩ := fresh instanceId isBuilt
      rw [accounts.handlers]
      omega
  asked := by
    rw [← List.replicate_append_replicate, ← List.append_assoc, ← accounts.asked]
    exact asked
  instantiated := by
    rw [← List.replicate_append_replicate, ← accounts.instantiated, ← instantiated]
    exact List.filterMap_append
  handlers := by
    rw [← Nat.add_assoc, ← accounts.handlers]
    exact handlers
  found := by
    have moves := standing_advance present next world .found
    have before := accounts.found
    omega
  built := by
    have moves := standing_advance present next world .built
    have before := accounts.built
    simp only [Journal.tally_append]
    omega
  ended := by
    have moves := standing_advance present next world .done
    have before := accounts.ended
    simp only [Journal.tally_append]
    omega
  holding := holding

/-- What happens to the bindings meanwhile does not count. -/
theorem aside
    (accounts : Accounts name start lookups constructions happened crowd)
    (world : World)
    (registry : world.registry = crowd.world.registry)
    (asked : world.directory.asked = crowd.world.directory.asked)
    (handlers : world.handlers = crowd.world.handlers)
    {more : Journal}
    (journal : world.journal = crowd.world.journal ++ more)
    (reports : more.outcomes = [])
    (builds : more.instantiated = []) :
    Accounts name start lookups constructions (happened ++ more)
      { crowd with world := world } where
  journal := by
    rw [← List.append_assoc, ← accounts.journal]
    exact journal
  named := accounts.named
  served := accounts.served
  fresh := accounts.fresh
  asked := asked.trans accounts.asked
  instantiated := by
    rw [← accounts.instantiated, ← List.append_nil happened.instantiated, ← builds]
    exact List.filterMap_append
  handlers := (congrArg List.length handlers).trans accounts.handlers
  found := accounts.found
  built := by
    have untold := more.tally_of_silent reports
    rw [Journal.tally_append, Journal.tally_append, untold, untold]
    exact accounts.built
  ended := by
    have untold := more.tally_of_silent reports
    rw [Journal.tally_append, Journal.tally_append, Journal.tally_append, untold,
      untold, untold]
    exact accounts.ended
  holding := accounts.holding.silent world registry more reports 0

/-- One more move of a schedule, if it is fruitful, is accounted for. -/
theorem step
    (accounts : Accounts name start lookups constructions happened crowd)
    (unpublished : start.registry.cache.find? name = none)
    (isNamed : name ≠ "")
    {move : Move}
    (fruitful : move.IsFruitful)
    (step : crowd.Step move moved) :
    ∃ lookups constructions more,
      Accounts name start lookups constructions (happened ++ more) moved := by
  have nameOf {index : Nat} {other : String} {phase : Phase}
      (present : crowd.callers[index]? = some ⟨other, phase⟩) :
      other = name :=
    accounts.named _ (List.mem_of_getElem? present)
  have noneAsked := (List.append_nil crowd.world.directory.asked).symm
  have noneHappened := (List.append_nil crowd.world.journal).symm
  cases step with
  | @hit index other handle ready found =>
      cases nameOf ready
      exact ⟨_, _, _,
        accounts.advance 0 0 ready (World.journal_emit _ _) nofun nofun noneAsked
          rfl rfl rfl rfl rfl
          (accounts.holding.met unpublished found (.cacheHit name) rfl)⟩
  | nameless ready missed empty =>
      exact (isNamed ((nameOf ready).symm.trans empty)).elim
  | missed ready missed named =>
      cases nameOf ready
      exact ⟨_, _, _,
        accounts.advance 0 0 ready noneHappened nofun nofun noneAsked
          rfl rfl rfl rfl rfl
          (accounts.holding.silent _ rfl [] rfl 0)⟩
  | found missed =>
      cases nameOf missed
      exact ⟨_, _, _,
        accounts.advance 1 0 missed noneHappened nofun nofun rfl
          rfl rfl rfl rfl rfl
          (accounts.holding.silent (crowd.world.ask name) rfl [] rfl 0)⟩
  | unbound missed =>
      obtain ⟨binding, isBound⟩ := fruitful
      cases isBound
  | lookupFailed missed =>
      obtain ⟨binding, isBound⟩ := fruitful
      cases isBound
  | @built index other binding handler found =>
      cases nameOf found
      have isNext (instanceId : Nat)
          (isBuilt : Phase.built crowd.world.handlers.length = .built instanceId) :
          instanceId = crowd.world.handlers.length ∧ 1 = 1 :=
        ⟨(Phase.built.inj isBuilt).symm, rfl⟩
      have adopted :
          (crowd.world.settle name (.ok handler)).2.handlers.length =
            crowd.world.handlers.length + 1 :=
        List.length_append
      exact ⟨_, _, _,
        accounts.advance 0 1 found (World.settle_ok_journal _ _ _) nofun
          isNext noneAsked
          rfl adopted rfl rfl rfl
          (accounts.holding.silent _ (World.settle_registry _ _ _) _ rfl 1)⟩
  | constructionFailed found =>
      obtain ⟨handler, isBuilt⟩ := fruitful
      cases isBuilt
  | @published index other instanceId built missed =>
      cases nameOf built
      obtain ⟨lower, upper⟩ :=
        accounts.fresh _ (List.mem_of_getElem? built) instanceId rfl
      exact ⟨_, _, _,
        accounts.advance 0 0 built (World.journal_emit _ _) nofun nofun noneAsked
          rfl rfl rfl rfl rfl
          (accounts.holding.publish unpublished missed lower upper)⟩
  | discarded built present =>
      cases nameOf built
      exact ⟨_, _, _,
        accounts.advance 0 0 built (World.journal_emit _ _) nofun nofun noneAsked
          rfl rfl rfl rfl rfl
          (accounts.holding.met unpublished present (.duplicateDiscarded name) rfl)⟩
  | registered other descriptor =>
      have bound :=
        World.journal_emit crowd.world (.binding other descriptor.typeName)
      have recorded :=
        World.journal_record (crowd.world.emit (.binding other descriptor.typeName))
        (.registered other crowd.world.directory.registrations
          (crowd.world.directory.table.find? other))
      rw [bound, List.append_assoc] at recorded
      exact ⟨_, _, _,
        accounts.aside (crowd.world.register other descriptor).2 rfl rfl rfl
        recorded rfl rfl⟩
  | unregistered other =>
      exact ⟨_, _, _, accounts.aside (crowd.world.unregister other).2 rfl rfl rfl
        (World.journal_record _ _) rfl rfl⟩

/-- So are all moves of a schedule whose moves are. -/
theorem run
    (accounts : Accounts name start lookups constructions happened crowd)
    (unpublished : start.registry.cache.find? name = none)
    (isNamed : name ≠ "")
    {schedule : List Move}
    (fruitful : ∀ move ∈ schedule, move.IsFruitful)
    {final : Crowd}
    (ran : crowd.run? schedule = some final) :
    ∃ lookups constructions happened,
      Accounts name start lookups constructions happened final := by
  induction schedule generalizing crowd lookups constructions happened with
  | nil =>
      cases ran
      exact ⟨_, _, _, accounts⟩
  | cons move rest inductionHypothesis =>
      obtain ⟨moved, accepted, finished⟩ := run?_cons_eq_some_iff.mp ran
      obtain ⟨isFruitful, restFruitful⟩ := List.forall_mem_cons.mp fruitful
      obtain ⟨_, _, _, movedAccounts⟩ :=
        accounts.step unpublished isNamed isFruitful (.of_move? accepted)
      exact inductionHypothesis movedAccounts restFruitful finished

/-- Callers that are about to begin have nothing to account for. -/
theorem ofStart
    (name : String)
    (start : World)
    (callers : Nat) :
    Accounts name start 0 0 [] (Crowd.start start name callers) where
  journal := (List.append_nil _).symm
  named := by
    intro caller member
    rw [List.eq_of_mem_replicate member]
  served := by
    intro caller member
    rw [List.eq_of_mem_replicate member]
    nofun
  fresh := by
    intro caller member
    rw [List.eq_of_mem_replicate member]
    nofun
  asked := (List.append_nil _).symm
  instantiated := rfl
  handlers := rfl
  found := by
    simp [standing, Crowd.start, List.countP_replicate, Phase.stage]
  built := by
    simp [standing, Crowd.start, List.countP_replicate, Phase.stage, Journal.tally,
      Journal.outcomes]
  ended := by
    simp [standing, Crowd.start, List.countP_replicate, Phase.stage, Journal.tally,
      Journal.outcomes]
  holding := .nothing rfl rfl rfl rfl

/--
When all calls have ended, whoever has looked the name up has built a handler
and then has published it or dropped it, and all others have met one.
-/
theorem of_ended
    (accounts : Accounts name start lookups constructions happened crowd)
    (ended : ∀ caller ∈ crowd.callers, ∃ handle, caller.phase = .done handle)
    (nonempty : 0 < crowd.callers.length) :
    lookups = constructions ∧
      happened.tally .published = 1 ∧
      constructions = happened.tally .discarded + 1 ∧
      crowd.callers.length = happened.tally .hit + constructions ∧
      ∃ instanceId,
        crowd.world.registry = (start.insert name ⟨name, instanceId⟩).registry ∧
          start.handlers.length ≤ instanceId ∧
          instanceId < crowd.world.handlers.length := by
  have allDone : crowd.standing .done = crowd.callers.length := by
    refine List.countP_eq_length.mpr fun caller member => ?_
    obtain ⟨handle, isDone⟩ := ended caller member
    simp [isDone, Phase.stage]
  have noneElsewhere (stage : Stage) (elsewhere : stage ≠ .done) :
      crowd.standing stage = 0 := by
    refine List.countP_eq_zero.mpr fun caller member => ?_
    obtain ⟨handle, isDone⟩ := ended caller member
    simpa [isDone, Phase.stage] using elsewhere.symm
  have found := accounts.found
  have built := accounts.built
  have done := accounts.ended
  rw [noneElsewhere .found nofun] at found
  rw [noneElsewhere .built nofun] at built
  rw [allDone] at done
  cases accounts.holding with
  | nothing _ unpublished undiscarded unmet =>
      omega
  | handle instanceId inserted lower upper isOne =>
      rw [← accounts.handlers] at upper
      exact ⟨by omega, isOne, by omega, by omega, instanceId, inserted, lower, upper⟩

end Accounts

/-- No caller is lost or added. -/
theorem length_of_run
    {crowd final : Crowd}
    {schedule : List Move}
    (ran : crowd.run? schedule = some final) :
    final.callers.length = crowd.callers.length := by
  have sameNames :
      final.callers.map Caller.name = crowd.callers.map Caller.name := by
    refine List.ext_getElem? fun index => ?_
    rw [List.getElem?_map, List.getElem?_map]
    exact name_of_run ran index
  simpa using congrArg List.length sameNames

theorem agrees_start
    (world : World)
    (name : String)
    (callers : Nat) :
    (start world name callers).Agrees where
  cached := by
    intro index other handle present
    cases List.eq_of_mem_replicate (List.mem_of_getElem? present)

/--
However the steps of callers for one name are interleaved that nothing is
published under yet, and whatever happens to the bindings between them: if the
name is bound whenever one of them looks it up, and every construction gives a
handler, then among the callers there are contenders, at least one, and the
others.  Each contender makes one lookup and one construction; one of them
publishes what it has built, and the rest drop theirs.  The others meet the
published handle in the cache, and it is what all of them return.
-/
theorem race_accounted
    {name : String}
    (isNamed : name ≠ "")
    {world : World}
    (unpublished : world.registry.cache.find? name = none)
    {callers : Nat}
    (nonempty : 1 ≤ callers)
    {schedule : List Move}
    (fruitful : ∀ move ∈ schedule, move.IsFruitful)
    {final : Crowd}
    (ran : (start world name callers).run? schedule = some final)
    (ended : ∀ caller ∈ final.callers, ∃ handle, caller.phase = .done handle) :
    ∃ (contenders : Nat) (handle : Handle) (happened : Journal),
      1 ≤ contenders ∧
      contenders ≤ callers ∧
      final.world.journal = world.journal ++ happened ∧
      final.world.directory.asked =
        world.directory.asked ++ List.replicate contenders name ∧
      happened.instantiated = List.replicate contenders (name, true) ∧
      final.world.handlers.length = world.handlers.length + contenders ∧
      happened.tally .published = 1 ∧
      happened.tally .discarded = contenders - 1 ∧
      happened.tally .hit = callers - contenders ∧
      final.world.registry = (world.insert name handle).registry ∧
      world.handlers.length ≤ handle.instanceId ∧
      handle.instanceId < final.world.handlers.length ∧
      (final.answers true).map (Resolution.required name) =
        List.replicate callers (.ok handle) := by
  obtain ⟨lookups, constructions, happened, accounts⟩ :=
    (Accounts.ofStart name world callers).run unpublished isNamed fruitful ran
  have length : final.callers.length = callers := by
    rw [length_of_run ran, start, List.length_replicate]
  obtain ⟨rfl, published, built, met, instanceId, inserted, lower, upper⟩ :=
    accounts.of_ended ended (by omega)
  -- Everyone has ended with a handle, and with the one in the cache.
  have returned :
      final.callers =
        List.replicate callers ⟨name, .done (some ⟨name, instanceId⟩)⟩ := by
    refine List.eq_replicate_iff.mpr ⟨length, fun caller member => ?_⟩
    obtain ⟨index, present⟩ := List.mem_iff_getElem?.mp member
    obtain ⟨outcome, isDone⟩ := ended caller member
    have isName := accounts.named caller member
    have served := accounts.served caller member
    obtain ⟨other, phase⟩ := caller
    change other = name at isName
    subst isName
    cases isDone
    cases outcome with
    | none =>
        exact (served rfl).elim
    | some handle =>
        have cached := ((agrees_start world other callers).run ran).cached present
        rw [inserted, World.find?_insert, if_pos rfl] at cached
        rw [← Option.some.inj cached]
  refine ⟨lookups, ⟨name, instanceId⟩, happened, by omega, by omega,
    accounts.journal,
    accounts.asked, accounts.instantiated, accounts.handlers, published, by omega,
    by omega, inserted, lower, upper, ?_⟩
  rw [answers, returned]
  simp [Resolution.ofHandle?, Resolution.required]

/--
Two of three callers race, and the third one comes when the second has published.
-/
def photoFinish : List Move :=
  [.check 0, .check 1, .hear 0 (.bound ⟨0, .plain "Null" .null⟩),
    .hear 1 (.bound ⟨0, .plain "Null" .null⟩), .settle 1 (.ok .null),
    .register "tape" (.plain "Echo" .echo), .publish 1, .check 2,
    .settle 0 (.ok .null), .publish 0]

/--
Two contend, one of them drops what it has built, and all three get what the other
one has.
-/
theorem photoFinish_accounted :
    ∃ final happened,
      (start (World.create .default) "mem" 3).run? photoFinish = some final ∧
        final.world.journal = (World.create .default).journal ++ happened ∧
        final.world.directory.asked = ["mem", "mem"] ∧
        happened.instantiated = [("mem", true), ("mem", true)] ∧
        happened.tally .published = 1 ∧
        happened.tally .discarded = 1 ∧
        happened.tally .hit = 1 ∧
        (final.answers true).map (Resolution.required "mem") =
          [.ok ⟨"mem", 0⟩, .ok ⟨"mem", 0⟩, .ok ⟨"mem", 0⟩] := by
  obtain ⟨final, ran, callers, adopted⟩ :
      ∃ final,
        (start (World.create .default) "mem" 3).run? photoFinish = some final ∧
          final.callers = List.replicate 3 ⟨"mem", .done (some ⟨"mem", 0⟩)⟩ ∧
          final.world.handlers.length = 2 :=
    ⟨_, rfl, rfl, rfl⟩
  have fruitful : ∀ move ∈ photoFinish, move.IsFruitful := by
    simp [photoFinish, Move.IsFruitful]
  have ended : ∀ caller ∈ final.callers, ∃ handle, caller.phase = .done handle := by
    rw [callers]
    intro caller member
    exact ⟨_, congrArg Caller.phase (List.eq_of_mem_replicate member)⟩
  obtain ⟨contenders, handle, happened, _, _, journal, asked, instantiated, handlers,
    published, discarded, met, _⟩ :=
    race_accounted (by decide) rfl (by decide) fruitful ran ended
  have isTwo : contenders = 2 := by
    rw [adopted] at handlers
    exact (Nat.zero_add contenders).symm.trans handlers.symm
  subst isTwo
  refine ⟨final, happened, ran, journal, asked, instantiated, published, discarded,
    met, ?_⟩
  rw [answers, callers]
  rfl

end Crowd

end Dispatch
