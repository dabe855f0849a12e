import Mathlib
import Dispatch.Proofs.CacheIntegrity
import Dispatch.Proofs.ComposedNames
import Dispatch.Proofs.PublishedNames

namespace Dispatch

/-!
# The state of a handler

A handler that counts its requests answers one, two, three and so on, whichever
way they reach it and whatever else happens in between: there is one instance of
it, every request to it is answered at once, and nothing but a request makes it
go on.

`World.Tallies` is the invariant, kept by every step; `World.Leads.counted` is
the induction along the handlers through which a request is forwarded.
-/

/-! ## Answers of a handler -/

/-- The answers that a handler gave. -/
def Journal.answersOf
    (instanceId : Nat)
    (journal : Journal) : List (Except Failure Value) :=
  journal.filterMap fun
    | .served other outcome => if other = instanceId then some outcome else none
    | _ => none

/-- One, two, three and so on, as answers. -/
def counts
    (number : Nat) : List (Except Failure Value) :=
  (List.range number).map fun index => .ok (.integer (index + 1 : Nat))

@[simp] theorem length_counts
    (number : Nat) :
    (counts number).length = number := by
  simp [counts]

theorem counts_succ
    (number : Nat) :
    counts (number + 1) = counts number ++ [.ok (.integer (number + 1 : Nat))] := by
  simp [counts, List.range_succ]

namespace World

/-- The answers that a handler gave so far. -/
def answersOf
    (world : World)
    (instanceId : Nat) : List (Except Failure Value) :=
  Journal.answersOf instanceId world.journal

theorem answersOf_record
    (world : World)
    (entry : Entry)
    (instanceId : Nat) :
    (world.record entry).answersOf instanceId =
      world.answersOf instanceId ++ Journal.answersOf instanceId [entry] := by
  rw [answersOf, answersOf, journal_record]
  exact List.filterMap_append

/--
If a handler with a number counts, it has answered every request, in turn.  A
number without a handler has been given no request.
-/
structure Tallies
    (instanceId : Nat)
    (world : World) : Prop where
  answers :
    world.handlers[instanceId]? = some .tally →
    world.answersOf instanceId = counts (world.requestsTo instanceId).length
  idle :
    world.handlers.length ≤ instanceId →
    world.requestsTo instanceId = [] ∧ world.answersOf instanceId = []

namespace Tallies

variable
  {instanceId : Nat}
  {world : World}

/-- In a fresh world nothing has been asked or answered. -/
theorem create
    (settings : Settings)
    (instanceId : Nat) :
    (World.create settings).Tallies instanceId where
  answers := by
    intro present
    cases present
  idle _ := ⟨rfl, rfl⟩

/-- What is entered about others does not make a handler go on. -/
theorem record
    (tallies : world.Tallies instanceId)
    {entry : Entry}
    (noRequest : Journal.requestsTo instanceId [entry] = [])
    (noAnswer : Journal.answersOf instanceId [entry] = []) :
    (world.record entry).Tallies instanceId where
  answers := by
    rw [requestsTo_record, answersOf_record, noRequest, noAnswer, List.append_nil,
      List.append_nil]
    exact tallies.answers
  idle := by
    rw [requestsTo_record, answersOf_record, noRequest, noAnswer, List.append_nil,
      List.append_nil]
    exact tallies.idle

/-- A new handler begins from nothing. -/
theorem adopt
    (tallies : world.Tallies instanceId)
    (handler : Handler) :
    (world.adopt handler).2.Tallies instanceId where
  answers := by
    intro present
    change (world.handlers ++ [handler])[instanceId]? = _ at present
    by_cases known : instanceId < world.handlers.length
    · rw [List.getElem?_append_left known] at present
      exact tallies.answers present
    · obtain ⟨noRequests, noAnswers⟩ := tallies.idle (Nat.le_of_not_lt known)
      change world.answersOf instanceId = counts (world.requestsTo instanceId).length
      rw [noRequests, noAnswers]
      rfl
  idle := by
    intro absent
    change (world.handlers ++ [handler]).length ≤ instanceId at absent
    rw [List.length_append] at absent
    exact tallies.idle (Nat.le_trans (Nat.le_add_right _ _) absent)

/-- The outcome of a construction leaves counts as they are. -/
theorem settle
    (tallies : world.Tallies instanceId)
    (name : String)
    (outcome : Except ConstructionFailure Handler) :
    (world.settle name outcome).2.Tallies instanceId := by
  cases outcome with
  | error failure =>
      exact (tallies.record rfl rfl).record rfl rfl
  | ok handler =>
      exact (tallies.record rfl rfl).adopt handler

/-- A counting handler answers a request with the next number. -/
theorem counted
    (tallies : world.Tallies instanceId)
    (present : world.handlers[instanceId]? = some .tally)
    (request : Request) :
    ((world.record (.serving instanceId request)).record
      (.served instanceId
        (.ok (.integer ((world.requestsTo instanceId).length + 1 : Nat))))).Tallies
      instanceId where
  answers := by
    intro _
    rw [answersOf_record, answersOf_record, tallies.answers present,
      requestsTo_record, requestsTo_record]
    simp [Journal.answersOf, Journal.requestsTo, counts_succ]
  idle := by
    intro absent
    have known : instanceId < world.handlers.length :=
      (List.getElem?_eq_some_iff.mp present).1
    exact absurd known (Nat.not_lt.mpr absent)

end Tallies

/-! ## Every step keeps counts -/

/-- Worlds that follow one another, with counts kept. -/
structure Reckons
    (instanceId : Nat)
    (before after : World) : Prop where
  grows :
    before.Grows after
  tallies :
    before.Tallies instanceId → after.Tallies instanceId

namespace Reckons

variable {instanceId : Nat}

protected theorem refl
    (world : World) :
    world.Reckons instanceId world :=
  ⟨.refl world, id⟩

protected theorem trans
    {first second third : World}
    (earlier : first.Reckons instanceId second)
    (later : second.Reckons instanceId third) :
    first.Reckons instanceId third :=
  ⟨earlier.grows.trans later.grows, later.tallies ∘ earlier.tallies⟩

theorem record
    (world : World)
    {entry : Entry}
    (noRequest : Journal.requestsTo instanceId [entry] = [])
    (noAnswer : Journal.answersOf instanceId [entry] = []) :
    world.Reckons instanceId (world.record entry) :=
  ⟨.record world entry, fun tallies => tallies.record noRequest noAnswer⟩

/-- No single step but a request makes a handler go on. -/
theorem gradual
    (instanceId : Nat) :
    Gradual (World.Reckons instanceId) where
  refl := .refl
  trans _ _ _ := .trans
  recorded world entry aside := by
    cases entry with
    | serving other request => cases aside
    | served other outcome => cases aside
    | _ => exact record world rfl rfl
  redirected world directory :=
    ⟨.ofDirectory world directory, fun tallies => ⟨tallies.answers, tallies.idle⟩⟩
  settled world name outcome :=
    ⟨.settle world name outcome, fun tallies => tallies.settle name outcome⟩
  published unpublished handler :=
    ⟨Grows.gradual.published unpublished handler, fun tallies =>
      ⟨(tallies.settle _ (.ok handler)).answers,
        (tallies.settle _ (.ok handler)).idle⟩⟩

/--
A request to another handler makes a handler go on only if the work on it does.
-/
theorem serve_other
    {other : Nat}
    (different : other ≠ instanceId)
    {request : Request}
    {outcome : Except Failure Value}
    {world ended : World}
    (work : (world.record (.serving other request)).Reckons instanceId ended) :
    world.Reckons instanceId (ended.record (.served other outcome)) := by
  refine ((record world ?_ rfl).trans work).trans (record ended rfl ?_)
  · simp [Journal.requestsTo, different]
  · simp [Journal.answersOf, different]

/--
Requests keep counts: one that a handler counts is answered before anything else
happens.
-/
theorem serveWith
    {calls : Calls}
    (kept : calls.Keep (World.Reckons instanceId))
    (other : Nat)
    (request : Request) :
    (Dispatch.serveWith calls other request).Keeps (World.Reckons instanceId) := by
  intro world outcome after finished
  cases serveWith_eq_some_iff.mp finished with
  | nobody absent =>
      exact .refl world
  | @answered ended handler _ present ran =>
      have work := (gradual instanceId).firm.script kept _ ran
      by_cases same : other = instanceId
      · subst same
        refine ⟨(Grows.record _ _).trans (work.grows.trans (.record _ _)),
          fun tallies => ?_⟩
        have presentStill : ended.handlers[other]? = some handler :=
          work.grows.present present
        by_cases counting : handler = .tally
        · subst counting
          cases ran
          exact tallies.counted present request
        · exact
            { answers := fun isTally =>
                absurd (Option.some.inj (presentStill.symm.trans isTally)) counting
              idle := fun absent =>
                absurd (List.getElem?_eq_some_iff.mp presentStill).1
                  (Nat.not_lt.mpr absent) }
      · exact serve_other same work

/-- Calls that nest to any depth keep counts. -/
theorem nested
    (instanceId : Nat)
    (resolver : Resolver)
    (depth : Nat) :
    (Calls.nested resolver depth).Keep (World.Reckons instanceId) :=
  (gradual instanceId).firm.nested serveWith resolver depth

end Reckons

/-! ## Ways to a handler -/

/--
A request to the handler with a number comes to a target: that is the handler
itself, or the handler forwards to one from which the request comes there.
-/
inductive Leads
    (world : World)
    (target : Nat) : Nat → Prop
  | arrived :
      Leads world target target
  | forwarded
      {instanceId : Nat}
      {inner : Handle}
      (forwards : world.handlers[instanceId]? = some (.forwarding inner))
      (onward : Leads world target inner.instanceId) :
      Leads world target instanceId

/-- A handler that counts does not forward. -/
theorem tally_ne_forwarding
    (inner : Handle) :
    Handler.tally ≠ .forwarding inner := by
  intro same
  have responses :=
    congrArg (fun handler => handler.respond [] ⟨⟨none, ""⟩, none⟩) same
  cases responses

section

variable
  {calls : Calls}
  {instanceId : Nat}
  {request : Request}
  {world after : World}
  {outcome : Except Failure Value}

/-- A handler that is there after a request to it has been there before. -/
theorem present_of_served
    (served : Served calls instanceId request world outcome after)
    (grows : world.Grows after)
    {handler : Handler}
    (present : after.handlers[instanceId]? = some handler) :
    world.handlers[instanceId]? = some handler := by
  cases served with
  | nobody absent =>
      exact present
  | answered known ran =>
      rw [known]
      exact (grows.present known).symm.trans present

/-- A handler that counts answers at once. -/
theorem served_tally
    (present : world.handlers[instanceId]? = some .tally)
    (served : Served calls instanceId request world outcome after) :
    outcome = .ok (.integer ((world.requestsTo instanceId).length + 1 : Nat)) ∧
      after =
        (world.record (.serving instanceId request)).record
          (.served instanceId outcome) := by
  cases served with
  | nobody absent =>
      cases present.symm.trans absent
  | @answered ended handler _ known ran =>
      obtain rfl : handler = .tally := Option.some.inj (known.symm.trans present)
      cases ran
      exact ⟨rfl, rfl⟩

/-- A handler that forwards answers what it is answered, and does nothing else. -/
theorem served_forwarding
    {inner : Handle}
    (present : world.handlers[instanceId]? = some (.forwarding inner))
    (served : Served calls instanceId request world outcome after) :
    ∃ ended,
      calls.serve inner.instanceId request
          (world.record (.serving instanceId request)) =
        some (outcome, ended) ∧
      after = ended.record (.served instanceId outcome) := by
  cases served with
  | nobody absent =>
      cases present.symm.trans absent
  | @answered ended handler _ known ran =>
      obtain rfl : handler = .forwarding inner :=
        Option.some.inj (known.symm.trans present)
      obtain ⟨answer, middle, passed, concluded⟩ := Run.bind_eq_some_iff.mp ran
      cases answer with
      | ok value =>
          cases concluded
          exact ⟨_, passed, rfl⟩
      | error failure =>
          cases concluded
          exact ⟨_, passed, rfl⟩

end

/-- However a request comes to a counting handler, its answer is the next number. -/
theorem Leads.counted
    {final : World}
    {target instanceId : Nat}
    (leads : final.Leads target instanceId)
    (counting : final.handlers[target]? = some .tally)
    {resolver : Resolver}
    {depth : Nat}
    {request : Request}
    {world after : World}
    {outcome : Except Failure Value}
    (finished :
      (Calls.nested resolver depth).serve instanceId request world =
        some (outcome, after))
    (isFinal : after.handlers = final.handlers)
    (tallies : world.Tallies target) :
    outcome = .ok (.integer (after.answersOf target).length) ∧
      (after.answersOf target).length = (world.answersOf target).length + 1 := by
  induction leads generalizing depth world after outcome with
  | arrived =>
      cases depth with
      | zero =>
          cases finished
      | succ depth =>
          have grows :=
            ((Reckons.nested target resolver (depth + 1)).serve target request
              finished).grows
          have served := serveWith_eq_some_iff.mp finished
          have present := present_of_served served grows (isFinal ▸ counting)
          obtain ⟨isNext, rfl⟩ := served_tally present served
          have answered := congrArg List.length (tallies.answers present)
          rw [length_counts] at answered
          have counted :
              (((world.record (.serving target request)).record
                (.served target outcome)).answersOf target).length =
              (world.answersOf target).length + 1 := by
            simp [answersOf_record, Journal.answersOf]
          refine ⟨?_, counted⟩
          rw [counted, answered]
          exact isNext
  | @forwarded instanceId inner forwards onward inductionHypothesis =>
      cases depth with
      | zero =>
          cases finished
      | succ depth =>
          have grows :=
            ((Reckons.nested target resolver (depth + 1)).serve _ request
              finished).grows
          have served := serveWith_eq_some_iff.mp finished
          have present := present_of_served served grows (isFinal ▸ forwards)
          obtain ⟨ended, passed, rfl⟩ := served_forwarding present served
          have different : instanceId ≠ target := by
            intro same
            subst same
            exact tally_ne_forwarding inner
              (Option.some.inj (counting.symm.trans forwards))
          have noRequest :
              Journal.requestsTo target [.serving instanceId request] = [] := by
            simp [Journal.requestsTo, different]
          have noAnswer :
              Journal.answersOf target [.served instanceId outcome] = [] := by
            simp [Journal.answersOf, different]
          have counted :=
            inductionHypothesis passed isFinal (tallies.record noRequest rfl)
          rw [answersOf_record, Journal.answersOf, List.filterMap_cons_none rfl,
            List.filterMap_nil, List.append_nil] at counted
          rw [answersOf_record, noAnswer, List.append_nil]
          exact counted

/-- Answers are never taken back. -/
theorem Grows.answersOf
    {before after : World}
    (grows : before.Grows after)
    (instanceId : Nat) :
    before.answersOf instanceId <+: after.answersOf instanceId :=
  grows.journal.filterMap _

end World

/-! ## Operations -/

/--
The handle whose handler an operation gives a request to, as a registry stands.
-/
def Operation.addressee?
    (registry : Registry) : Operation → Option Handle
  | serve handle _ => some handle
  | get locator _ => locator.scheme.bind registry.cache.find?
  | _ => none

/-- The value that an answer gives, if it gives one. -/
def Answer.value? : Answer → Option Value
  | value (.ok given) => some given
  | served (.ok given) => some given
  | _ => none

/--
An operation has come to a counting handler: it answers the latest number.  That
is the next one, unless the way to the handler was only built in its course, by
constructors that may have sent requests of their own.
-/
structure Operation.Counts
    (operation : Operation)
    (target : Nat)
    (before : World)
    (answer : Answer)
    (after : World) : Prop where
  latest :
    answer.value? = some (.integer (after.answersOf target).length)
  further :
    (before.answersOf target).length < (after.answersOf target).length
  next :
    operation.addressee? before.registry ≠ none →
    (after.answersOf target).length = (before.answersOf target).length + 1

namespace Operation

variable
  {target : Nat}
  {resolver : Resolver}
  {depth : Nat}
  {before after : World}
  {answer : Answer}

/-- A request to a handle from which it comes to a counting handler is counted. -/
theorem counts_serve
    {handle : Handle}
    {request : Request}
    (tallies : before.Tallies target)
    (counting : after.handlers[target]? = some .tally)
    (leads : after.Leads target handle.instanceId)
    (performed :
      (serve handle request).perform (Calls.nested resolver depth) before =
        some (answer, after)) :
    (serve handle request).Counts target before answer after := by
  obtain ⟨outcome, finished, rfl⟩ := Run.map_eq_some_iff.mp performed
  obtain ⟨isLatest, counted⟩ := leads.counted counting finished rfl tallies
  exact
    { latest := by
        rw [isLatest]
        rfl
      further := by
        rw [counted]
        exact Nat.lt_succ_self _
      next := fun _ => counted }

/--
A locator whose scheme has a handle from which requests come to a counting
handler is counted, unless the scheme could not be resolved, as it had no handle.
-/
theorem counts_get
    {locator : Locator}
    {base : Option Value}
    {scheme : String}
    {handle : Handle}
    (hasScheme : locator.scheme = some scheme)
    (tallies : before.Tallies target)
    (counting : after.handlers[target]? = some .tally)
    (cached : after.registry.cache.find? scheme = some handle)
    (leads : after.Leads target handle.instanceId)
    (performed :
      (get locator base).perform (Calls.nested resolver depth) before =
        some (answer, after)) :
    (get locator base).Counts target before answer after ∨
      before.registry.cache.find? scheme = none ∧ answer.Unresolved scheme := by
  have resolves : (get locator base).resolves? = some scheme := hasScheme
  cases depth with
  | zero =>
      rw [perform_nested_zero resolves] at performed
      cases performed
  | succ depth =>
      obtain ⟨found, ended, resolved, concluded⟩ :=
        (perform_nested_eq_some_iff resolves).mp performed
      cases found with
      | none =>
          cases concluded
          exact .inr ⟨resolved.missed, .value⟩
      | some found =>
          have finished := resolved.nested_eq true
          have reckons :=
            (World.Reckons.nested target resolver (depth + 1)).resolve scheme
              true finished
          obtain ⟨outcome, served, passed, answered⟩ :=
            Run.bind_eq_some_iff.mp concluded
          cases answered
          have grows :=
            ((World.Reckons.nested target resolver (depth + 1)).serve _ _
              passed).grows
          obtain rfl : found = handle :=
            Option.some.inj ((grows.cached resolved.holds).symm.trans cached)
          obtain ⟨isLatest, counted⟩ :=
            leads.counted counting passed rfl (reckons.tallies tallies)
          have fewer := (reckons.grows.answersOf target).length_le
          refine .inl
            { latest := by
                rw [isLatest]
                rfl
              further := by omega
              next := ?_ }
          -- A scheme with a handle is answered from the cache, without any request.
          intro addressed
          cases known : before.registry.cache.find? scheme with
          | none =>
              refine absurd ?_ addressed
              simp [addressee?, hasScheme, known]
          | some present =>
              have hit :=
                resolveWith_of_cached known resolver
                  (Calls.nested resolver depth) true
              have isHit :
                  ended.record (.returned scheme (some found)) =
                    ((before.record (.called scheme)).emit (.cacheHit scheme)).record
                      (.returned scheme (some present)) :=
                congrArg Prod.snd (Option.some.inj (finished.symm.trans hit))
              rw [counted, isHit]
              simp [World.answersOf_record, World.emit, Journal.answersOf]

/--
Any operation that comes to a counting handler is counted, unless it could not be
resolved.
-/
theorem counts
    {operation : Operation}
    {handle : Handle}
    (tallies : before.Tallies target)
    (counting : after.handlers[target]? = some .tally)
    (addressed : operation.addressee? after.registry = some handle)
    (leads : after.Leads target handle.instanceId)
    (performed :
      operation.perform (Calls.nested resolver depth) before =
        some (answer, after)) :
    operation.Counts target before answer after ∨
      operation.addressee? before.registry = none ∧
        ∃ scheme, operation.resolves? = some scheme ∧ answer.Unresolved scheme := by
  cases operation with
  | serve other request =>
      cases addressed
      exact .inl (counts_serve tallies counting leads performed)
  | get locator base =>
      obtain ⟨scheme, hasScheme, cached⟩ := Option.bind_eq_some_iff.mp addressed
      rcases counts_get hasScheme tallies counting cached leads performed with
        counts | ⟨unpublished, unresolved⟩
      · exact .inl counts
      · refine .inr ⟨?_, scheme, hasScheme, unresolved⟩
        simp [addressee?, hasScheme, unpublished]
  | _ =>
      cases addressed

end Operation

/-! ## One instance for a whole history -/

/--
A resolve call, at whatever depth of a run, that publishes a handle for its name;
when it looks the name up, that is bound to a descriptor.
-/
structure Publishes
    (resolver : Resolver)
    (name : String)
    (descriptor : Descriptor)
    (handle : Handle)
    (before after : World) : Prop where
  unpublished :
    before.registry.cache.find? name = none
  bound :
    ∃ serial, resolver before.directory name = .bound ⟨serial, descriptor⟩
  resolved :
    ∃ depth strict,
      (Calls.nested resolver depth).resolve name strict before =
        some (.ok (some handle), after)
  published :
    ∃ happened,
      after.journal =
        happened ++ [.emitted (.published name), .returned name (some handle)]

/-- What is published is what the descriptor has built. -/
theorem Publishes.built
    {resolver : Resolver}
    {name : String}
    {descriptor : Descriptor}
    {handle : Handle}
    {before after : World}
    (publishes : Publishes resolver name descriptor handle before after) :
    ∃ depth serial handler built,
      Constructed (Calls.nested resolver depth).runs ⟨serial, descriptor⟩
          ((before.record (.called name)).ask name) (.ok handler) built ∧
        built.Grows after ∧
        after.registry.cache.find? name = some handle ∧
        after.handlers[handle.instanceId]? = some handler := by
  obtain ⟨serial, bound⟩ := publishes.bound
  obtain ⟨depth, strict, finished⟩ := publishes.resolved
  obtain ⟨happened, published⟩ := publishes.published
  cases depth with
  | zero =>
      cases finished
  | succ depth =>
      obtain ⟨found, ended, resolved, isFound, rfl⟩ :=
        resolveWith_eq_some_iff.mp finished
      obtain rfl : found = some handle := by
        cases found with
        | none => cases strict <;> cases isFound
        | some found =>
            cases isFound
            rfl
      cases resolved with
      | cached found =>
          cases publishes.unpublished.symm.trans found
      | @published built _ handler missed named answered construction
          unpublishedYet =>
          cases bound.symm.trans answered
          refine ⟨depth, serial, handler, built,
            Calls.builds_iff.mp construction, ?_,
            (World.find?_insert _ name _ _).trans (if_pos rfl),
            List.getElem?_concat_length⟩
          have unpublished :
              (built.settle name (.ok handler)).2.registry.cache.find? name =
                  none := by
            rwa [World.settle_registry]
          exact (((World.Grows.settle _ _ _).trans (.insert unpublished _)).trans
            (.record _ _)).trans (.record _ _)
      | discarded missed named answered construction present =>
          -- The last report of the call would be that the handler was dropped.
          rw [World.journal_record, World.journal_emit,
            List.append_assoc] at published
          cases (List.append_inj' published rfl).2

/--
A constructor that forwards to a name builds a handler that forwards to its handle.
-/
theorem Script.Forwards.built
    {name : String}
    {script : Script .construct}
    (forwards : script.Forwards name)
    {resolver : Resolver}
    {depth : Nat}
    {before after : World}
    {handler : Handler}
    (ran :
      script.run (Calls.nested resolver depth) before = some (.ok handler, after)) :
    ∃ handle,
      after.registry.cache.find? name = some handle ∧
          handler = .forwarding handle := by
  cases forwards with
  | @resolve strict next builds fails =>
      obtain ⟨answer, middle, finished, concluded⟩ := Run.bind_eq_some_iff.mp ran
      cases depth with
      | zero =>
          cases finished
      | succ depth =>
          obtain ⟨handle, ended, resolved, rfl, rfl⟩ :=
            resolveWith_eq_some_iff.mp finished
          cases handle with
          | some handle =>
              change (next (.ok (some handle))).run _ _ = _ at concluded
              rw [builds] at concluded
              cases concluded
              exact ⟨handle, resolved.holds, rfl⟩
          | none =>
              obtain ⟨failure, isFailure⟩ :=
                fails (.ofHandle? name strict none) (by cases strict <;> rfl)
              rw [isFailure] at concluded
              cases concluded

/--
So what is published for a name whose type forwards to another one forwards to its
handle.
-/
theorem Publishes.forwarding
    {resolver : Resolver}
    {name inner : String}
    {descriptor : Descriptor}
    (forwards : descriptor.Forwards inner)
    {handle : Handle}
    {before after : World}
    (publishes : Publishes resolver name descriptor handle before after) :
    ∃ passed,
      after.registry.cache.find? inner = some passed ∧
        after.handlers[handle.instanceId]? = some (.forwarding passed) := by
  obtain ⟨typeName, make, rfl, forwards⟩ := forwards
  obtain ⟨depth, serial, handler, built, constructed, grows, -, adopted⟩ :=
    publishes.built
  obtain ⟨outcome, isHandler, ran⟩ := constructed.of_factory rfl
  cases outcome with
  | error failure =>
      cases isHandler
  | ok handler =>
      cases isHandler
      obtain ⟨passed, isPassed, rfl⟩ := (forwards _).built ran
      exact ⟨passed, grows.cached isPassed, adopted⟩

/--
A name is bound to a type that counts its requests when it is published, be it by
a constructor in the midst of a run.  Then throughout a history it keeps the
handle, and every request that was ever given to the handler has been answered,
with one, two, three and so on.  That handle is what every resolve call for the
name has obtained, and what is published for names that forward to the name
forwards to it.  An operation that comes to the handler, be it with a kept
handle, by a locator or through handlers that forward, answers the number that
the handler has then reached.
-/
theorem tally_unbroken
    (resolver : Resolver)
    (settings : Settings)
    (depth : Nat)
    (history : List Operation)
    {answers : List Answer}
    {world : World}
    (performed :
      Operation.performAll (Calls.nested resolver depth) history
          (World.create settings) =
        some (answers, world))
    {name typeName : String}
    {handle : Handle}
    {start published : World}
    (first : Publishes resolver name (.plain typeName .tally) handle start published)
    (goesOn : published.Grows world) :
    world.registry.cache.find? name = some handle ∧
    world.answersOf handle.instanceId =
      counts (world.requestsTo handle.instanceId).length ∧
    (∀ found,
      Entry.returned name (some found) ∈ world.journal → found = handle) ∧
    (∀ other descriptor address before after,
      descriptor.Forwards name →
      Publishes resolver other descriptor address before after →
      after.Grows world →
      world.handlers[address.instanceId]? = some (.forwarding handle)) ∧
    ∀ past operation rest,
      history = past ++ operation :: rest →
      ∃ earlier before answer after,
        Operation.performAll (Calls.nested resolver depth) past
            (World.create settings) =
          some (earlier, before) ∧
        operation.perform (Calls.nested resolver depth) before =
          some (answer, after) ∧
        answers[past.length]? = some answer ∧
        ∀ address,
          after.registry.cache.find? name = some handle →
          operation.addressee? after.registry = some address →
          after.Leads handle.instanceId address.instanceId →
          operation.Counts handle.instanceId before answer after ∨
            operation.addressee? before.registry = none ∧
              ∃ scheme,
                operation.resolves? = some scheme ∧ answer.Unresolved scheme := by
  obtain ⟨_, _, handler, _, constructed, -, isCached, isAdopted⟩ := first.built
  obtain rfl : handler = .tally := Except.ok.inj (constructed.of_plain rfl).1
  have cached := goesOn.cached isCached
  have adopted := goesOn.present isAdopted
  have tallied {history : List Operation} {answers : List Answer} {reached : World}
      (performed :
        Operation.performAll (Calls.nested resolver depth) history
          (World.create settings) =
          some (answers, reached)) :
      reached.Tallies handle.instanceId :=
    ((World.Reckons.gradual _).firm.performAll
      (World.Reckons.nested _ resolver depth) history
      performed).tallies (.create settings _)
  refine ⟨cached, (tallied performed).answers adopted, ?_, ?_, ?_⟩
  · intro found returned
    exact Option.some.inj
      (((sound_of_history performed).returned returned).symm.trans cached)
  · intro other descriptor address before after forwards publishes grows
    obtain ⟨passed, isPassed, forwarding⟩ := publishes.forwarding forwards
    obtain rfl : passed = handle :=
      Option.some.inj ((grows.cached isPassed).symm.trans cached)
    exact grows.present forwarding
  · rintro past operation rest rfl
    obtain ⟨earlier, before, answer, after, later, performedPast, done,
      performedRest,
      same, rfl⟩ := Operation.performAll_append_cons_eq_some_iff.mp performed
    refine ⟨earlier, before, answer, after, performedPast, done, ?_, ?_⟩
    · rw [← same, List.getElem?_append_right (Nat.le_refl _), Nat.sub_self]
      rfl
    · intro address isPublished addressed leads
      have stable := World.Sound.stable
      have afterSound : after.Sound :=
        stable.perform (stable.nested resolver depth) operation done
          (sound_of_history performedPast)
      have grows : after.Grows world :=
        World.Grows.stable.performAll (World.Grows.stable.nested resolver depth) rest
          performedRest
      have counting : after.handlers[handle.instanceId]? = some .tally := by
        have known := List.getElem?_eq_getElem (afterSound.adopted isPublished)
        exact known.trans ((grows.present known).symm.trans adopted)
      exact Operation.counts (tallied performedPast) counting addressed leads done

/--
A name is bound to a counting type and resolved.  It is then bound anew, its
lookups fail, it is unbound, and requests are sent to it in three ways.
-/
def census : List Operation :=
  [.register "count" (.plain "Tally" .tally)] ++
    .resolve "count" true ::
      [.register "outer" (.factory "Composed" fun _ => .forwardingTo "count" true),
        .get ⟨some "outer", "a"⟩ none,
        .register "count" (.plain "Null" .null),
        .get ⟨some "missing", "b"⟩ none,
        .breakLookup "count" "down",
        .get ⟨some "count", "c"⟩ none,
        .unregister "count",
        .serve ⟨"count", 0⟩ ⟨⟨some "count", "d"⟩, none⟩]

/--
Through the outer name, by its own name and with a kept handle the count goes on.
-/
theorem census_unbroken :
    ∃ answers world,
      Operation.performAll (Calls.nested (.withFaults .ofTable) 4) census
          (World.create .default) =
        some (answers, world) ∧
      world.registry.cache.find? "count" = some ⟨"count", 0⟩ ∧
      world.answersOf 0 = counts 3 ∧
      answers.filterMap Answer.value? = [.integer 1, .integer 2, .integer 3] := by
  have ends :
      (Operation.performAll (Calls.nested (.withFaults .ofTable) 4) census
        (World.create .default)).isSome = true := by decide +kernel
  obtain ⟨⟨answers, world⟩, performed⟩ := Option.isSome_iff_exists.mp ends
  have seen :
      (Operation.performAll (Calls.nested (.withFaults .ofTable) 4) census
          (World.create .default)).map
        (fun result =>
          (result.1.filterMap Answer.value?, (result.2.requestsTo 0).length)) =
      some ([.integer 1, .integer 2, .integer 3], 3) := by cbv
  rw [performed] at seen
  obtain ⟨values, requests⟩ := Prod.mk.inj (Option.some.inj seen)
  obtain ⟨_, _, _, published, _, begun, done, performedRest, -, -⟩ :=
    Operation.performAll_append_cons_eq_some_iff.mp performed
  cases begun
  let start := ((World.create .default).register "count" (.plain "Tally" .tally)).2
  obtain ⟨resolution, resolved, -⟩ :
      ∃ resolution,
        (Calls.nested (.withFaults .ofTable) 4).resolve "count" true start =
            some (resolution, published) ∧
          _ :=
    Run.map_eq_some_iff.mp done
  have opened :
      ((Calls.nested (.withFaults .ofTable) 4).resolve "count" true start).map
        (fun result => (result.1, result.2.journal)) =
      some
        (.ok (some ⟨"count", 0⟩),
          [.emitted (.creating Settings.default.strict),
              .emitted (.binding "count" "Tally"), .registered "count" 0 none,
              .called "count", .constructing 0 "Tally" none,
              .instantiated "count" true] ++
            [.emitted (.published "count"),
              .returned "count" (some ⟨"count", 0⟩)]) := rfl
  rw [resolved] at opened
  obtain ⟨rfl, happened⟩ := Prod.mk.inj (Option.some.inj opened)
  have first :
      Publishes (.withFaults .ofTable) "count" (.plain "Tally" .tally) ⟨"count", 0⟩
        start published :=
    { unpublished := rfl
      bound := ⟨0, rfl⟩
      resolved := ⟨4, true, resolved⟩
      published := ⟨_, happened⟩ }
  have stable := World.Grows.stable
  have whole :=
    tally_unbroken (.withFaults .ofTable) .default 4 census performed first
      (stable.performAll (stable.nested (.withFaults .ofTable) 4) _ performedRest)
  exact ⟨answers, world, performed, whole.1,
    whole.2.1.trans (congrArg counts requests), values⟩

end Dispatch
