import Mathlib
import Dispatch.Proofs.PairedCalls

namespace Dispatch

/-!
# Registries are independent

Any way in which the uses of several registries follow one another is compared
with each registry's uses alone.  `Session.Beside` relates a session to one lone
session for each registry; `Beside.runOn` is the step, `Beside.runAll` the run.
`registries_independent` puts together what one registry's uses do to another
one: they leave its cache and its settings as they are, never bring a handler
into both, and, where constructors do the same in every run, change none of its
answers.
-/

/-! ## The errands of one registry -/

namespace Errand

/-- The errands that go to one registry, in their order. -/
def goingTo
    (index : Nat)
    (errands : List Errand) : List Errand :=
  errands.filter fun errand => errand.registry == index

/-- The answers to the errands that go to one registry, in their order. -/
def answersFrom
    (index : Nat)
    (errands : List Errand)
    (answers : List Answer) : List Answer :=
  ((errands.zip answers).filter fun (errand, _) =>
    errand.registry == index).map Prod.snd

variable
  {index : Nat}
  {errand : Errand}
  {answer : Answer}

theorem goingTo_cons_self
    (errand : Errand)
    (rest : List Errand) :
    goingTo errand.registry (errand :: rest) =
      errand :: goingTo errand.registry rest := by
  simp [goingTo]

theorem goingTo_cons_of_ne
    (different : index ≠ errand.registry)
    (rest : List Errand) :
    goingTo index (errand :: rest) = goingTo index rest := by
  simp [goingTo, different.symm]

theorem answersFrom_cons_self
    (errand : Errand)
    (rest : List Errand)
    (answer : Answer)
    (answers : List Answer) :
    answersFrom errand.registry (errand :: rest) (answer :: answers) =
      answer :: answersFrom errand.registry rest answers := by
  simp [answersFrom]

theorem answersFrom_cons_of_ne
    (different : index ≠ errand.registry)
    (rest : List Errand)
    (answers : List Answer) :
    answersFrom index (errand :: rest) (answer :: answers) =
      answersFrom index rest answers := by
  simp [answersFrom, different.symm]

end Errand

/-! ## Sessions beside lone sessions -/

section

variable
  {served : String → Prop}
  {resolver : Resolver}
  {directory : Directory}

/--
At every place two worlds have handlers that were built from what is bound to its
name, and handlers at two places are either the same in both worlds or in none.
-/
structure Fixture.Matches
    (fixture : Fixture served resolver directory)
    (places : List Place)
    (world alone : World) : Prop where
  built :
    ∀ place ∈ places,
      ∃ handler other,
        world.handlers[place.shared]? = some handler ∧
          alone.handlers[place.alone]? = some other ∧
          fixture.Made place.name handler other
  distinct :
    ∀ place ∈ places,
      ∀ other ∈ places,
        place.shared = other.shared ↔ place.alone = other.alone

variable
  {fixture : Fixture served resolver directory}
  {places more : List Place}
  {world after alone : World}

theorem World.Resembles.isMatch
    (resembles : world.Resembles fixture places alone) :
    fixture.Matches places world alone where
  built place member := by
    obtain ⟨handler, other, present, presentAlone, -, made⟩ :=
      resembles.built place member
    exact ⟨handler, other, present, presentAlone, made⟩
  distinct := resembles.distinct

namespace Fixture.Matches

theorem lt_of_mem
    (isMatch : fixture.Matches places world alone)
    {place : Place}
    (member : place ∈ places) :
    place.shared < world.handlers.length := by
  obtain ⟨handler, -, present, -⟩ := isMatch.built place member
  exact (List.getElem?_eq_some_iff.mp present).1

/-- Handlers that are built later change nothing about earlier ones. -/
theorem grow
    (isMatch : fixture.Matches places world alone)
    (handlers : world.handlers <+: after.handlers) :
    fixture.Matches places after alone where
  built place member := by
    obtain ⟨handler, other, present, presentAlone, made⟩ :=
      isMatch.built place member
    exact ⟨handler, other, World.present_of_prefix handlers present, presentAlone,
      made⟩
  distinct := isMatch.distinct

end Fixture.Matches

/-- What is done with one registry leaves another one, at other places, as it is. -/
theorem World.Resembles.elsewhere
    {session : Session}
    {index : Nat}
    {registry other : Registry}
    {others : List Place}
    (resembles : (session.around registry).Resembles fixture places alone)
    (confines : (session.around other).Confines others more after)
    (stays : after.Stays directory)
    (clear :
      ∀ place ∈ places, ∀ counterpart ∈ more, counterpart.shared ≠ place.shared) :
    ((session.left index after).around registry).Resembles fixture places alone where
  stays := ⟨stays.directory, stays.idle⟩
  staysAlone := resembles.staysAlone
  settings := resembles.settings
  cached := resembles.cached
  built place member := by
    obtain ⟨handler, counterpart, present, rest⟩ := resembles.built place member
    exact ⟨handler, counterpart, World.present_of_prefix confines.handlers present,
      rest⟩
  distinct := resembles.distinct
  requests place member :=
    (resembles.requests place member).trans
      (confines.requests place.shared (clear place member)).symm

/--
A session beside one lone session for each registry: every registry is as it is
in its lone session, and no handler is at places of two of them.
-/
structure Session.Beside
    (fixture : Fixture served resolver directory)
    (depth : Nat)
    (session : Session)
    (lone : Nat → Session)
    (places : Nat → List Place) : Prop where
  calls :
    session.calls = Calls.nested resolver depth
  callsAlone :
    ∀ index, (lone index).calls = Calls.nested resolver depth
  resembles :
    ∀ {index : Nat} {registry : Registry},
      session.stored[index]? = some registry →
      ∃ registryAlone,
        (lone index).stored[index]? = some registryAlone ∧
          (session.around registry).Resembles fixture (places index)
            ((lone index).around registryAlone)
  matched :
    ∀ index, fixture.Matches (places index) session.world (lone index).world
  apart :
    ∀ {first second : Nat},
      first ≠ second →
      ∀ place ∈ places first,
        ∀ other ∈ places second, other.shared ≠ place.shared

/--
Errands have been run among others and alone: the answers at each registry are
those of its errands alone.
-/
structure Session.Separated
    (fixture : Fixture served resolver directory)
    (depth : Nat)
    (lone : Nat → Session)
    (places : Nat → List Place)
    (errands : List Errand)
    (answers : List Answer)
    (after : Session)
    (replies : Nat → List Answer)
    (ended : Nat → Session)
    (most : Nat → List Place) : Prop where
  ran :
    ∀ index,
      (lone index).runAll (Errand.goingTo index errands) =
        some (replies index, ended index)
  wider :
    ∀ index, places index ⊆ most index
  related :
    ∀ index,
      List.Forall₂ (Answer.Resembles (most index))
        (Errand.answersFrom index errands answers) (replies index)
  beside :
    after.Beside fixture depth ended most

namespace Session

variable
  {depth : Nat}
  {session : Session}
  {lone : Nat → Session}
  {placed : Nat → List Place}
  {errand : Errand}

/--
What is done with a registry is done in its lone session, and at no other registry.
-/
theorem Beside.left
    (beside : session.Beside fixture depth lone placed)
    {index : Nat}
    {registry registryAlone : Registry}
    (present : session.stored[index]? = some registry)
    (presentAlone : (lone index).stored[index]? = some registryAlone)
    (confines : (session.around registry).Confines (placed index) more after)
    (resembles : after.Resembles fixture more alone) :
    (session.left index after).Beside fixture depth
      (Function.update lone index ((lone index).left index alone))
      (Function.update placed index more) := by
  have within : index < session.stored.length :=
    (List.getElem?_eq_some_iff.mp present).1
  have withinAlone : index < (lone index).stored.length :=
    (List.getElem?_eq_some_iff.mp presentAlone).1
  have clear : ∀ {other : Nat},
      other ≠ index →
      ∀ place ∈ placed other,
          ∀ counterpart ∈ more, counterpart.shared ≠ place.shared := by
    intro other different place member counterpart memberToo
    rcases confines.fresh counterpart memberToo with known | new
    · exact beside.apart different place member counterpart known
    · have old : place.shared < session.world.handlers.length :=
        (beside.matched other).lt_of_mem member
      have new : session.world.handlers.length ≤ counterpart.shared := new
      omega
  refine
    { calls := beside.calls
      callsAlone := ?_
      resembles := ?_
      matched := ?_
      apart := ?_ }
  · intro other
    by_cases same : other = index
    · subst same
      rw [Function.update_self]
      exact beside.callsAlone other
    · rw [Function.update_of_ne same]
      exact beside.callsAlone other
  · intro other stored presentOther
    rw [stored_left] at presentOther
    by_cases same : other = index
    · subst same
      rw [List.getElem?_set_self within] at presentOther
      cases presentOther
      rw [Function.update_self, Function.update_self, stored_left]
      exact ⟨alone.registry, List.getElem?_set_self withinAlone, resembles⟩
    · rw [List.getElem?_set_ne (Ne.symm same)] at presentOther
      rw [Function.update_of_ne same, Function.update_of_ne same]
      obtain ⟨counterpart, isCounterpart, resemblesOther⟩ :=
        beside.resembles presentOther
      exact ⟨counterpart, isCounterpart,
        resemblesOther.elsewhere confines resembles.stays (clear same)⟩
  · intro other
    by_cases same : other = index
    · subst same
      rw [Function.update_self, Function.update_self]
      exact resembles.isMatch
    · rw [Function.update_of_ne same, Function.update_of_ne same]
      exact (beside.matched other).grow confines.handlers
  · intro first second different
    by_cases isFirst : first = index
    · subst isFirst
      rw [Function.update_self, Function.update_of_ne different.symm]
      intro place member other memberToo
      exact (clear different.symm other memberToo place member).symm
    · by_cases isSecond : second = index
      · subst isSecond
        rw [Function.update_self, Function.update_of_ne isFirst]
        exact clear isFirst
      · rw [Function.update_of_ne isFirst, Function.update_of_ne isSecond]
        exact beside.apart different

/--
An errand ends among others exactly if it ends alone, and then with the same answer.
-/
theorem Beside.runOn
    (beside : session.Beside fixture depth lone placed)
    (within : errand.registry < session.stored.length)
    (permitted : errand.deed.Permitted served) :
    session.runOn errand = none ∧ (lone errand.registry).runOn errand = none ∨
      ∃ answer after reply alone more,
        session.runOn errand = some (answer, after) ∧
          (lone errand.registry).runOn errand = some (reply, alone) ∧
          placed errand.registry ⊆ more ∧
          Answer.Resembles more answer reply ∧
          after.Beside fixture depth
            (Function.update lone errand.registry alone)
            (Function.update placed errand.registry more) := by
  have present := List.getElem?_eq_getElem within
  obtain ⟨registryAlone, presentAlone, resembles⟩ := beside.resembles present
  have paired :=
    permitted.paired (Calls.Paired.nested fixture depth)
      (List.nil_subset _) resembles
  rw [runOn_eq present, runOn_eq presentAlone, beside.calls, beside.callsAlone]
  generalize errand.deed.perform (Calls.nested resolver depth) (session.around _) =
    result
    at paired
  generalize errand.deed.perform (Calls.nested resolver depth)
    ((lone errand.registry).around registryAlone) = counterpart at paired
  cases paired with
  | neither =>
      exact .inl ⟨rfl, rfl⟩
  | both confines resemblesAfter related =>
      exact .inr ⟨_, _, _, _, _, rfl, rfl, confines.wider, related,
        beside.left present presentAlone confines resemblesAfter⟩

/-- An errand that has been run before the others. -/
theorem Separated.cons
    {answer reply : Answer}
    {alone after : Session}
    {more : List Place}
    {rest : List Errand}
    {answers : List Answer}
    {replies : Nat → List Answer}
    {ended : Nat → Session}
    {most : Nat → List Place}
    (ranAlone : (lone errand.registry).runOn errand = some (reply, alone))
    (wider : placed errand.registry ⊆ more)
    (related : Answer.Resembles more answer reply)
    (separated :
      Separated fixture depth
        (Function.update lone errand.registry alone)
        (Function.update placed errand.registry more)
        rest answers after replies ended most) :
    Separated fixture depth lone placed (errand :: rest) (answer :: answers) after
      (Function.update replies errand.registry (reply :: replies errand.registry))
      ended most := by
  have ranRest := separated.ran errand.registry
  have widest := separated.wider errand.registry
  rw [Function.update_self] at ranRest widest
  refine
    { ran := ?_
      wider := ?_
      related := ?_
      beside := separated.beside }
  · intro index
    by_cases same : index = errand.registry
    · subst same
      rw [Errand.goingTo_cons_self, Function.update_self]
      exact runAll_cons_eq_some_iff.mpr ⟨reply, alone, _, ranAlone, ranRest, rfl⟩
    · have ranElsewhere := separated.ran index
      rw [Function.update_of_ne same] at ranElsewhere
      rw [Errand.goingTo_cons_of_ne same, Function.update_of_ne same]
      exact ranElsewhere
  · intro index
    by_cases same : index = errand.registry
    · subst same
      exact List.Subset.trans wider widest
    · have widerElsewhere := separated.wider index
      rw [Function.update_of_ne same] at widerElsewhere
      exact widerElsewhere
  · intro index
    by_cases same : index = errand.registry
    · subst same
      rw [Errand.answersFrom_cons_self, Function.update_self]
      exact .cons (related.mono fun alike => alike.mono widest)
        (separated.related errand.registry)
    · rw [Errand.answersFrom_cons_of_ne same, Function.update_of_ne same]
      exact separated.related index

/-- Errands end among others exactly if those of each registry end alone. -/
theorem Beside.runAll
    {errands : List Errand}
    (beside : session.Beside fixture depth lone placed)
    (within : ∀ errand ∈ errands, errand.registry < session.stored.length)
    (permitted : ∀ errand ∈ errands, errand.deed.Permitted served) :
    (session.runAll errands = none ∧
        ∃ index, (lone index).runAll (Errand.goingTo index errands) = none) ∨
      ∃ answers after replies ended most,
        session.runAll errands = some (answers, after) ∧
          Separated fixture depth lone placed errands answers after replies
              ended most := by
  induction errands generalizing session lone placed with
  | nil =>
      exact .inr ⟨[], session, fun _ => [], lone, placed, rfl,
        { ran := fun _ => rfl
          wider := fun _ => List.Subset.refl _
          related := fun _ => .nil
          beside := beside }⟩
  | cons errand rest inductionHypothesis =>
      have here := within errand List.mem_cons_self
      rcases beside.runOn here (permitted errand List.mem_cons_self) with
        ⟨stuck, stuckAlone⟩ |
        ⟨answer, middle, reply, alone, more, ran, ranAlone, wider, related,
          besideRest⟩
      · refine .inl ⟨runAll_cons_eq_none_iff.mpr (.inl stuck), errand.registry, ?_⟩
        rw [Errand.goingTo_cons_self]
        exact runAll_cons_eq_none_iff.mpr (.inl stuckAlone)
      · have withinRest : ∀ other ∈ rest, other.registry < middle.stored.length := by
          intro other member
          rw [stored_of_runOn here ran, List.length_set]
          exact within other (List.mem_cons_of_mem _ member)
        have permittedRest : ∀ other ∈ rest, other.deed.Permitted served :=
          fun other member => permitted other (List.mem_cons_of_mem _ member)
        rcases inductionHypothesis besideRest withinRest permittedRest with
          ⟨stuck, index, stuckAlone⟩ |
          ⟨answers, after, replies, ended, most, ranRest, separated⟩
        · have stuckToo :=
            runAll_cons_eq_none_iff.mpr (.inr ⟨answer, middle, ran, stuck⟩)
          refine .inl ⟨stuckToo, index, ?_⟩
          by_cases same : index = errand.registry
          · subst same
            rw [Function.update_self] at stuckAlone
            rw [Errand.goingTo_cons_self]
            exact runAll_cons_eq_none_iff.mpr
              (.inr ⟨reply, alone, ranAlone, stuckAlone⟩)
          · rw [Function.update_of_ne same] at stuckAlone
            rw [Errand.goingTo_cons_of_ne same]
            exact stuckAlone
        · exact .inr ⟨answer :: answers, after, _, ended, most,
            runAll_cons_eq_some_iff.mpr ⟨answer, middle, answers, ran, ranRest, rfl⟩,
            separated.cons ranAlone wider related⟩

end Session

end

/-! ## Independence -/

/--
A session as it is before anything is done with its registries: they have
published nothing, and no handler yet to be built has been given a request.
-/
structure Session.Fresh (session : Session) : Prop where
  empty :
    ∀ registry ∈ session.stored, registry.cache = Table.empty
  idle :
    ∀ instanceId,
      session.world.handlers.length ≤ instanceId →
      session.world.requestsTo instanceId = []

namespace Session.Fresh

/-- A session is fresh when it is created. -/
theorem create
    (resolver : Resolver)
    (depth : Nat)
    (settings : Settings) :
    (Session.create resolver depth settings).Fresh where
  empty registry member := by
    obtain rfl : registry = Registry.create settings := List.mem_singleton.mp member
    rfl
  idle _ _ := rfl

/-- Bindings may be whatever they are. -/
theorem ofDirectory
    {session : Session}
    (fresh : session.Fresh)
    (directory : Directory) :
    { session with world := { session.world with directory := directory } }.Fresh :=
  ⟨fresh.empty, fresh.idle⟩

/-- It stays fresh when further registries are created. -/
theorem addRegistry
    {session : Session}
    (fresh : session.Fresh)
    (settings : Settings) :
    (session.addRegistry settings).2.Fresh where
  empty registry member := by
    rcases List.mem_or_eq_of_mem_set member with known | rfl
    · rcases List.mem_append.mp known with known | new
      · exact fresh.empty registry known
      · obtain rfl : registry = Registry.create settings := List.mem_singleton.mp new
        rfl
    · rfl
  idle := fresh.idle

/-- A fresh session is beside itself, once for each registry. -/
protected theorem beside
    {start : Session}
    (fresh : start.Fresh)
    {served : String → Prop}
    (fixture : Fixture served start.resolver start.world.directory) :
    start.Beside fixture start.depth (fun _ => start) fun _ => [] where
  calls := rfl
  callsAlone _ := rfl
  resembles {index registry} present := by
    have empty := fresh.empty registry (List.mem_of_getElem? present)
    have stays : (start.around registry).Stays start.world.directory :=
      ⟨⟨_, rfl⟩, fresh.idle⟩
    refine ⟨registry, present, ?_⟩
    exact
      { stays := stays
        staysAlone := stays
        settings := rfl
        cached := fun name => by
          change Option.Rel _ (registry.cache.find? name) (registry.cache.find? name)
          rw [empty]
          exact .none
        built := fun _ member => by cases member
        distinct := fun _ member => by cases member
        requests := fun _ member => by cases member }
  matched _ :=
    { built := fun _ member => by cases member
      distinct := fun _ member => by cases member }
  apart _ _ member := by cases member

end Session.Fresh

/--
Registries share a resolver, and are used one after another in any order.  What is
done with one leaves the cache and the settings of every other one as they are.
No two registries ever have or give handles of the same handler, not even for one
name.  And where bindings stay as they are, constructors do the same in every run,
and requests go only to handlers that do the same as well, the errands end exactly
if those of each registry end alone.  The answers at a registry are then those of
its errands alone, but for the numbers of handlers: the same resolve calls have a
handle, of a handler built from the same binding, and the others have the same
error.
-/
theorem registries_independent
    {start : Session}
    (fresh : start.Fresh)
    {errands : List Errand}
    (within : ∀ errand ∈ errands, errand.registry < start.stored.length) :
    (∀ {session after : Session} {errand : Errand} {answer : Answer},
      errand.registry < session.stored.length →
      session.runOn errand = some (answer, after) →
      after.stored.length = session.stored.length ∧
        ∀ other,
          other ≠ errand.registry → after.stored[other]? = session.stored[other]?) ∧
    (∀ {answers : List Answer} {after : Session},
      start.runAll errands = some (answers, after) →
      after.Apart ∧
      ∀ {first second : Errand} {answer reply : Answer} {handle other : Handle},
        (first, answer) ∈ errands.zip answers →
        (second, reply) ∈ errands.zip answers →
        first.registry ≠ second.registry →
        answer.handle? = some handle →
        reply.handle? = some other →
        handle.instanceId ≠ other.instanceId) ∧
    ∀ {served : String → Prop}
      (fixture : Fixture served start.resolver start.world.directory),
      (∀ errand ∈ errands, errand.deed.Permitted served) →
      ((start.runAll errands).isSome ↔
        ∀ index, (start.runAll (Errand.goingTo index errands)).isSome) ∧
      ∀ {answers : List Answer} {after : Session},
        start.runAll errands = some (answers, after) →
        ∀ index,
          ∃ replies alone places,
            start.runAll (Errand.goingTo index errands) = some (replies, alone) ∧
              fixture.Matches places after.world alone.world ∧
              List.Forall₂ (Answer.Resembles places)
                (Errand.answersFrom index errands answers) replies := by
  refine ⟨?_, ?_, ?_⟩
  · intro session after errand answer present ran
    rw [Session.stored_of_runOn present ran]
    exact ⟨List.length_set, fun other different =>
      List.getElem?_set_ne different.symm⟩
  · intro answers after ran
    obtain ⟨keepsApart, -, handed⟩ := Session.grants_of_runAll within ran
    have apart := keepsApart (.ofFresh fresh.empty)
    refine ⟨apart, ?_⟩
    intro first second answer reply handle other memberFirst memberSecond
      different isHandle
      isOther
    exact apart.apart (handed first answer memberFirst handle isHandle)
      (handed second reply memberSecond other isOther) different
  · intro served fixture permitted
    rcases (fresh.beside fixture).runAll within permitted with
      ⟨stuck, index, stuckAlone⟩ |
      ⟨answers, after, replies, ended, most, ran, separated⟩
    · refine ⟨?_, ?_⟩
      · have unfinished :
            ¬∀ index, (start.runAll (Errand.goingTo index errands)).isSome := by
          intro finished
          have some := finished index
          rw [stuckAlone] at some
          cases some
        rw [stuck]
        exact iff_of_false Bool.false_ne_true unfinished
      · intro answers after ran
        rw [stuck] at ran
        cases ran
    · refine ⟨?_, ?_⟩
      · rw [ran]
        refine iff_of_true rfl fun index => ?_
        rw [separated.ran index]
        rfl
      · intro others last ranToo index
        obtain ⟨rfl, rfl⟩ := Prod.mk.inj (Option.some.inj (ran.symm.trans ranToo))
        exact ⟨replies index, ended index, most index, separated.ran index,
          separated.beside.matched index, separated.related index⟩

/-! ## Two benches -/

/-- Handlers that forward to corresponding handlers resemble each other. -/
theorem Handler.forwarding_resembles
    {served : String → Prop}
    {name : String}
    {places : List Place}
    {handle other : Handle}
    (related : handle.Resembles places other)
    (isServed : served name → served handle.schemeName) :
    (Handler.forwarding handle).Resembles served name places
        (Handler.forwarding other) := by
  intro outer more wider earlier request
  refine .call (isServed outer) (related.mono wider) fun most _ outcome => ?_
  cases outcome with
  | ok value => exact .answer
  | error failure => exact .fail fun _ => rfl

/-- A construction that composes two names does the same every time. -/
theorem Script.forwardingTo_resembles
    {served : String → Prop}
    {name inner : String}
    {places : List Place}
    (isServed : served name → served inner)
    (strict : Bool) :
    (Script.forwardingTo inner strict).Resembles served name places
      (Script.forwardingTo inner strict) := by
  have composed {more : List Place} {handle other : Handle}
      (related : handle.Counterparts inner more other) :
      Script.Resembles served name more
        (.build (.forwarding handle)) (.build (.forwarding other)) := by
    refine .build (Handler.forwarding_resembles related.resembles ?_)
    rw [related.named]
    exact isServed
  cases strict with
  | true =>
      refine .resolve fun more _ answer other alike => ?_
      cases alike with
      | error => exact .fail nofun
      | none => exact .fail nofun
      | some related => exact composed related
  | false =>
      refine .resolve fun more _ answer other alike => ?_
      cases alike with
      | error => exact .fail nofun
      | none => exact .fail nofun
      | some related => exact composed related

/--
A type that counts its requests, one composed with it, and one numbered by its runs.
-/
def bench : Directory :=
  ((Directory.empty.register "count" (.plain "Tally" .tally)).register "outer"
    (.factory "Composed" fun _ => .forwardingTo "count" true)).register "tag"
      (.factory "Tagged" fun index => .build (.tagged index))

/-- Two registries at the bench. -/
def benches : Session :=
  ({ Session.create .ofTable 4 .default with
      world :=
        { World.create .default with directory := bench } }.addRegistry .default).2

theorem benches_fresh : benches.Fresh :=
  ((Session.Fresh.create .ofTable 4 .default).ofDirectory bench).addRegistry .default

/--
What is bound at the bench does the same in every run.  The handlers that are
numbered by the run are built just as surely, but are sent no requests.
-/
def benchFixture : Fixture (fun name => name ≠ "tag") .ofTable bench where
  bound := bench.table.find?
  offers := Resolver.ofTable_offers bench
  repeats name binding _ found := by
    simp only [bench, Directory.register, Directory.empty, Table.find?_set,
      Table.find?_empty] at found
    split at found
    · rename_i isTag
      cases found
      exact .factory fun _ _ => .build fun isServed => absurd isTag isServed
    · split at found
      · cases found
        exact .factory fun _ _ =>
          Script.forwardingTo_resembles (fun _ => by decide) true
      · split at found
        · cases found
          exact .plain fun _ _ _ _ _ => .answer
        · cases found

/-- Both registries are used in turns: each builds handlers, and each counts. -/
def turns : List Errand :=
  [⟨0, .operate (.find "outer")⟩,
    ⟨1, .operate (.resolveStrict "count")⟩,
    ⟨0, .pass "outer" ⟨⟨some "outer", "a"⟩, none⟩⟩,
    ⟨0, .operate (.resolve "tag" true)⟩,
    ⟨1, .operate (.resolve "tag" true)⟩,
    ⟨1, .operate (.resolve "absent" true)⟩,
    ⟨1, .operate (.get ⟨some "outer", "b"⟩ none)⟩,
    ⟨0, .operate (.resolveOrNone "count")⟩,
    ⟨1, .pass "count" ⟨⟨some "count", "c"⟩, none⟩⟩]

theorem turns_permitted :
    ∀ errand ∈ turns, errand.deed.Permitted fun name => name ≠ "tag" := by
  have notTag : ∀ name, some "outer" = some name → name ≠ "tag" := by
    rintro name ⟨⟩
    decide
  intro errand member
  simp only [turns, List.mem_cons, List.not_mem_nil, or_false] at member
  rcases member with rfl | rfl | rfl | rfl | rfl | rfl | rfl | rfl | rfl
  · exact .operate .find
  · exact .operate .resolveStrict
  · exact .pass (by decide)
  · exact .operate .resolve
  · exact .operate .resolve
  · exact .operate .resolve
  · exact .operate (.get notTag)
  · exact .operate .resolveOrNone
  · exact .pass (by decide)

/--
The first errand leaves the other registry as it is; each registry has a counting
handler of its own; and the second registry counts to two, as it does alone.
-/
theorem turns_independent :
    ∃ (answers : List Answer) (after : Session),
      benches.runAll turns = some (answers, after) ∧
      (∃ answer middle,
        benches.runOn ⟨0, .operate (.find "outer")⟩ = some (answer, middle) ∧
          middle.stored[1]? = benches.stored[1]?) ∧
      (∃ handle other : Handle,
        answers[1]? = some (.required (.ok handle)) ∧
          answers[7]? = some (.optional (some other)) ∧
          handle.schemeName = other.schemeName ∧
          handle.instanceId ≠ other.instanceId) ∧
      ∃ (replies : List Answer) (alone : Session) (places : List Place),
        benches.runAll (Errand.goingTo 1 turns) = some (replies, alone) ∧
          benchFixture.Matches places after.world alone.world ∧
          List.Forall₂ (Answer.Resembles places)
            (Errand.answersFrom 1 turns answers) replies ∧
          replies[4]? = some (.served (.ok (.integer 2))) := by
  have within : ∀ errand ∈ turns, errand.registry < benches.stored.length := by
    decide
  obtain ⟨frame, apart, alike⟩ := registries_independent benches_fresh within
  have ends : (benches.runAll turns).isSome = true := by decide +kernel
  obtain ⟨⟨answers, after⟩, ran⟩ := Option.isSome_iff_exists.mp ends
  obtain ⟨answer, middle, rest, ranFirst, -, -⟩ :=
    Session.runAll_cons_eq_some_iff.mp ran
  obtain ⟨-, same⟩ := frame (within _ List.mem_cons_self) ranFirst
  have seen :
      (benches.runAll turns).map (fun result => (result.1[1]?, result.1[7]?)) =
        some
          (some (.required (.ok ⟨"count", 2⟩)),
            some (.optional (some ⟨"count", 0⟩))) := by cbv
  rw [ran] at seen
  obtain ⟨isFirst, isSecond⟩ := Prod.mk.inj (Option.some.inj seen)
  have first :
      (turns.zip answers)[1]? = some (⟨1, .operate (.resolveStrict "count")⟩, _) :=
    List.getElem?_zip_eq_some.mpr ⟨rfl, isFirst⟩
  have second :
      (turns.zip answers)[7]? = some (⟨0, .operate (.resolveOrNone "count")⟩, _) :=
    List.getElem?_zip_eq_some.mpr ⟨rfl, isSecond⟩
  have different :=
    (apart ran).2 (List.mem_of_getElem? first) (List.mem_of_getElem? second)
      (by decide) rfl rfl
  obtain ⟨replies, alone, places, ranAlone, isMatch, related⟩ :=
    (alike benchFixture turns_permitted).2 ran 1
  have counted :
      (benches.runAll (Errand.goingTo 1 turns)).map (fun result => result.1[4]?) =
        some (some (.served (.ok (.integer 2)))) := by cbv
  rw [ranAlone] at counted
  exact ⟨answers, after, ran, ⟨answer, middle, ranFirst, same 1 (by decide)⟩,
    ⟨_, _, isFirst, isSecond, rfl, different⟩,
    ⟨replies, alone, places, ranAlone, isMatch, related, Option.some.inj counted⟩⟩

end Dispatch
