import Dispatch.Proofs.FailureReasons
import Dispatch.Proofs.Neighbours

namespace Dispatch

/-!
# Runs that resemble each other

What is done with a registry among others is compared with the same done with it
alone.  Handlers have other numbers there, and constructors have been run less
often, so that the two runs are not equal.  They resemble each other: a `Place`
says which handlers of the two correspond, and everything is related relative to
the places there are.  These only ever become more.

Two scripts resemble each other if they do the same for answers that resemble
each other, now and later on (`Script.Resembles`).  `Script.Resembles.run` is the
induction over scripts, `Calls.Paired.nested` the one over the depth of nesting.
-/

/-! ## Places -/

/--
Where a handler was built in both of two runs: its number in each, and for which
name.
-/
structure Place where
  shared : Nat
  alone : Nat
  name : String

/-- Two handles of the handlers that were built at one place. -/
def Handle.Resembles
    (places : List Place)
    (handle other : Handle) : Prop :=
  ⟨handle.instanceId, other.instanceId, handle.schemeName⟩ ∈ places ∧
    other.schemeName = handle.schemeName

theorem Handle.Resembles.mono
    {places more : List Place}
    {handle other : Handle}
    (resembles : handle.Resembles places other)
    (wider : places ⊆ more) :
    handle.Resembles more other :=
  ⟨wider resembles.1, resembles.2⟩

/-- Two handles that resemble each other, and were published for a name. -/
structure Handle.Counterparts
    (name : String)
    (places : List Place)
    (handle other : Handle) : Prop where
  named :
    handle.schemeName = name
  resembles :
    handle.Resembles places other

theorem Handle.Counterparts.mono
    {name : String}
    {places more : List Place}
    {handle other : Handle}
    (related : handle.Counterparts name places other)
    (wider : places ⊆ more) :
    handle.Counterparts name more other :=
  ⟨related.named, related.resembles.mono wider⟩

theorem Handle.Counterparts.mono?
    {name : String}
    {places more : List Place}
    {handle other : Option Handle}
    (related : Option.Rel (Handle.Counterparts name places) handle other)
    (wider : places ⊆ more) :
    Option.Rel (Handle.Counterparts name more) handle other := by
  cases related with
  | some related => exact .some (related.mono wider)
  | none => exact .none

/--
Two answers to a resolve call: related handles, twice none, or twice the same error.
-/
inductive Resolution.Alike
    (relates : Handle → Handle → Prop) :
    Resolution → Resolution → Prop
  | error
      {error : DispatchError} :
      Alike relates (.error error) (.error error)
  | none :
      Alike relates (.ok none) (.ok none)
  | some
      {handle other : Handle}
      (related : relates handle other) :
      Alike relates (.ok (some handle)) (.ok (some other))

theorem Resolution.Alike.mono
    {relates weaker : Handle → Handle → Prop}
    (weakens : ∀ {handle other}, relates handle other → weaker handle other)
    {outcome other : Resolution}
    (alike : outcome.Alike relates other) :
    outcome.Alike weaker other := by
  cases alike with
  | error => exact .error
  | none => exact .none
  | some related => exact .some (weakens related)

/-- Two answers to an operation: they differ in nothing but related handles. -/
inductive Answer.Alike
    (relates : Handle → Handle → Prop) :
    Answer → Answer → Prop
  | resolution
      {outcome other : Resolution}
      (alike : outcome.Alike relates other) :
      Alike relates (.resolution outcome) (.resolution other)
  | refused
      {error : DispatchError} :
      Alike relates (.required (.error error)) (.required (.error error))
  | required
      {handle other : Handle}
      (related : relates handle other) :
      Alike relates (.required (.ok handle)) (.required (.ok other))
  | absent :
      Alike relates (.optional none) (.optional none)
  | optional
      {handle other : Handle}
      (related : relates handle other) :
      Alike relates (.optional (some handle)) (.optional (some other))
  | value
      {outcome : Except DispatchError Value} :
      Alike relates (.value outcome) (.value outcome)
  | served
      {outcome : Except Failure Value} :
      Alike relates (.served outcome) (.served outcome)
  | done :
      Alike relates .done .done

/-- Answers that are alike by one relation are alike by a weaker one. -/
theorem Answer.Alike.mono
    {relates weaker : Handle → Handle → Prop}
    (weakens : ∀ {handle other}, relates handle other → weaker handle other)
    {answer other : Answer}
    (alike : answer.Alike relates other) :
    answer.Alike weaker other := by
  cases alike with
  | resolution alike => exact .resolution (alike.mono weakens)
  | refused => exact .refused
  | required related => exact .required (weakens related)
  | absent => exact .absent
  | optional related => exact .optional (weakens related)
  | value => exact .value
  | served => exact .served
  | done => exact .done

/-! ## Scripts -/

/--
Two scripts do the same, relative to places: they ask for the same, and go on
resembling each other for answers that resemble each other, whatever places there
are by then.  They send requests only to handlers of names that are served, and
end alike; handlers that they build for such a name resemble each other.  Nothing
is bound and nothing unbound.
-/
inductive Script.Resembles
    (served : String → Prop)
    (name : String) :
    {role : Role} → List Place → Script role → Script role → Prop
  | build
      {places : List Place}
      {handler other : Handler}
      (alike :
        served name →
        ∀ more,
          places ⊆ more →
          ∀ earlier request,
            Resembles served name more (handler.respond earlier request)
              (other.respond earlier request)) :
      Resembles served name places (.build handler) (.build other)
  | answer
      {places : List Place}
      {value : Value} :
      Resembles served name places (.answer value) (.answer value)
  | fail
      {role : Role}
      {places : List Place}
      {failure other : Failure}
      (same : role = .serve → failure = other) :
      Resembles served name places (.fail failure : Script role) (.fail other)
  | resolve
      {role : Role}
      {places : List Place}
      {inner : String}
      {strict : Bool}
      {next others : Resolution → Script role}
      (onward :
        ∀ more,
          places ⊆ more →
          ∀ answer other : Resolution,
            answer.Alike (Handle.Counterparts inner more) other →
            Resembles served name more (next answer) (others other)) :
      Resembles served name places (.resolve inner strict next)
        (.resolve inner strict others)
  | call
      {role : Role}
      {places : List Place}
      {handle other : Handle}
      {request : Request}
      {next others : Except Failure Value → Script role}
      (isServed : served handle.schemeName)
      (resembles : handle.Resembles places other)
      (onward :
        ∀ more,
          places ⊆ more →
          ∀ outcome, Resembles served name more (next outcome) (others outcome)) :
      Resembles served name places (.call handle request next)
        (.call other request others)
  | readSettings
      {role : Role}
      {places : List Place}
      {next others : Settings → Script role}
      (onward :
        ∀ settings, Resembles served name places (next settings) (others settings)) :
      Resembles served name places (.readSettings next) (.readSettings others)
  | note
      {role : Role}
      {places : List Place}
      {remark other : Note}
      {next others : Script role}
      (onward : Resembles served name places next others) :
      Resembles served name places (.note remark next) (.note other others)

/--
Two handlers respond alike to everything, if the name they are built for is served.
-/
def Handler.Resembles
    (served : String → Prop)
    (name : String)
    (places : List Place)
    (handler other : Handler) : Prop :=
  served name →
  ∀ more,
    places ⊆ more →
    ∀ earlier request,
      (handler.respond earlier request).Resembles served name more
        (other.respond earlier request)

theorem Handler.Resembles.mono
    {served : String → Prop}
    {name : String}
    {places more : List Place}
    {handler other : Handler}
    (resembles : handler.Resembles served name places other)
    (wider : places ⊆ more) :
    handler.Resembles served name more other :=
  fun isServed most widest =>
    resembles isServed most (List.Subset.trans wider widest)

/--
A descriptor whose constructor does the same for a name, however often it has been
run.
-/
inductive Descriptor.Repeats
    (served : String → Prop)
    (name : String) : Descriptor → Prop
  | abstract
      {typeName : String} :
      Repeats served name (.abstract typeName)
  | plain
      {typeName : String}
      {handler : Handler}
      (alike : handler.Resembles served name [] handler) :
      Repeats served name (.plain typeName handler)
  | factory
      {typeName : String}
      {make : Nat → Script .construct}
      (alike : ∀ index other, (make index).Resembles served name [] (make other)) :
      Repeats served name (.factory typeName make)

/--
Bindings that stay as they are, with constructors that do the same in every run.
Requests go to handlers of some names only; of the others nothing is said but
whether they are built.
-/
structure Fixture
    (served : String → Prop)
    (resolver : Resolver)
    (directory : Directory) where
  bound : String → Option Binding
  offers :
    resolver.Offers directory bound
  repeats :
    ∀ name binding,
      name ≠ "" →
      bound name = some binding →
      binding.descriptor.Repeats served name

/-- In some run, building from a binding has given a handler. -/
def Binding.Makes
    (resolver : Resolver)
    (binding : Binding)
    (handler : Handler) : Prop :=
  ∃ depth world after,
    (Calls.nested resolver depth).builds binding world (.ok handler) after

/-- Two handlers were both built from what is bound to a name. -/
def Fixture.Made
    {served : String → Prop}
    {resolver : Resolver}
    {directory : Directory}
    (fixture : Fixture served resolver directory)
    (name : String)
    (handler other : Handler) : Prop :=
  ∃ binding,
    fixture.bound name = some binding ∧
      binding.Makes resolver handler ∧
      binding.Makes resolver other

/-! ## Worlds -/

/--
The bindings of a world are those of a directory, and handlers yet to be built
have been given no request.
-/
structure World.Stays
    (directory : Directory)
    (world : World) : Prop where
  directory :
    ∃ asked, world.directory = { directory with asked := asked }
  idle :
    ∀ instanceId,
      world.handlers.length ≤ instanceId → world.requestsTo instanceId = []

namespace World.Stays

variable
  {directory : Directory}
  {world : World}

theorem record
    (stays : world.Stays directory)
    {entry : Entry}
    (silent :
      ∀ instanceId,
        world.handlers.length ≤ instanceId →
        Journal.requestsTo instanceId [entry] = []) :
    (world.record entry).Stays directory where
  directory := stays.directory
  idle instanceId unbuilt := by
    rw [requestsTo_record, stays.idle instanceId unbuilt, silent instanceId unbuilt,
      List.append_nil]

theorem ask
    (stays : world.Stays directory)
    (name : String) :
    (world.ask name).Stays directory where
  directory := by
    obtain ⟨asked, isDirectory⟩ := stays.directory
    exact ⟨asked ++ [name], by simp [World.ask, Directory.ask, isDirectory]⟩
  idle := stays.idle

theorem adopt
    (stays : world.Stays directory)
    (handler : Handler) :
    (world.adopt handler).2.Stays directory where
  directory := stays.directory
  idle instanceId unbuilt := by
    change (world.handlers ++ [handler]).length ≤ instanceId at unbuilt
    rw [List.length_append] at unbuilt
    exact stays.idle instanceId (Nat.le_trans (Nat.le_add_right _ _) unbuilt)

theorem insert
    (stays : world.Stays directory)
    (name : String)
    (handle : Handle) :
    (world.insert name handle).Stays directory :=
  ⟨stays.directory, stays.idle⟩

end World.Stays

section

variable
  {served : String → Prop}
  {resolver : Resolver}
  {directory : Directory}

/--
A registry among others and the same one alone, relative to places: they are
configured alike and have handles of corresponding handlers for the same names.
Corresponding handlers were built from the same binding, respond alike, and have
been given the same requests.
-/
structure World.Resembles
    (fixture : Fixture served resolver directory)
    (places : List Place)
    (world alone : World) : Prop where
  stays :
    world.Stays directory
  staysAlone :
    alone.Stays directory
  settings :
    alone.registry.settings = world.registry.settings
  cached :
    ∀ name,
      Option.Rel (Handle.Counterparts name places)
        (world.registry.cache.find? name) (alone.registry.cache.find? name)
  built :
    ∀ place ∈ places,
      ∃ handler other,
        world.handlers[place.shared]? = some handler ∧
          alone.handlers[place.alone]? = some other ∧
          handler.Resembles served place.name places other ∧
          fixture.Made place.name handler other
  distinct :
    ∀ place ∈ places,
      ∀ other ∈ places,
        place.shared = other.shared ↔ place.alone = other.alone
  requests :
    ∀ place ∈ places,
      alone.requestsTo place.alone = world.requestsTo place.shared

namespace World.Resembles

variable
  {fixture : Fixture served resolver directory}
  {places : List Place}
  {world alone : World}

/-- Handlers that correspond have been built in both worlds. -/
theorem lt_of_mem
    (resembles : world.Resembles fixture places alone)
    {place : Place}
    (member : place ∈ places) :
    place.shared < world.handlers.length ∧ place.alone < alone.handlers.length := by
  obtain ⟨handler, other, present, presentAlone, -⟩ := resembles.built place member
  exact ⟨(List.getElem?_eq_some_iff.mp present).1,
    (List.getElem?_eq_some_iff.mp presentAlone).1⟩

/-- What is entered about no request goes unnoticed, in the one world. -/
theorem recordShared
    (resembles : world.Resembles fixture places alone)
    {entry : Entry}
    (silent : ∀ instanceId, Journal.requestsTo instanceId [entry] = []) :
    (world.record entry).Resembles fixture places alone where
  stays := resembles.stays.record fun instanceId _ => silent instanceId
  staysAlone := resembles.staysAlone
  settings := resembles.settings
  cached := resembles.cached
  built := resembles.built
  distinct := resembles.distinct
  requests place member := by
    rw [requestsTo_record, silent, List.append_nil, resembles.requests place member]

/-- So it does in the other one. -/
theorem recordAlone
    (resembles : world.Resembles fixture places alone)
    {entry : Entry}
    (silent : ∀ instanceId, Journal.requestsTo instanceId [entry] = []) :
    world.Resembles fixture places (alone.record entry) where
  stays := resembles.stays
  staysAlone := resembles.staysAlone.record fun instanceId _ => silent instanceId
  settings := resembles.settings
  cached := resembles.cached
  built := resembles.built
  distinct := resembles.distinct
  requests place member := by
    rw [requestsTo_record, silent, List.append_nil, resembles.requests place member]

theorem record
    (resembles : world.Resembles fixture places alone)
    {entry other : Entry}
    (silent : ∀ instanceId, Journal.requestsTo instanceId [entry] = [])
    (silentAlone : ∀ instanceId, Journal.requestsTo instanceId [other] = []) :
    (world.record entry).Resembles fixture places (alone.record other) :=
  (resembles.recordShared silent).recordAlone silentAlone

/-- Corresponding handlers are given the same request. -/
theorem serving
    (resembles : world.Resembles fixture places alone)
    {place : Place}
    (member : place ∈ places)
    (request : Request) :
    (world.record (.serving place.shared request)).Resembles fixture places
      (alone.record (.serving place.alone request)) where
  stays := resembles.stays.record fun instanceId unbuilt => by
    have different : place.shared ≠ instanceId :=
      Nat.ne_of_lt (Nat.lt_of_lt_of_le (resembles.lt_of_mem member).1 unbuilt)
    simp [Journal.requestsTo, different]
  staysAlone := resembles.staysAlone.record fun instanceId unbuilt => by
    have different : place.alone ≠ instanceId :=
      Nat.ne_of_lt (Nat.lt_of_lt_of_le (resembles.lt_of_mem member).2 unbuilt)
    simp [Journal.requestsTo, different]
  settings := resembles.settings
  cached := resembles.cached
  built := resembles.built
  distinct := resembles.distinct
  requests other memberOther := by
    have same := resembles.distinct place member other memberOther
    rw [requestsTo_record, requestsTo_record, resembles.requests other memberOther]
    by_cases isPlace : place.shared = other.shared
    · simp [Journal.requestsTo, isPlace, same.mp isPlace]
    · have notAlone : place.alone ≠ other.alone :=
        fun isAlone => isPlace (same.mpr isAlone)
      simp [Journal.requestsTo, isPlace, notAlone]

/-- The resolver is asked for the same name. -/
theorem ask
    (resembles : world.Resembles fixture places alone)
    (name : String) :
    (world.ask name).Resembles fixture places (alone.ask name) where
  stays := resembles.stays.ask name
  staysAlone := resembles.staysAlone.ask name
  settings := resembles.settings
  cached := resembles.cached
  built := resembles.built
  distinct := resembles.distinct
  requests := resembles.requests

/-- Handlers are built at a new place. -/
theorem adopt
    (resembles : world.Resembles fixture places alone)
    {name : String}
    {handler other : Handler}
    (alike : handler.Resembles served name places other)
    (made : fixture.Made name handler other) :
    (world.adopt handler).2.Resembles fixture
      (⟨world.handlers.length, alone.handlers.length, name⟩ :: places)
      (alone.adopt other).2 where
  stays := resembles.stays.adopt handler
  staysAlone := resembles.staysAlone.adopt other
  settings := resembles.settings
  cached title :=
    Handle.Counterparts.mono? (resembles.cached title) (List.subset_cons_self _ _)
  built place member := by
    rcases List.mem_cons.mp member with rfl | known
    · exact ⟨handler, other, List.getElem?_concat_length,
        List.getElem?_concat_length, alike.mono (List.subset_cons_self _ _), made⟩
    · obtain ⟨earlier, counterpart, present, presentAlone, alikeEarlier,
          madeEarlier⟩ :=
        resembles.built place known
      obtain ⟨lessShared, lessAlone⟩ := resembles.lt_of_mem known
      exact ⟨earlier, counterpart,
        (List.getElem?_append_left lessShared).trans present,
        (List.getElem?_append_left lessAlone).trans presentAlone,
        alikeEarlier.mono (List.subset_cons_self _ _), madeEarlier⟩
  distinct place member counterpart memberToo := by
    rcases List.mem_cons.mp member with rfl | known
    · rcases List.mem_cons.mp memberToo with rfl | knownToo
      · exact ⟨fun _ => rfl, fun _ => rfl⟩
      · obtain ⟨lessShared, lessAlone⟩ := resembles.lt_of_mem knownToo
        exact iff_of_false (Nat.ne_of_gt lessShared) (Nat.ne_of_gt lessAlone)
    · rcases List.mem_cons.mp memberToo with rfl | knownToo
      · obtain ⟨lessShared, lessAlone⟩ := resembles.lt_of_mem known
        exact iff_of_false (Nat.ne_of_lt lessShared) (Nat.ne_of_lt lessAlone)
      · exact resembles.distinct place known counterpart knownToo
  requests place member := by
    rcases List.mem_cons.mp member with rfl | known
    · exact (resembles.staysAlone.idle _ (Nat.le_refl _)).trans
        (resembles.stays.idle _ (Nat.le_refl _)).symm
    · exact resembles.requests place known

/-- Corresponding handles are published for the same name. -/
theorem insert
    (resembles : world.Resembles fixture places alone)
    (name : String)
    {handle other : Handle}
    (related : handle.Counterparts name places other) :
    (world.insert name handle).Resembles fixture places
      (alone.insert name other) where
  stays := resembles.stays.insert name handle
  staysAlone := resembles.staysAlone.insert name other
  settings := resembles.settings
  cached title := by
    rw [find?_insert, find?_insert]
    split
    · rename_i isName
      subst isName
      exact .some related
    · exact resembles.cached title
  built := resembles.built
  distinct := resembles.distinct
  requests := resembles.requests

end World.Resembles

/-! ## Runs in pairs -/

/--
A run has left handlers alone that are at no place, and new places are those of
handlers that it has built.
-/
structure World.Confines
    (places more : List Place)
    (world after : World) : Prop where
  wider :
    places ⊆ more
  handlers :
    world.handlers <+: after.handlers
  fresh :
    ∀ place ∈ more, place ∈ places ∨ world.handlers.length ≤ place.shared
  requests :
    ∀ instanceId,
      (∀ place ∈ more, place.shared ≠ instanceId) →
      after.requestsTo instanceId = world.requestsTo instanceId

namespace World.Confines

variable
  {places more most : List Place}
  {world middle after : World}

protected theorem refl
    (places : List Place)
    (world : World) :
    world.Confines places places world where
  wider := List.Subset.refl _
  handlers := List.prefix_rfl
  fresh _ := .inl
  requests _ _ := rfl

protected theorem trans
    (earlier : world.Confines places more middle)
    (later : middle.Confines more most after) :
    world.Confines places most after where
  wider := List.Subset.trans earlier.wider later.wider
  handlers := earlier.handlers.trans later.handlers
  fresh place member := by
    have more := earlier.handlers.length_le
    rcases later.fresh place member with known | new
    · exact earlier.fresh place known
    · exact .inr (Nat.le_trans more new)
  requests instanceId elsewhere :=
    (later.requests instanceId elsewhere).trans
      (earlier.requests instanceId fun place member =>
        elsewhere place (later.wider member))

/--
What is entered about no request, or about one to a handler at a place, stays within
bounds.
-/
theorem record
    (world : World)
    {entry : Entry}
    (silent :
      ∀ instanceId,
        (∀ place ∈ places, place.shared ≠ instanceId) →
        Journal.requestsTo instanceId [entry] = []) :
    world.Confines places places (world.record entry) where
  wider := List.Subset.refl _
  handlers := List.prefix_rfl
  fresh _ := .inl
  requests instanceId elsewhere := by
    rw [requestsTo_record, silent instanceId elsewhere, List.append_nil]

/-- A new handler is at a new place. -/
theorem adopt
    (world : World)
    (handler : Handler)
    (alone : Nat)
    (name : String) :
    world.Confines places (⟨world.handlers.length, alone, name⟩ :: places)
      (world.adopt handler).2 where
  wider := List.subset_cons_self _ _
  handlers := List.prefix_append _ _
  fresh place member := by
    rcases List.mem_cons.mp member with rfl | known
    · exact .inr (Nat.le_refl _)
    · exact .inl known
  requests _ _ := rfl

end World.Confines

/-- Two runs that have both ended, in worlds that resemble each other, or neither. -/
inductive Paired
    (fixture : Fixture served resolver directory)
    {α β : Type}
    (relates : List Place → α → β → Prop)
    (places : List Place)
    (world : World) :
    Option (α × World) → Option (β × World) → Prop
  | neither :
      Paired fixture relates places world none none
  | both
      {more : List Place}
      {answer : α}
      {other : β}
      {after alone : World}
      (confines : world.Confines places more after)
      (resembles : after.Resembles fixture more alone)
      (related : relates more answer other) :
      Paired fixture relates places world (some (answer, after))
        (some (other, alone))

/-- Two runs that go in pairs from any worlds that resemble each other. -/
def Run.Paired
    (fixture : Fixture served resolver directory)
    {α β : Type}
    (relates : List Place → α → β → Prop)
    (places : List Place)
    (run : Run α)
    (other : Run β) : Prop :=
  ∀ ⦃more world alone⦄,
    places ⊆ more →
    world.Resembles fixture more alone →
    Dispatch.Paired fixture relates more world (run world) (other alone)

namespace Run.Paired

variable
  {fixture : Fixture served resolver directory}
  {α β γ δ : Type}
  {relates : List Place → α → β → Prop}
  {ends : List Place → γ → δ → Prop}
  {places : List Place}

/-- Answers that are related wherever there are at least the given places. -/
theorem pure
    {answer : α}
    {other : β}
    (related : ∀ more, places ⊆ more → relates more answer other) :
    Run.Paired fixture relates places (Pure.pure answer) (Pure.pure other) :=
  fun more world _ wider resembles =>
    .both (.refl more world) resembles (related more wider)

/-- Sequences go in pairs if both of their parts do. -/
theorem bind
    {run : Run α}
    {other : Run β}
    {next : α → Run γ}
    {others : β → Run δ}
    (first : Run.Paired fixture relates places run other)
    (second :
      ∀ more,
        places ⊆ more →
        ∀ value counterpart,
          relates more value counterpart →
          Run.Paired fixture ends more (next value) (others counterpart)) :
    Run.Paired fixture ends places (run >>= next) (other >>= others) := by
  intro more world alone wider resembles
  have paired := first wider resembles
  change Dispatch.Paired fixture ends more world
    ((run world).bind fun found => next found.1 found.2)
    ((other alone).bind fun found => others found.1 found.2)
  generalize run world = result at paired
  generalize other alone = counterpart at paired
  cases paired with
  | neither =>
      exact .neither
  | @both most value counterpart middle middleAlone confines
      resemblesMiddle related =>
      have widest := List.Subset.trans wider confines.wider
      have pairedNext :=
        second most widest value counterpart related (List.Subset.refl _)
          resemblesMiddle
      change Dispatch.Paired fixture ends more world
        (next value middle) (others counterpart middleAlone)
      generalize next value middle = result at pairedNext
      generalize others counterpart middleAlone = ended at pairedNext
      cases pairedNext with
      | neither =>
          exact .neither
      | both confinesNext resemblesNext relatedNext =>
          exact .both (confines.trans confinesNext) resemblesNext relatedNext

/-- Mapped runs go in pairs. -/
theorem map
    {run : Run α}
    {other : Run β}
    {change : α → γ}
    {changeOther : β → δ}
    (first : Run.Paired fixture relates places run other)
    (second :
      ∀ more value counterpart,
        relates more value counterpart →
        ends more (change value) (changeOther counterpart)) :
    Run.Paired fixture ends places (change <$> run) (changeOther <$> other) := by
  intro more world alone wider resembles
  have paired := first wider resembles
  change Dispatch.Paired fixture ends more world
    ((run world).bind fun found => some (change found.1, found.2))
    ((other alone).bind fun found => some (changeOther found.1, found.2))
  generalize run world = result at paired
  generalize other alone = counterpart at paired
  cases paired with
  | neither =>
      exact .neither
  | both confines resemblesAfter related =>
      exact .both confines resemblesAfter (second _ _ _ related)

theorem mono
    {run : Run α}
    {other : Run β}
    {more : List Place}
    (paired : Run.Paired fixture relates places run other)
    (wider : places ⊆ more) :
    Run.Paired fixture relates more run other :=
  fun _ _ _ widest resembles => paired (List.Subset.trans wider widest) resembles

/-- Entries about no request are made in pairs. -/
theorem record
    {entry other : Entry}
    (silent : ∀ instanceId, Journal.requestsTo instanceId [entry] = [])
    (silentAlone : ∀ instanceId, Journal.requestsTo instanceId [other] = []) :
    Run.Paired fixture (fun _ _ _ => True) places (Run.record entry)
        (Run.record other) :=
  fun _ world _ _ resembles =>
    .both (.record world fun instanceId _ => silent instanceId)
      (resembles.record silent silentAlone) trivial

/-- Settings are the same in worlds that resemble each other. -/
theorem readSettings
    {next : Settings → Run α}
    {others : Settings → Run β}
    (onward :
      ∀ settings,
        Run.Paired fixture relates places (next settings) (others settings)) :
    Run.Paired fixture relates places
      (Run.world >>= fun world => next world.registry.settings)
      (Run.world >>= fun world => others world.registry.settings) := by
  intro more world alone wider resembles
  rw [Run.world_bind_apply, Run.world_bind_apply, resembles.settings]
  exact onward world.registry.settings wider resembles

end Run.Paired

/-- Calls that go in pairs: for the same names, and to corresponding handlers. -/
structure Calls.Paired
    (fixture : Fixture served resolver directory)
    (calls : Calls) : Prop where
  resolve :
    ∀ name strict,
      Run.Paired fixture
        (fun places => Resolution.Alike (Handle.Counterparts name places)) []
        (calls.resolve name strict) (calls.resolve name strict)
  serve :
    ∀ place request,
      served place.name →
      Run.Paired fixture (fun _ => Eq) [place]
        (calls.serve place.shared request) (calls.serve place.alone request)

/-- Handles that resemble each other are given requests in pairs. -/
theorem Calls.Paired.serveHandles
    {fixture : Fixture served resolver directory}
    {calls : Calls}
    (paired : calls.Paired fixture)
    {places : List Place}
    {handle other : Handle}
    (resembles : handle.Resembles places other)
    (isServed : served handle.schemeName)
    (request : Request) :
    Run.Paired fixture (fun _ => Eq) places
      (calls.serve handle.instanceId request)
          (calls.serve other.instanceId request) := by
  have passed :=
    paired.serve ⟨handle.instanceId, other.instanceId, handle.schemeName⟩
      request isServed
  exact passed.mono (List.cons_subset.mpr ⟨resembles.1, List.nil_subset _⟩)

/--
Two endings of scripts: with handlers that resemble each other, the same value, or
failures.
-/
inductive Script.Ending
    (served : String → Prop)
    (name : String) :
    (role : Role) →
    List Place →
    Except Failure role.Product →
    Except Failure role.Product →
    Prop
  | built
      {places : List Place}
      {handler other : Handler}
      (alike : handler.Resembles served name places other) :
      Ending served name .construct places (.ok handler) (.ok other)
  | answered
      {places : List Place}
      {value : Value} :
      Ending served name .serve places (.ok value) (.ok value)
  | failed
      {role : Role}
      {places : List Place}
      {failure other : Failure}
      (same : role = .serve → failure = other) :
      Ending served name role places (.error failure) (.error other)

/-- Work on a request ends in the same outcome. -/
theorem Script.Ending.eq
    {name : String}
    {places : List Place}
    {outcome other : Except Failure Value}
    (ending : Script.Ending served name .serve places outcome other) :
    outcome = other := by
  cases ending with
  | answered => rfl
  | failed same => exact congrArg Except.error (same rfl)

variable
  {fixture : Fixture served resolver directory}
  {calls : Calls}

/-- Scripts that resemble each other go in pairs. -/
theorem Script.Resembles.run
    (paired : calls.Paired fixture)
    {name : String}
    {role : Role}
    {places : List Place}
    {script other : Script role}
    (resembles : script.Resembles served name places other) :
    Run.Paired fixture (Script.Ending served name role) places
      (script.run calls) (other.run calls) := by
  induction resembles with
  | build alike _ =>
      exact .pure fun more wider => .built (Handler.Resembles.mono alike wider)
  | answer =>
      exact .pure fun _ _ => .answered
  | fail same =>
      exact .pure fun _ _ => .failed same
  | resolve _ inductionHypothesis =>
      exact ((paired.resolve _ _).mono (List.nil_subset _)).bind inductionHypothesis
  | call isServed resembles _ inductionHypothesis =>
      refine (paired.serveHandles resembles isServed _).bind ?_
      rintro more wider outcome _ rfl
      exact inductionHypothesis more wider outcome
  | readSettings _ inductionHypothesis =>
      exact .readSettings inductionHypothesis
  | note _ inductionHypothesis =>
      exact (Run.Paired.record (fun _ => rfl) fun _ => rfl).bind
        fun more wider _ _ _ => inductionHypothesis.mono wider

end

end Dispatch
