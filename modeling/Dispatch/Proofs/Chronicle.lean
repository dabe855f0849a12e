import Dispatch.Handler.Stock
import Dispatch.Proofs.Preservation

namespace Dispatch

/-!
# What a registry tells

Every resolve call for a name reports how it has ended.  `Journal.Orderly` is
the form of the journals that calls on one registry leave, each call standing
where the one is that it was made in.  `World.Tells` ties such a journal to the
cache and to the names that the resolver was asked for; it holds across every
run, whatever constructors and handlers do in its midst.
-/

/-- How a resolve call for a name has ended. -/
inductive Outcome
  | hit
  | unbound
  | lookupFailed
  | constructionFailed
  | discarded
  | published
deriving Repr, DecidableEq

namespace Outcome

/-- The call has obtained a handle. -/
def resolves : Outcome → Bool
  | hit => true
  | discarded => true
  | published => true
  | _ => false

/--
Whether the construction that the call has made gave a handler, if it made one.
-/
def built? : Outcome → Option Bool
  | constructionFailed => some false
  | discarded => some true
  | published => some true
  | _ => none

end Outcome

/-- The outcome that an event reports, with the name that was resolved. -/
def Event.outcome? : Event → Option (Outcome × String)
  | .cacheHit name => some (.hit, name)
  | .unbound name => some (.unbound, name)
  | .lookupFailed name _ => some (.lookupFailed, name)
  | .constructionFailed name _ => some (.constructionFailed, name)
  | .duplicateDiscarded name => some (.discarded, name)
  | .published name => some (.published, name)
  | _ => none

namespace Entry

/-- The outcome that an entry reports, with the name that was resolved. -/
def outcome? : Entry → Option (Outcome × String)
  | .emitted event => event.outcome?
  | _ => none

/--
An entry that tells nothing about a resolve call but what may happen in its midst.
-/
def isAside : Entry → Bool
  | .called _ => false
  | .returned _ _ => false
  | .instantiated _ _ => false
  | .emitted event => event.outcome?.isNone
  | _ => true

end Entry

namespace Journal

/-- The outcomes that were reported. -/
def outcomes
    (journal : Journal) : List (Outcome × String) :=
  journal.filterMap Entry.outcome?

/-- How often an outcome was reported. -/
def tally
    (journal : Journal)
    (outcome : Outcome) : Nat :=
  journal.outcomes.countP fun reported => reported.1 = outcome

/-- The names that were published. -/
def published
    (journal : Journal) : List String :=
  (journal.outcomes.filter fun reported => reported.1 = .published).map Prod.snd

/-- The names that calls have looked up. -/
def lookedUp
    (journal : Journal) : List String :=
  (journal.outcomes.filter fun reported => reported.1 ≠ .hit).map Prod.snd

@[simp] theorem outcomes_append
    (first second : Journal) :
    outcomes (first ++ second) = first.outcomes ++ second.outcomes :=
  List.filterMap_append

@[simp] theorem published_append
    (first second : Journal) :
    published (first ++ second) = first.published ++ second.published := by
  simp [published]

@[simp] theorem lookedUp_append
    (first second : Journal) :
    lookedUp (first ++ second) = first.lookedUp ++ second.lookedUp := by
  simp [lookedUp]

theorem outcomes_aside
    {entry : Entry}
    (aside : entry.isAside = true) :
    entry.outcome? = none := by
  cases entry with
  | emitted event =>
      exact Option.isNone_iff_eq_none.mp aside
  | _ =>
      rfl

/--
The journal of a call that has run a constructor, with what happened in its midst.
-/
def ofConstructor
    (name : String)
    (serial : Nat)
    (typeName : String)
    (index : Option Nat)
    (inner : Journal)
    (report : Event)
    (handle : Option Handle) : Journal :=
  [.called name, .constructing serial typeName index] ++ inner ++
    [.instantiated name handle.isSome, .emitted report, .returned name handle]

theorem outcomes_ofConstructor
    {name typeName : String}
    {serial : Nat}
    {index : Option Nat}
    {inner : Journal}
    {report : Event}
    {handle : Option Handle}
    {outcome : Outcome}
    (reports : report.outcome? = some (outcome, name)) :
    outcomes (ofConstructor name serial typeName index inner report handle) =
      inner.outcomes ++ [(outcome, name)] := by
  rw [ofConstructor, outcomes_append, outcomes_append]
  simp [outcomes, List.filterMap_cons, Entry.outcome?, reports]

theorem published_ofConstructor
    {name typeName : String}
    {serial : Nat}
    {index : Option Nat}
    {inner : Journal}
    {report : Event}
    {handle : Option Handle}
    {outcome : Outcome}
    (reports : report.outcome? = some (outcome, name)) :
    published (ofConstructor name serial typeName index inner report handle) =
      inner.published ++ if outcome = .published then [name] else [] := by
  by_cases publishes : outcome = .published
  · simp [published, outcomes_ofConstructor reports, publishes]
  · simp [published, outcomes_ofConstructor reports, publishes]

/--
The journals of calls on one registry, given the names that had handles before.
A call may stand within another one only after a constructor was started for it
and before its construction has ended.
-/
inductive Orderly : List String → Journal → Prop
  | nil
      {known : List String} :
      Orderly known []
  | aside
      {known : List String}
      {entry : Entry}
      (aside : entry.isAside = true) :
      Orderly known [entry]
  | append
      {known : List String}
      {first second : Journal}
      (earlier : Orderly known first)
      (later : Orderly (known ++ first.published) second) :
      Orderly known (first ++ second)
  | cached
      {known : List String}
      {name : String}
      {handle : Handle}
      (isKnown : name ∈ known) :
      Orderly known
        [.called name, .emitted (.cacheHit name), .returned name (some handle)]
  | nameless
      {known : List String} :
      Orderly known [.called "", .returned "" none]
  | unbound
      {known : List String}
      {name : String}
      (named : name ≠ "")
      (unknown : name ∉ known) :
      Orderly known
        [.called name, .emitted (.unbound name), .returned name none]
  | lookupFailed
      {known : List String}
      {name : String}
      {failure : LookupFailure}
      (named : name ≠ "")
      (unknown : name ∉ known) :
      Orderly known
        [.called name, .emitted (.lookupFailed name failure), .returned name none]
  | abstract
      {known : List String}
      {name typeName : String}
      (named : name ≠ "")
      (unknown : name ∉ known) :
      Orderly known
        [.called name, .instantiated name false,
          .emitted (.constructionFailed name (.abstract typeName)),
          .returned name none]
  | constructionFailed
      {known : List String}
      {name typeName : String}
      {serial : Nat}
      {index : Option Nat}
      {inner : Journal}
      {failure : ConstructionFailure}
      (named : name ≠ "")
      (unknown : name ∉ known)
      (inside : Orderly known inner) :
      Orderly known
        (ofConstructor name serial typeName index inner
          (.constructionFailed name failure) none)
  | published
      {known : List String}
      {name typeName : String}
      {serial : Nat}
      {index : Option Nat}
      {inner : Journal}
      {handle : Handle}
      (named : name ≠ "")
      (unknown : name ∉ known)
      (inside : Orderly known inner)
      (unpublished : name ∉ inner.published) :
      Orderly known
        (ofConstructor name serial typeName index inner
          (.published name) (some handle))
  | discarded
      {known : List String}
      {name typeName : String}
      {serial : Nat}
      {index : Option Nat}
      {inner : Journal}
      {handle : Handle}
      (named : name ≠ "")
      (unknown : name ∉ known)
      (inside : Orderly known inner)
      (meanwhile : name ∈ inner.published) :
      Orderly known
        (ofConstructor name serial typeName index inner
          (.duplicateDiscarded name) (some handle))

end Journal

namespace Table

variable {α : Type}

theorem find?_eq_none_iff
    {table : Table α}
    {name : String} :
    table.find? name = none ↔ name ∉ table.names := by
  rw [← contains_iff_mem_names, contains, Option.not_isSome_iff_eq_none]

theorem mem_names_of_find?
    {table : Table α}
    {name : String}
    {value : α}
    (found : table.find? name = some value) :
    name ∈ table.names := by
  rw [← contains_iff_mem_names, contains, found]
  rfl

theorem names_set_of_find?_eq_none
    {table : Table α}
    {name : String}
    (missing : table.find? name = none)
    (value : α) :
    (table.set name value).names = table.names ++ [name] := by
  have absent : name ∉ Association.names table.entries :=
    find?_eq_none_iff.mp missing
  rw [names, set, Association.names_set, if_neg absent]
  rfl

end Table

/-- What happened between two worlds, told by the journal, and what it has left. -/
structure World.Tells
    (before : World)
    (happened : Journal)
    (after : World) : Prop where
  journal :
    after.journal = before.journal ++ happened
  orderly :
    happened.Orderly before.registry.cache.names
  cached :
    after.registry.cache.names = before.registry.cache.names ++ happened.published
  asked :
    after.directory.asked.Perm (before.directory.asked ++ happened.lookedUp)

namespace World

namespace Tells

open Journal

variable
  {before middle after world built : World}
  {happened earlier later inner : Journal}
  {name : String}

/-- Nothing happened. -/
protected theorem refl
    (world : World) :
    world.Tells [] world where
  journal := (List.append_nil _).symm
  orderly := .nil
  cached := (List.append_nil _).symm
  asked := by simp [lookedUp, outcomes]

protected theorem append
    (first : before.Tells earlier middle)
    (second : middle.Tells later after) :
    before.Tells (earlier ++ later) after where
  journal := by
    rw [second.journal, first.journal, List.append_assoc]
  orderly := .append first.orderly (first.cached ▸ second.orderly)
  cached := by
    rw [second.cached, first.cached, published_append, List.append_assoc]
  asked := by
    rw [lookedUp_append, ← List.append_assoc]
    exact second.asked.trans (first.asked.append_right _)

theorem aside
    (world : World)
    {entry : Entry}
    (aside : entry.isAside = true) :
    world.Tells [entry] (world.record entry) where
  journal := journal_record world entry
  orderly := .aside aside
  cached := by
    have untold : published [entry] = [] := by
      simp [published, outcomes, outcomes_aside aside]
    rw [untold]
    exact (List.append_nil _).symm
  asked := by
    have unasked : lookedUp [entry] = [] := by
      simp [lookedUp, outcomes, outcomes_aside aside]
    rw [unasked]
    exact .of_eq (List.append_nil _).symm

/-- The journal says nothing about the directory but who was asked for. -/
theorem ofDirectory
    (tells : before.Tells happened after)
    {directory : Directory}
    (asked : directory.asked = after.directory.asked) :
    before.Tells happened { after with directory := directory } where
  journal := tells.journal
  orderly := tells.orderly
  cached := tells.cached
  asked := asked ▸ tells.asked

/-! ## Resolve calls that construct -/

section

variable
  {typeName : String}
  {serial : Nat}
  {index : Option Nat}
  {failure : ConstructionFailure}
  {handler : Handler}

/-- A call that has run a constructor has looked its name up before. -/
theorem ofConstructor
    (inside : (world.opened name serial typeName index).Tells inner built)
    (report : Event)
    (handle : Option Handle)
    {outcome : Outcome}
    (reports : report.outcome? = some (outcome, name))
    (constructs : outcome ≠ .hit)
    (orderly :
      (Journal.ofConstructor name serial typeName index inner report handle).Orderly
        world.registry.cache.names)
    (journal :
      after.journal =
        built.journal ++
          [.instantiated name handle.isSome, .emitted report, .returned name handle])
    (cached :
      after.registry.cache.names =
        built.registry.cache.names ++ if outcome = .published then [name] else [])
    (directory : after.directory = built.directory) :
    world.Tells
      (Journal.ofConstructor name serial typeName index inner report handle)
      after where
  journal := by
    rw [journal, inside.journal, journal_opened]
    simp [Journal.ofConstructor]
  orderly := orderly
  cached := by
    have builtCached : built.registry.cache.names =
        world.registry.cache.names ++ inner.published := inside.cached
    rw [cached, builtCached, published_ofConstructor reports, List.append_assoc]
  asked := by
    have builtAsked : built.directory.asked.Perm
        (world.directory.asked ++ [name] ++ inner.lookedUp) := inside.asked
    have lookedUp :
        (Journal.ofConstructor name serial typeName index inner report
          handle).lookedUp =
          inner.lookedUp ++ [name] := by
      simp [Journal.lookedUp, outcomes_ofConstructor reports, constructs]
    rw [directory, lookedUp]
    rw [List.append_assoc] at builtAsked
    exact builtAsked.trans (List.perm_append_comm.append_left _)

/-- Either no constructor was started or what follows its start is told. -/
theorem of_constructed
    {binding : Binding}
    {outcome : Except ConstructionFailure Handler}
    (constructed :
      Constructed
        (Runs.keeping fun before after => ∃ happened, before.Tells happened after)
        binding ((world.record (.called name)).ask name) outcome built) :
    (∃ typeName,
        outcome = .error (.abstract typeName) ∧
          built = (world.record (.called name)).ask name) ∨
      ∃ serial typeName index inner,
        (world.opened name serial typeName index).Tells inner built := by
  cases constructed with
  | abstract isAbstract =>
      exact .inl ⟨_, rfl, rfl⟩
  | plain isPlain =>
      exact .inr ⟨_, _, _, [], .refl _⟩
  | factory isFactory ran =>
      obtain ⟨inner, inside⟩ := ran
      exact .inr ⟨_, _, _, inner, inside⟩

end

/-- A finished call tells of itself and of what happened in its midst. -/
theorem resolved
    {resolver : Resolver}
    {ended : World}
    {handle : Option Handle}
    (resolved :
      Resolved resolver
        (Constructed
          (Runs.keeping fun before after => ∃ happened, before.Tells happened after))
        name (world.record (.called name)) handle ended) :
    ∃ happened, world.Tells happened (ended.record (.returned name handle)) := by
  cases resolved with
  | @cached found present =>
      have isKnown := Table.mem_names_of_find? present
      refine ⟨[.called name, .emitted (.cacheHit name), .returned name (some found)],
        ?_, .cached isKnown, ?_, ?_⟩
      · simp
      · exact (List.append_nil _).symm
      · exact .of_eq (List.append_nil _).symm
  | nameless missed empty =>
      subst empty
      refine ⟨_, ?_, .nameless, ?_, ?_⟩
      · simp
      · exact (List.append_nil _).symm
      · exact .of_eq (List.append_nil _).symm
  | unbound missed named answer =>
      have unknown := Table.find?_eq_none_iff.mp missed
      refine ⟨_, ?_, .unbound named unknown, ?_, .refl _⟩
      · simp
      · exact (List.append_nil _).symm
  | @lookupFailed failure missed named answer =>
      have unknown := Table.find?_eq_none_iff.mp missed
      refine ⟨[.called name, .emitted (.lookupFailed name failure),
        .returned name none], ?_, .lookupFailed named unknown, ?_, .refl _⟩
      · simp
      · exact (List.append_nil _).symm
  | @constructionFailed _ _ failure missed named answer construction =>
      have unknown := Table.find?_eq_none_iff.mp missed
      rcases of_constructed construction with
        ⟨typeName, failed, rfl⟩ | ⟨serial, typeName, index, inner, inside⟩
      · cases failed
        refine ⟨[.called name, .instantiated name false,
            .emitted (.constructionFailed name (.abstract typeName)),
            .returned name none],
          ?_, .abstract named unknown, ?_, .refl _⟩
        · simp
        · exact (List.append_nil _).symm
      · refine ⟨_, inside.ofConstructor (.constructionFailed name failure) none
          rfl (by decide)
            (.constructionFailed named unknown inside.orderly) ?_ ?_ rfl⟩
        · simp
        · exact (List.append_nil _).symm
  | @published built _ handler missed named answer construction unpublished =>
      have unknown := Table.find?_eq_none_iff.mp missed
      rcases of_constructed construction with
        ⟨_, failed, _⟩ | ⟨serial, typeName, index, inner, inside⟩
      · cases failed
      · have unpublishedYet :
            (built.settle name (.ok handler)).2.registry.cache.find? name =
                none := by
          rwa [settle_registry]
        have notWithin : name ∉ inner.published := by
          have notBuilt := Table.find?_eq_none_iff.mp unpublished
          rw [inside.cached, List.mem_append, not_or] at notBuilt
          exact notBuilt.2
        refine ⟨_, inside.ofConstructor (.published name)
          (some ⟨name, built.handlers.length⟩)
          rfl (by decide)
            (.published named unknown inside.orderly notWithin) ?_ ?_ rfl⟩
        · rw [journal_record, journal_emit]
          change (World.settle _ _ _).2.journal ++ _ ++ _ = _
          rw [settle_ok_journal]
          simp
        · exact Table.names_set_of_find?_eq_none unpublishedYet _
  | @discarded built _ handler existing missed named answer construction present =>
      have unknown := Table.find?_eq_none_iff.mp missed
      rcases of_constructed construction with
        ⟨_, failed, _⟩ | ⟨serial, typeName, index, inner, inside⟩
      · cases failed
      · have meanwhile : name ∈ inner.published := by
          have inBuilt := Table.mem_names_of_find? present
          rw [inside.cached, List.mem_append] at inBuilt
          exact inBuilt.resolve_left unknown
        refine ⟨_, inside.ofConstructor (.duplicateDiscarded name) (some existing)
          rfl (by decide)
            (.discarded named unknown inside.orderly meanwhile) ?_ ?_ rfl⟩
        · rw [journal_record, journal_emit, settle_ok_journal]
          simp
        · exact (List.append_nil _).symm

/-- Every run tells what happened in it. -/
theorem stable :
    Stable fun before after => ∃ happened, before.Tells happened after where
  refl world := ⟨[], .refl world⟩
  trans := by
    rintro first second third ⟨earlier, tellsEarlier⟩ ⟨later, tellsLater⟩
    exact ⟨_, tellsEarlier.append tellsLater⟩
  noted world remark := ⟨_, .aside world rfl⟩
  registered world name descriptor :=
    ⟨_, ((aside world rfl).append (aside _ rfl)).ofDirectory rfl⟩
  unregistered world name := ⟨_, (aside world rfl).ofDirectory rfl⟩
  broken world _ _ := ⟨_, (Tells.refl world).ofDirectory rfl⟩
  healed world _ := ⟨_, (Tells.refl world).ofDirectory rfl⟩
  served := by
    rintro world after instanceId request outcome ⟨inner, inside⟩
    exact ⟨_, ((aside world rfl).append inside).append (aside after rfl)⟩
  resolved := resolved

end Tells

/--
After any run on a fresh registry the whole journal is orderly; it names what is
cached, in this order, and what the resolver was asked for.
-/
theorem orderly_of_history
    {resolver : Resolver}
    {depth : Nat}
    {settings : Settings}
    {history : List Operation}
    {answers : List Answer}
    {world : World}
    (performed :
      Operation.performAll (Calls.nested resolver depth) history
          (World.create settings) =
        some (answers, world)) :
    world.journal.Orderly [] ∧
      world.registry.cache.names = world.journal.published ∧
      world.directory.asked.Perm world.journal.lookedUp := by
  obtain ⟨happened, tells⟩ :=
    Tells.stable.performAll (Tells.stable.nested resolver depth) history performed
  rw [tells.journal]
  exact ⟨.append (.aside rfl) tells.orderly, tells.cached, tells.asked⟩

end World

/--
A history in which calls end in every way.  The first construction of `outer`
comes too late, that of `hasty` fails after another one has published.
-/
def bustle : List Operation :=
  [.register "inner" (.plain "Inner" .null),
    .register "outer"
      (.factory "Outer" fun index =>
        .resolve "inner" true fun _ =>
          .resolve "" false fun _ =>
            if index = 0 then
              .resolve "outer" false fun _ => .build .null
            else
              .build .null),
    .register "hasty"
      (.factory "Hasty" fun index =>
        if index = 0 then
          .resolve "hasty" false fun _ => .fail (.single "too late")
        else
          .build .null),
    .register "idea" (.abstract "Idea"),
    .breakLookup "lost" "gone",
    .resolve "outer" true,
    .resolveOrNone "hasty",
    .resolveStrict "idea",
    .resolve "lost" false,
    .find "missing",
    .resolveOrNone "hasty"]

end Dispatch
