import Dispatch.Session
import Dispatch.Proofs.CacheIntegrity

namespace Dispatch

/-!
# Registries side by side

Several registries share a resolver, a type table and the handlers built so far.
An errand is something done with one of them; a list of errands is any way in
which the uses of several registries may follow one another.  Whatever is done
with one registry leaves the others as they are, and no two of them ever hold the
same handler.
-/

/-- What a user of a registry does. -/
inductive Deed
  /-- Performs an operation. -/
  | operate (operation : Operation)
  /--
  Passes a request to the handle kept for a name, if the name has been resolved.
  -/
  | pass (name : String) (request : Request)

/-- Does it. -/
def Deed.perform
    (deed : Deed)
    (calls : Calls) : Run Answer :=
  match deed with
  | operate operation =>
      operation.perform calls
  | pass name request => do
      let world ← Run.world
      match world.registry.cache.find? name with
      | some handle =>
          (Operation.serve handle request).perform calls
      | none =>
          return .done

/-- Something done with the registry of a number. -/
structure Errand where
  registry : Nat
  deed : Deed

namespace Session

/-- Runs an errand. -/
def runOn
    (session : Session)
    (errand : Errand) : Option (Answer × Session) :=
  (session.useRegistry errand.registry).2.run errand.deed.perform

/-- Runs errands one after another. -/
def runAll
    (session : Session) :
    List Errand → Option (List Answer × Session)
  | [] =>
      some ([], session)
  | errand :: rest => do
      let (answer, middle) ← session.runOn errand
      let (answers, after) ← middle.runAll rest
      return (answer :: answers, after)

/-- The world around a registry. -/
def around
    (session : Session)
    (registry : Registry) : World :=
  { session.world with registry := registry }

/-- The session once a registry has been left in a world. -/
def left
    (session : Session)
    (index : Nat)
    (world : World) : Session :=
  { session with
    world := world
    registries := session.stored
    current := index }

variable
  {session after : Session}
  {errand : Errand}
  {registry : Registry}
  {answer : Answer}

theorem stored_left
    (session : Session)
    (index : Nat)
    (world : World) :
    (session.left index world).stored = session.stored.set index world.registry :=
  rfl

/-- An errand runs in the world around its registry. -/
theorem runOn_eq
    (present : session.stored[errand.registry]? = some registry) :
    session.runOn errand =
      (errand.deed.perform session.calls (session.around registry)).map
        fun (answer, world) => (answer, session.left errand.registry world) := by
  simp only [runOn, useRegistry, present]
  rfl

/-- An errand that has been run has been run in the world around its registry. -/
theorem runOn_eq_some_iff
    (present : session.stored[errand.registry]? = some registry) :
    session.runOn errand = some (answer, after) ↔
      ∃ world,
        errand.deed.perform session.calls (session.around registry) =
            some (answer, world) ∧
          after = session.left errand.registry world := by
  rw [runOn_eq present, Option.map_eq_some_iff]
  constructor
  · rintro ⟨⟨_, world⟩, performed, same⟩
    cases same
    exact ⟨world, performed, rfl⟩
  · rintro ⟨world, performed, rfl⟩
    exact ⟨(answer, world), performed, rfl⟩

/-- Errands that have been run consist of the first and of the others. -/
theorem runAll_cons_eq_some_iff
    {rest : List Errand}
    {answers : List Answer} :
    session.runAll (errand :: rest) = some (answers, after) ↔
      ∃ answer middle others,
        session.runOn errand = some (answer, middle) ∧
          middle.runAll rest = some (others, after) ∧
          answers = answer :: others := by
  simp only [runAll, Option.bind_eq_bind, Option.bind_eq_some_iff]
  constructor
  · rintro ⟨⟨answer, middle⟩, ran, ⟨others, _⟩, ranRest, same⟩
    cases same
    exact ⟨answer, middle, others, ran, ranRest, rfl⟩
  · rintro ⟨answer, middle, others, ran, ranRest, rfl⟩
    exact ⟨(answer, middle), ran, (others, after), ranRest, rfl⟩

/-- Errands do not end if the first one does not, or one of the others after it. -/
theorem runAll_cons_eq_none_iff
    {rest : List Errand} :
    session.runAll (errand :: rest) = none ↔
      session.runOn errand = none ∨
        ∃ answer middle,
          session.runOn errand = some (answer, middle) ∧
              middle.runAll rest = none := by
  constructor
  · intro stuck
    cases ran : session.runOn errand with
    | none =>
        exact .inl rfl
    | some result =>
        obtain ⟨answer, middle⟩ := result
        refine .inr ⟨answer, middle, rfl, ?_⟩
        cases ranRest : middle.runAll rest with
        | none =>
            rfl
        | some ended =>
            have finished :=
              runAll_cons_eq_some_iff.mpr ⟨answer, middle, _, ran, ranRest, rfl⟩
            rw [stuck] at finished
            cases finished
  · rintro (stuck | ⟨answer, middle, ran, stuck⟩)
    · simp [runAll, stuck]
    · simp [runAll, ran, stuck]

/-- An errand changes the registry it goes to, and no other. -/
theorem stored_of_runOn
    (within : errand.registry < session.stored.length)
    (ran : session.runOn errand = some (answer, after)) :
    after.stored = session.stored.set errand.registry after.world.registry := by
  obtain ⟨world, -, rfl⟩ :=
    (runOn_eq_some_iff (List.getElem?_eq_getElem within)).mp ran
  exact stored_left session errand.registry world

end Session

/-! ## What is added to a cache -/

/-- A deed keeps what operations keep. -/
theorem Firm.deed
    {relation : World → World → Prop}
    {calls : Calls}
    (firm : Firm relation)
    (kept : calls.Keep relation)
    (deed : Deed) :
    (deed.perform calls).Keeps relation := by
  cases deed with
  | operate operation =>
      exact firm.perform kept operation
  | pass name request =>
      intro world answer after finished
      simp only [Deed.perform, Run.world_bind_apply] at finished
      cases found : world.registry.cache.find? name with
      | some handle =>
          rw [found] at finished
          exact firm.perform kept _ finished
      | none =>
          rw [found] at finished
          cases finished
          exact firm.refl world

/-- What a deed hands out is in the cache. -/
theorem Deed.cached_of_handle?
    {deed : Deed}
    {resolver : Resolver}
    {depth : Nat}
    {world after : World}
    {answer : Answer}
    {found : Handle}
    (performed :
      deed.perform (Calls.nested resolver depth) world = some (answer, after))
    (handed : answer.handle? = some found) :
    ∃ name, after.registry.cache.find? name = some found := by
  cases deed with
  | operate operation =>
      obtain ⟨name, -, cached⟩ := Operation.cached_of_handle? performed handed
      exact ⟨name, cached⟩
  | pass name request =>
      simp only [Deed.perform, Run.world_bind_apply] at performed
      cases known : world.registry.cache.find? name with
      | some handle =>
          rw [known] at performed
          obtain ⟨title, -, cached⟩ := Operation.cached_of_handle? performed handed
          exact ⟨title, cached⟩
      | none =>
          rw [known] at performed
          cases performed
          cases handed

namespace World

/--
Worlds that follow one another: whatever was cached meanwhile is a handler built
meanwhile.
-/
structure Adds (before after : World) : Prop where
  grows :
    before.Grows after
  added :
    ∀ {name handle},
      after.registry.cache.find? name = some handle →
      before.registry.cache.find? name = some handle ∨
        before.handlers.length ≤ handle.instanceId ∧
          handle.instanceId < after.handlers.length

namespace Adds

protected theorem refl
    (world : World) :
    world.Adds world :=
  ⟨.refl world, .inl⟩

protected theorem trans
    {first second third : World}
    (earlier : first.Adds second)
    (later : second.Adds third) :
    first.Adds third := by
  refine ⟨earlier.grows.trans later.grows, ?_⟩
  intro name handle cached
  have fewer := earlier.grows.handlers.length_le
  have more := later.grows.handlers.length_le
  rcases later.added cached with known | ⟨new, built⟩
  · rcases earlier.added known with known | ⟨new, built⟩
    · exact .inl known
    · exact .inr ⟨new, by omega⟩
  · exact .inr ⟨by omega, built⟩

/-- What leaves the cache alone adds nothing to it. -/
theorem ofCache
    {before after : World}
    (grows : before.Grows after)
    (same : after.registry.cache = before.registry.cache) :
    before.Adds after := by
  refine ⟨grows, ?_⟩
  intro name handle cached
  rw [same] at cached
  exact .inl cached

theorem record
    (world : World)
    (entry : Entry) :
    world.Adds (world.record entry) :=
  ofCache (.record world entry) rfl

/-- A new handler is published under a number of its own. -/
theorem publish
    {world : World}
    {name : String}
    (unpublished : world.registry.cache.find? name = none)
    (handler : Handler) :
    world.Adds
      ((world.settle name (.ok handler)).2.insert name
          ⟨name, world.handlers.length⟩) := by
  refine ⟨Grows.gradual.published unpublished handler, ?_⟩
  intro other handle cached
  rw [find?_insert, settle_registry] at cached
  split at cached
  · cases cached
    refine .inr ⟨Nat.le_refl _, ?_⟩
    change world.handlers.length < (world.handlers ++ [handler]).length
    simp
  · exact .inl cached

/-- Every single step adds only what it has built. -/
theorem gradual : Gradual World.Adds where
  refl := .refl
  trans _ _ _ := .trans
  recorded world entry _ := record world entry
  redirected world directory := ofCache (.ofDirectory world directory) rfl
  settled world name outcome :=
    ofCache (.settle world name outcome) (by rw [settle_registry])
  published := publish

/-- Every run adds only what it has built. -/
theorem stable : Stable World.Adds where
  toFirm := gradual.firm
  served _ _ _ work := ((record _ _).trans work).trans (record _ _)

end Adds

end World

/-! ## No handler in two registries -/

namespace Session

/-- The registry of a number has handed out a handle: it has it in its cache. -/
def Holds
    (session : Session)
    (index : Nat)
    (handle : Handle) : Prop :=
  ∃ registry name,
    session.stored[index]? = some registry ∧
      registry.cache.find? name = some handle

/-- Handles of different registries are handles of different handlers. -/
structure Apart (session : Session) : Prop where
  adopted :
    ∀ {index : Nat} {handle : Handle},
      session.Holds index handle →
      handle.instanceId < session.world.handlers.length
  apart :
    ∀ {first second : Nat} {handle other : Handle},
      session.Holds first handle →
      session.Holds second other →
      first ≠ second →
      handle.instanceId ≠ other.instanceId

/-- Registries that have published nothing have no handlers in common. -/
theorem Apart.ofFresh
    {session : Session}
    (fresh : ∀ registry ∈ session.stored, registry.cache = Table.empty) :
    session.Apart := by
  have nothing {index : Nat} {handle : Handle} : ¬session.Holds index handle := by
    rintro ⟨registry, name, present, cached⟩
    rw [fresh registry (List.mem_of_getElem? present)] at cached
    cases cached
  exact
    { adopted := fun held => absurd held nothing
      apart := fun held => absurd held nothing }

variable
  {session after : Session}
  {index : Nat}
  {registry : Registry}
  {world : World}

/-- What the registries hold once one of them has been left. -/
theorem holds_left_iff
    (present : session.stored[index]? = some registry)
    {other : Nat}
    {handle : Handle} :
    (session.left index world).Holds other handle ↔
      if other = index then
        ∃ name, world.registry.cache.find? name = some handle
      else
        session.Holds other handle := by
  have within : index < session.stored.length :=
    (List.getElem?_eq_some_iff.mp present).1
  simp only [Holds, stored_left, List.getElem?_set]
  by_cases same : index = other
  · subst same
    simp [within]
  · have different : other ≠ index := fun equal => same equal.symm
    simp [same, different]

/--
A handle that a registry has after an errand was there before, or was built
meanwhile.
-/
theorem origin_of_adds
    (present : session.stored[index]? = some registry)
    (adds : (session.around registry).Adds world)
    {handle : Handle}
    (held : ∃ name, world.registry.cache.find? name = some handle) :
    session.Holds index handle ∨
      session.world.handlers.length ≤ handle.instanceId ∧
        handle.instanceId < world.handlers.length := by
  obtain ⟨name, cached⟩ := held
  rcases adds.added cached with known | built
  · exact .inl ⟨registry, name, present, known⟩
  · exact .inr built

/--
What is added to one registry was built meanwhile, so that no other one has it.
-/
theorem Apart.left
    (apart : session.Apart)
    (present : session.stored[index]? = some registry)
    (adds : (session.around registry).Adds world) :
    (session.left index world).Apart := by
  have more : session.world.handlers.length ≤ world.handlers.length :=
    adds.grows.handlers.length_le
  have foreign : ∀ {other : Nat} {handle counterpart : Handle},
      (∃ name, world.registry.cache.find? name = some handle) →
      session.Holds other counterpart →
      other ≠ index →
      handle.instanceId ≠ counterpart.instanceId := by
    intro other handle counterpart held heldOther different
    rcases origin_of_adds present adds held with known | ⟨new, -⟩
    · exact apart.apart known heldOther different.symm
    · have old := apart.adopted heldOther
      omega
  refine ⟨?_, ?_⟩
  · intro other handle held
    change handle.instanceId < world.handlers.length
    rw [holds_left_iff present] at held
    split at held
    · rcases origin_of_adds present adds held with known | ⟨-, built⟩
      · exact Nat.lt_of_lt_of_le (apart.adopted known) more
      · exact built
    · exact Nat.lt_of_lt_of_le (apart.adopted held) more
  · intro first second handle other heldFirst heldSecond different
    rw [holds_left_iff present] at heldFirst heldSecond
    split at heldFirst
    · rename_i isFirst
      rw [if_neg fun isSecond =>
        different (isFirst.trans isSecond.symm)] at heldSecond
      exact foreign heldFirst heldSecond fun isSecond =>
        different (isFirst.trans isSecond.symm)
    · rename_i notFirst
      split at heldSecond
      · exact (foreign heldSecond heldFirst notFirst).symm
      · exact apart.apart heldFirst heldSecond different

/-- Nothing is taken from any registry. -/
theorem Holds.left
    {other : Nat}
    {handle : Handle}
    (held : session.Holds other handle)
    (present : session.stored[index]? = some registry)
    (grows : (session.around registry).Grows world) :
    (session.left index world).Holds other handle := by
  rw [holds_left_iff present]
  split
  · rename_i same
    subst same
    obtain ⟨stored, name, presentToo, cached⟩ := held
    obtain rfl : stored = registry := Option.some.inj (presentToo.symm.trans present)
    exact ⟨name, grows.cached cached⟩
  · exact held

variable
  {errand : Errand}
  {answer : Answer}

/-- What one errand does to the handles of all registries. -/
structure Grants
    (session : Session)
    (errand : Errand)
    (answer : Answer)
    (after : Session) : Prop where
  apart :
    session.Apart → after.Apart
  kept :
    ∀ {index : Nat} {handle : Handle},
      session.Holds index handle → after.Holds index handle
  handed :
    ∀ {handle : Handle},
      answer.handle? = some handle → after.Holds errand.registry handle

/-- An errand leaves registries apart, and what it hands out is with its registry. -/
theorem grants_of_runOn
    (within : errand.registry < session.stored.length)
    (ran : session.runOn errand = some (answer, after)) :
    session.Grants errand answer after := by
  have present := List.getElem?_eq_getElem within
  obtain ⟨world, performed, rfl⟩ := (runOn_eq_some_iff present).mp ran
  have stable := World.Adds.stable
  have adds := stable.deed (stable.nested session.resolver session.depth) _ performed
  exact
    { apart := fun apart => apart.left present adds
      kept := fun held => held.left present adds.grows
      handed := fun handed =>
        (holds_left_iff present).mpr
          ((if_pos rfl).mpr (Deed.cached_of_handle? performed handed)) }

/-- So do errands one after another. -/
theorem grants_of_runAll
    {errands : List Errand}
    {answers : List Answer}
    (within : ∀ errand ∈ errands, errand.registry < session.stored.length)
    (ran : session.runAll errands = some (answers, after)) :
    (session.Apart → after.Apart) ∧
      (∀ index handle, session.Holds index handle → after.Holds index handle) ∧
      ∀ errand answer,
        (errand, answer) ∈ errands.zip answers →
        ∀ handle,
            answer.handle? = some handle → after.Holds errand.registry handle := by
  induction errands generalizing session answers with
  | nil =>
      cases ran
      refine ⟨id, fun _ _ => id, ?_⟩
      intro errand answer member
      cases member
  | cons errand rest inductionHypothesis =>
      obtain ⟨answer, middle, others, ranFirst, ranRest, rfl⟩ :=
        runAll_cons_eq_some_iff.mp ran
      have here := within errand List.mem_cons_self
      have grants := grants_of_runOn here ranFirst
      have withinRest : ∀ other ∈ rest, other.registry < middle.stored.length := by
        intro other member
        rw [stored_of_runOn here ranFirst, List.length_set]
        exact within other (List.mem_cons_of_mem _ member)
      obtain ⟨apart, kept, handed⟩ := inductionHypothesis withinRest ranRest
      refine ⟨apart ∘ grants.apart, fun index handle =>
        kept index handle ∘ grants.kept, ?_⟩
      intro other reply member
      rw [List.zip_cons_cons] at member
      rcases List.mem_cons.mp member with isFirst | later
      · cases isFirst
        exact fun handle isHandle => kept _ handle (grants.handed isHandle)
      · exact handed other reply later

end Session

end Dispatch
