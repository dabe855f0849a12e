import Dispatch.Proofs.CacheIntegrity

namespace Dispatch

/-!
# Published names

A name that has a handle is at rest: every call for it is answered from the
cache, nobody looks it up, and nothing is built for it.  This holds of every run
over any resolver.
-/

/-- A construction for a resolve call ended. -/
def Entry.isInstantiation : Entry → Bool
  | instantiated _ _ => true
  | _ => false

namespace World

/-- Between two worlds a name was not looked up, and no construction for it ended. -/
def LeavesAlone
    (name : String)
    (before after : World) : Prop :=
  ∃ names happened,
    after.directory.asked = before.directory.asked ++ names ∧
      name ∉ names ∧
      after.journal = before.journal ++ happened ∧
      ∀ succeeded, Entry.instantiated name succeeded ∉ happened

namespace LeavesAlone

variable
  {name : String}
  {before middle after : World}

protected theorem refl
    (world : World) :
    world.LeavesAlone name world :=
  ⟨[], [], by simp, List.not_mem_nil, by simp, fun _ => List.not_mem_nil⟩

protected theorem trans
    (first : before.LeavesAlone name middle)
    (second : middle.LeavesAlone name after) :
    before.LeavesAlone name after := by
  obtain ⟨names, happened, asked, unasked, journal, unbuilt⟩ := first
  obtain ⟨more, later, askedMore, unaskedMore, journalLater, unbuiltLater⟩ := second
  refine ⟨names ++ more, happened ++ later, ?_, ?_, ?_, ?_⟩
  · rw [askedMore, asked, List.append_assoc]
  · simp [unasked, unaskedMore]
  · rw [journalLater, journal, List.append_assoc]
  · intro succeeded
    simp [unbuilt succeeded, unbuiltLater succeeded]

theorem record
    (world : World)
    {entry : Entry}
    (aside : entry.isInstantiation = false) :
    world.LeavesAlone name (world.record entry) := by
  refine ⟨[], [entry], by simp [World.record], List.not_mem_nil,
    journal_record world entry, ?_⟩
  intro succeeded member
  rw [← List.mem_singleton.mp member] at aside
  cases aside

theorem ofDirectory
    (world : World)
    (directory : Directory)
    (asked : directory.asked = world.directory.asked) :
    world.LeavesAlone name { world with directory := directory } :=
  ⟨[], [], by simp [asked], List.not_mem_nil, by simp [journal],
    fun _ => List.not_mem_nil⟩

/-- Asking for another name and building for it leaves the name alone. -/
theorem ask
    {other : String}
    (different : other ≠ name)
    (world : World) :
    world.LeavesAlone name (world.ask other) :=
  ⟨[other], [], rfl, by simpa using different.symm, by simp, fun _ =>
    List.not_mem_nil⟩

theorem settle
    {other : String}
    (different : other ≠ name)
    (world : World)
    (outcome : Except ConstructionFailure Handler) :
    world.LeavesAlone name (world.settle other outcome).2 := by
  have ended (succeeded : Bool) :
      world.LeavesAlone name (world.record (.instantiated other succeeded)) := by
    refine ⟨[], [.instantiated other succeeded], by simp [World.record],
      List.not_mem_nil, journal_record world _, ?_⟩
    intro _ member
    cases List.mem_singleton.mp member
    exact different rfl
  cases outcome with
  | error failure =>
      exact (ended false).trans (record _ rfl)
  | ok handler =>
      exact ended true

end LeavesAlone

/-- A name that has a handle is left alone, and keeps it. -/
structure Rests
    (name : String)
    (before after : World) : Prop where
  grows :
    before.Grows after
  alone :
    ∀ {handle},
      before.registry.cache.find? name = some handle → before.LeavesAlone name after

namespace Rests

variable {name : String}

protected theorem refl
    (world : World) :
    world.Rests name world :=
  ⟨.refl world, fun _ => .refl world⟩

protected theorem trans
    {first second third : World}
    (earlier : first.Rests name second)
    (later : second.Rests name third) :
    first.Rests name third :=
  ⟨earlier.grows.trans later.grows, fun found =>
    (earlier.alone found).trans (later.alone (earlier.grows.cached found))⟩

theorem record
    (world : World)
    {entry : Entry}
    (aside : entry.isInstantiation = false) :
    world.Rests name (world.record entry) :=
  ⟨.record world entry, fun _ => .record world aside⟩

/-- A resolve call leaves a published name alone if its constructor does. -/
theorem resolved
    {resolver : Resolver}
    {other : String}
    {world ended : World}
    {handle : Option Handle}
    (resolved :
      Resolved resolver (fun _ before _ after => before.Rests name after) other
        world handle ended) :
    world.Rests name ended := by
  refine ⟨Grows.gradual.resolved
    (resolved.mono fun construction => construction.grows), ?_⟩
  intro present found
  by_cases same : other = name
  · -- A published name is found in the cache.
    subst same
    cases resolved with
    | cached _ => exact .record _ rfl
    | nameless missed _ => exact .refl _
    | unbound missed _ _ => exact absurd (found.symm.trans missed) nofun
    | lookupFailed missed _ _ => exact absurd (found.symm.trans missed) nofun
    | constructionFailed missed _ _ _ => exact absurd (found.symm.trans missed) nofun
    | published missed _ _ _ _ => exact absurd (found.symm.trans missed) nofun
    | discarded missed _ _ _ _ => exact absurd (found.symm.trans missed) nofun
  · have asked : world.LeavesAlone name (world.ask other) := .ask same world
    cases resolved with
    | cached _ =>
        exact .record _ rfl
    | nameless _ _ =>
        exact .refl _
    | unbound _ _ _ =>
        exact asked.trans (.record _ rfl)
    | lookupFailed _ _ _ =>
        exact asked.trans (.record _ rfl)
    | constructionFailed _ _ _ construction =>
        exact (asked.trans (construction.alone found)).trans (.settle same _ _)
    | @published built _ handler _ _ _ construction _ =>
        have settled := (asked.trans (construction.alone found)).trans
          (.settle same _ (.ok handler))
        have inserted :
            (built.settle other (.ok handler)).2.LeavesAlone name
              ((built.settle other (.ok handler)).2.insert other
                ⟨other, built.handlers.length⟩) := .refl _
        exact (settled.trans inserted).trans (.record _ rfl)
    | discarded _ _ _ construction _ =>
        exact ((asked.trans (construction.alone found)).trans
          (.settle same _ _)).trans
          (.record _ rfl)

/-- Nothing that happens to a registry disturbs a published name. -/
theorem stable
    (name : String) :
    Stable (World.Rests name) where
  refl := .refl
  trans _ _ _ := .trans
  noted _ _ := record _ rfl
  registered world other descriptor :=
    ⟨.register world other descriptor, fun _ =>
      ((LeavesAlone.record _ rfl).trans (.record _ rfl)).trans
        (.ofDirectory _ _ rfl)⟩
  unregistered world other :=
    ⟨.unregister world other, fun _ =>
      (LeavesAlone.record _ rfl).trans (.ofDirectory _ _ rfl)⟩
  broken world _ _ := ⟨.ofDirectory world _, fun _ => .ofDirectory world _ rfl⟩
  healed world _ := ⟨.ofDirectory world _, fun _ => .ofDirectory world _ rfl⟩
  served _ _ _ work := ((record _ rfl).trans work).trans (record _ rfl)
  resolved call :=
    ((record _ rfl).trans
      (resolved (call.mono fun construction =>
        construction.keeps .refl (fun _ _ _ => .trans) fun _ _ _ _ =>
          record _ rfl))).trans
      (record _ rfl)

end Rests

end World

/--
A published name is answered from the cache, and nothing comes of it but reports.
-/
theorem resolveWith_of_cached
    {world : World}
    {name : String}
    {handle : Handle}
    (found : world.registry.cache.find? name = some handle)
    (resolver : Resolver)
    (calls : Calls)
    (strict : Bool) :
    resolveWith resolver calls name strict world =
      some
        (.ok (some handle),
          ((world.record (.called name)).emit (.cacheHit name)).record
            (.returned name (some handle))) :=
  resolveWith_eq_some_iff.mpr ⟨some handle, _, .cached found, rfl, rfl⟩

/-- What a call for a published name hands out is its handle. -/
theorem Operation.handle?_of_cached
    {name : String}
    {handle : Handle}
    {resolver : Resolver}
    {depth : Nat}
    {operation : Operation}
    {answer : Answer}
    {world after : World}
    (found : world.registry.cache.find? name = some handle)
    (resolves : operation.resolves? = some name)
    (performed :
      operation.perform (Calls.nested resolver depth) world = some (answer, after)) :
    answer.handle? = some handle ∨
        ∃ locator base, operation = .get locator base := by
  cases depth with
  | zero =>
      rw [perform_nested_zero resolves] at performed
      cases performed
  | succ depth =>
      have resolved :=
        resolveWith_of_cached found resolver (Calls.nested resolver depth)
          (operation.strictness world.registry.settings)
      rcases operation.handsOver resolves handle
        (Calls.nested resolver (depth + 1)) world _
          resolved with ⟨expected, handed, isPerformed⟩ | ⟨locator, base, isGet, -⟩
      · cases performed.symm.trans isPerformed
        exact .inl handed
      · exact .inr ⟨locator, base, isGet⟩

/-- So it is throughout a history. -/
theorem Operation.handle?_of_performAll
    {name : String}
    {handle : Handle}
    {resolver : Resolver}
    {depth : Nat}
    {history : List Operation}
    {answers : List Answer}
    {world after : World}
    (found : world.registry.cache.find? name = some handle)
    (performed :
      performAll (Calls.nested resolver depth) history world = some (answers, after))
    {operation : Operation}
    {answer : Answer}
    (member : (operation, answer) ∈ history.zip answers)
    (resolves : operation.resolves? = some name) :
    answer.handle? = some handle ∨
        ∃ locator base, operation = .get locator base := by
  induction history generalizing world answers with
  | nil =>
      cases member
  | cons first rest inductionHypothesis =>
      obtain ⟨firstAnswer, middle, others, performedFirst, performedRest, rfl⟩ :=
        performAll_cons_eq_some_iff.mp performed
      have grows : world.Grows middle :=
        World.Grows.stable.perform (World.Grows.stable.nested resolver depth) _
          performedFirst
      rw [List.zip_cons_cons] at member
      rcases List.mem_cons.mp member with isFirst | later
      · cases isFirst
        exact handle?_of_cached found resolves performedFirst
      · exact inductionHypothesis (grows.cached found) performedRest later

end Dispatch
