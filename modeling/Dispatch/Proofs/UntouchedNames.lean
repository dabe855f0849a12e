import Dispatch.Proofs.CacheIntegrity

namespace Dispatch

/-!
# Names that nothing touches

What a run does to a name can be read off the journal.  If in the course of it
nobody called for the name, bound it anew or started the constructor bound to it,
then the registry and its resolver hold for the name what they held before.
-/

/--
An entry about a name: a call for it, a change of its binding, or a start of its
constructor.
-/
def Entry.touches
    (name : String)
    (serial : Nat) : Entry → Bool
  | called other => other == name
  | registered other _ _ => other == name
  | unregistered other _ => other == name
  | constructing other _ _ => other == serial
  | _ => false

namespace World

/-- Between two worlds nothing touched a name, or the constructor bound to it. -/
def Untouched
    (name : String)
    (serial : Nat)
    (before after : World) : Prop :=
  ∀ entry ∈ after.journal.drop before.journal.length,
    entry.touches name serial = false

instance
    (name : String)
    (serial : Nat)
    (before after : World) :
    Decidable (before.Untouched name serial after) :=
  inferInstanceAs (Decidable (∀ entry ∈ _, _))

/-- Two worlds hold the same for a name, and it was looked up as often. -/
structure SameOf
    (name : String)
    (before after : World) : Prop where
  cached :
    after.registry.cache.find? name = before.registry.cache.find? name
  bound :
    after.directory.table.find? name = before.directory.table.find? name
  asked :
    after.directory.asked.count name = before.directory.asked.count name

/-- A world follows another, and holds the same for a name unless it was touched. -/
structure Bypasses
    (name : String)
    (serial : Nat)
    (before after : World) : Prop where
  grows :
    before.Grows after
  same :
    before.Untouched name serial after → before.SameOf name after

variable
  {name : String}
  {serial : Nat}
  {before middle after : World}

namespace Untouched

/-- What has not happened at all has not happened in either part. -/
theorem split
    (untouched : before.Untouched name serial after)
    (first : before.Grows middle)
    (second : middle.Grows after) :
    before.Untouched name serial middle ∧ middle.Untouched name serial after := by
  obtain ⟨happened, toMiddle⟩ := first.journal
  obtain ⟨later, toAfter⟩ := second.journal
  have whole : after.journal.drop before.journal.length = happened ++ later := by
    rw [← toAfter, ← toMiddle, List.append_assoc, List.drop_left]
  rw [Untouched, whole] at untouched
  constructor
  · intro entry member
    rw [← toMiddle, List.drop_left] at member
    exact untouched entry (List.mem_append_left _ member)
  · intro entry member
    rw [← toAfter, List.drop_left] at member
    exact untouched entry (List.mem_append_right _ member)

/-- What is entered next does not touch the name. -/
theorem head
    {entry : Entry}
    (untouched : before.Untouched name serial after)
    (grows : (before.record entry).Grows after) :
    entry.touches name serial = false := by
  obtain ⟨later, journal⟩ := grows.journal
  refine untouched entry ?_
  rw [← journal, journal_record, List.append_assoc, List.drop_left]
  exact List.mem_append_left _ (List.mem_singleton_self entry)

/-- The constructor bound to an untouched name is not started. -/
theorem constructionsOf_eq
    (untouched : before.Untouched name serial after)
    (grows : before.Grows after) :
    after.constructionsOf serial = before.constructionsOf serial := by
  obtain ⟨happened, journal⟩ := grows.journal
  rw [Untouched, ← journal, List.drop_left] at untouched
  have none : Journal.constructionsOf serial happened = 0 := by
    refine List.countP_eq_zero.mpr fun entry member => ?_
    have aside := untouched entry member
    cases entry with
    | constructing other typeName index =>
        simpa [Entry.touches] using aside
    | _ =>
        simp
  rw [World.constructionsOf_eq, World.constructionsOf_eq, ← journal,
    Journal.constructionsOf, List.countP_append]
  exact congrArg _ none

end Untouched

namespace SameOf

protected theorem refl
    (world : World) :
    world.SameOf name world :=
  ⟨rfl, rfl, rfl⟩

protected theorem trans
    (first : before.SameOf name middle)
    (second : middle.SameOf name after) :
    before.SameOf name after :=
  ⟨second.cached.trans first.cached, second.bound.trans first.bound,
    second.asked.trans first.asked⟩

end SameOf

namespace Bypasses

protected theorem refl
    (world : World) :
    world.Bypasses name serial world :=
  ⟨.refl world, fun _ => .refl world⟩

protected theorem trans
    (first : before.Bypasses name serial middle)
    (second : middle.Bypasses name serial after) :
    before.Bypasses name serial after where
  grows := first.grows.trans second.grows
  same untouched :=
    have parts := untouched.split first.grows second.grows
    (first.same parts.1).trans (second.same parts.2)

theorem record
    (world : World)
    (entry : Entry) :
    world.Bypasses name serial (world.record entry) :=
  ⟨.record world entry, fun _ => ⟨rfl, rfl, rfl⟩⟩

/-- Asking for another name looks up nothing for this one. -/
theorem ask
    {other : String}
    (different : other ≠ name)
    (world : World) :
    world.Bypasses name serial (world.ask other) where
  grows := .ofDirectory world _
  same _ :=
    { cached := rfl
      bound := rfl
      asked := by
        simp [World.ask, Directory.ask, List.count_append, different] }

theorem settle
    (world : World)
    (other : String)
    (outcome : Except ConstructionFailure Handler) :
    world.Bypasses name serial (world.settle other outcome).2 where
  grows := .settle world other outcome
  same _ := by
    cases outcome <;> exact ⟨rfl, rfl, rfl⟩

/-- A handle for another name is none for this one. -/
theorem insert
    {world : World}
    {other : String}
    (different : other ≠ name)
    (unpublished : world.registry.cache.find? other = none)
    (handle : Handle) :
    world.Bypasses name serial (world.insert other handle) where
  grows := .insert unpublished handle
  same _ :=
    { cached := by
        rw [find?_insert, if_neg different.symm]
      bound := rfl
      asked := rfl }

/-- A resolve call for another name does no more to a name than its constructor. -/
theorem resolved
    {resolver : Resolver}
    {other : String}
    {world ended : World}
    {handle : Option Handle}
    (different : other ≠ name)
    (resolved :
      Resolved resolver
        (fun _ before _ after => before.Bypasses name serial after) other
        world handle ended) :
    world.Bypasses name serial ended := by
  have asked : world.Bypasses name serial (world.ask other) := .ask different world
  cases resolved with
  | cached found =>
      exact .record world _
  | nameless missed empty =>
      exact .refl world
  | unbound missed named answer =>
      exact asked.trans (.record _ _)
  | lookupFailed missed named answer =>
      exact asked.trans (.record _ _)
  | constructionFailed missed named answer construction =>
      exact (asked.trans construction).trans (.settle _ other _)
  | @published built _ handler missed named answer construction unpublished =>
      have unpublishedYet :
          (built.settle other (.ok handler)).2.registry.cache.find? other =
              none := by
        rwa [settle_registry]
      have settled :=
        (asked.trans construction).trans (.settle _ other (.ok handler))
      exact (settled.trans (.insert different unpublishedYet _)).trans (.record _ _)
  | discarded missed named answer construction present =>
      exact ((asked.trans construction).trans (.settle _ other _)).trans
        (.record _ _)

/-- Whatever runs, a name that it does not touch is passed by. -/
theorem stable
    (name : String)
    (serial : Nat) :
    Stable (World.Bypasses name serial) where
  refl := .refl
  trans _ _ _ := .trans
  noted world _ := record world _
  registered world other descriptor :=
    { grows := .register world other descriptor
      same := fun untouched => by
        have parts := untouched.split (.record world _)
          ((Grows.record _ _).trans (Grows.ofDirectory _ _))
        have different : other ≠ name := by
          simpa [Entry.touches] using parts.2.head (Grows.ofDirectory _ _)
        exact
          { cached := rfl
            bound := by
              change (world.directory.table.set other _).find? name = _
              rw [Table.find?_set, if_neg different.symm]
            asked := rfl } }
  unregistered world other :=
    { grows := .unregister world other
      same := fun untouched => by
        have different : other ≠ name := by
          simpa [Entry.touches] using untouched.head (Grows.ofDirectory _ _)
        exact
          { cached := rfl
            bound := by
              change (world.directory.table.erase other).find? name = _
              rw [Table.find?_erase, if_neg different.symm]
            asked := rfl } }
  broken world _ _ := ⟨.ofDirectory world _, fun _ => ⟨rfl, rfl, rfl⟩⟩
  healed world _ := ⟨.ofDirectory world _, fun _ => ⟨rfl, rfl, rfl⟩⟩
  served _ _ _ work := ((record _ _).trans work).trans (record _ _)
  resolved {resolver other world handle ended} call := by
    by_cases isName : other = name
    · have called : (world.record (.called other)).Grows ended :=
        Grows.gradual.resolved (call.mono fun construction =>
          (construction.mono fun ran => ran.grows).keeps .refl (fun _ _ _ => .trans)
            fun _ _ _ _ => .record _ _)
      have grows := called.trans (Grows.record ended (.returned other handle))
      refine ⟨(Grows.record _ _).trans grows, fun untouched => ?_⟩
      have aside := untouched.head grows
      simp [Entry.touches, isName] at aside
    · have constructed :=
        resolved isName (call.mono fun construction =>
          construction.keeps .refl (fun _ _ _ => .trans) fun _ _ _ _ => record _ _)
      exact ((record world _).trans constructed).trans (record ended _)

end Bypasses

end World

end Dispatch
