import Dispatch.Handler.Stock
import Dispatch.Proofs.EntryPoints
import Dispatch.Proofs.Preservation

namespace Dispatch

/-!
# Integrity of the cache

What a registry has published stays published, under the name that the handle
itself bears, and no two names share an instance.  `World.Sound` is the
invariant; `World.Grows` says how worlds may follow one another.  Both hold
across every run, whatever constructors and handlers do in its midst.
-/

/-- What one world holds, a later one holds as well. -/
structure World.Grows (before after : World) : Prop where
  cached :
    ∀ {name handle},
      before.registry.cache.find? name = some handle →
      after.registry.cache.find? name = some handle
  handlers :
    before.handlers <+: after.handlers
  settings :
    after.registry.settings = before.registry.settings
  journal :
    before.journal <+: after.journal

/-- Handles are cached under names of their own, and every one returned is cached. -/
structure World.Sound (world : World) : Prop where
  named :
    ∀ {name handle},
      world.registry.cache.find? name = some handle → name ≠ ""
  titled :
    ∀ {name handle},
      world.registry.cache.find? name = some handle → handle.schemeName = name
  adopted :
    ∀ {name handle},
      world.registry.cache.find? name = some handle →
      handle.instanceId < world.handlers.length
  distinct :
    ∀ {first second handle other},
      world.registry.cache.find? first = some handle →
      world.registry.cache.find? second = some other →
      handle.instanceId = other.instanceId →
      first = second
  returned :
    ∀ {name handle},
      Entry.returned name (some handle) ∈ world.journal →
      world.registry.cache.find? name = some handle
  unasked :
    "" ∉ world.directory.asked

namespace World

/-! ## Growth -/

/-- A handler keeps its number where handlers are only added. -/
theorem present_of_prefix
    {before after : World}
    (handlers : before.handlers <+: after.handlers)
    {instanceId : Nat}
    {handler : Handler}
    (found : before.handlers[instanceId]? = some handler) :
    after.handlers[instanceId]? = some handler := by
  obtain ⟨known, isHandler⟩ := List.getElem?_eq_some_iff.mp found
  rw [List.prefix_iff_getElem?.mp handlers instanceId known, isHandler]

namespace Grows

protected theorem refl
    (world : World) :
    world.Grows world where
  cached := id
  handlers := List.prefix_rfl
  settings := rfl
  journal := List.prefix_rfl

protected theorem trans
    {first second third : World}
    (earlier : first.Grows second)
    (later : second.Grows third) :
    first.Grows third where
  cached found := later.cached (earlier.cached found)
  handlers := earlier.handlers.trans later.handlers
  settings := later.settings.trans earlier.settings
  journal := earlier.journal.trans later.journal

theorem present
    {before after : World}
    (grows : before.Grows after)
    {instanceId : Nat}
    {handler : Handler}
    (found : before.handlers[instanceId]? = some handler) :
    after.handlers[instanceId]? = some handler :=
  present_of_prefix grows.handlers found

/-- Appending to the journal takes nothing away. -/
theorem record
    (world : World)
    (entry : Entry) :
    world.Grows (world.record entry) where
  cached := id
  handlers := List.prefix_rfl
  settings := rfl
  journal := by
    rw [journal_record]
    exact List.prefix_append _ _

/-- What happens to the directory takes nothing away. -/
theorem ofDirectory
    (world : World)
    (directory : Directory) :
    world.Grows { world with directory := directory } where
  cached := id
  handlers := List.prefix_rfl
  settings := rfl
  journal := List.prefix_rfl

/-- The outcome of a construction takes nothing away. -/
theorem settle
    (world : World)
    (name : String)
    (outcome : Except ConstructionFailure Handler) :
    world.Grows (world.settle name outcome).2 := by
  cases outcome with
  | error failure =>
      exact (record _ _).trans (record _ _)
  | ok handler =>
      refine (record world (.instantiated name true)).trans ?_
      exact
        { cached := id
          handlers := List.prefix_append _ _
          settings := rfl
          journal := List.prefix_rfl }

/-- A handle for a name without one replaces nothing. -/
theorem insert
    {world : World}
    {name : String}
    (unpublished : world.registry.cache.find? name = none)
    (handle : Handle) :
    world.Grows (world.insert name handle) where
  cached := by
    intro other found otherFound
    have different : other ≠ name := by
      intro same
      rw [same, unpublished] at otherFound
      cases otherFound
    rw [find?_insert, if_neg different]
    exact otherFound
  handlers := List.prefix_rfl
  settings := rfl
  journal := List.prefix_rfl

/-- Binding a descriptor takes nothing away from handlers and cache. -/
theorem register
    (world : World)
    (name : String)
    (descriptor : Descriptor) :
    world.Grows (world.register name descriptor).2 :=
  ((record _ _).trans (record _ _)).trans (ofDirectory _ _)

/-- Removing a binding takes nothing away from handlers and cache. -/
theorem unregister
    (world : World)
    (name : String) :
    world.Grows (world.unregister name).2 :=
  (record _ _).trans (ofDirectory _ _)

/-- No single step takes anything away. -/
theorem gradual : Gradual World.Grows where
  refl := .refl
  trans _ _ _ := .trans
  recorded world entry _ := record world entry
  redirected := ofDirectory
  settled := settle
  published {world name} unpublished handler := by
    have unpublishedYet :
        (world.settle name (.ok handler)).2.registry.cache.find? name = none := by
      rwa [settle_registry]
    exact (settle world name _).trans (insert unpublishedYet _)

/-- No run takes anything away. -/
theorem stable : Stable World.Grows where
  toFirm := gradual.firm
  served _ _ _ work := ((record _ _).trans work).trans (record _ _)

end Grows

/-! ## Soundness -/

namespace Sound

variable {world : World}

/-- A world whose registry is fresh is sound. -/
theorem create
    (settings : Settings) :
    (World.create settings).Sound where
  named := by
    intro name handle found
    cases found
  titled := by
    intro name handle found
    cases found
  adopted := by
    intro name handle found
    cases found
  distinct := by
    intro first second handle other found
    cases found
  returned := by
    intro name handle member
    have only : Entry.returned name (some handle) =
        .emitted (.creating settings.strict) :=
      List.mem_singleton.mp member
    cases only
  unasked := List.not_mem_nil

/-- Entries that return no handle say nothing about the cache. -/
theorem record
    (sound : world.Sound)
    {entry : Entry}
    (handles :
      ∀ {name handle},
        entry = .returned name (some handle) →
        world.registry.cache.find? name = some handle) :
    (world.record entry).Sound where
  named := sound.named
  titled := sound.titled
  adopted := sound.adopted
  distinct := sound.distinct
  returned := by
    intro name handle member
    rw [journal_record, List.mem_append, List.mem_singleton] at member
    rcases member with earlier | isEntry
    · exact sound.returned earlier
    · exact handles isEntry.symm
  unasked := sound.unasked

/-- Soundness is not about what the directory says, but about who was asked for. -/
theorem ofDirectory
    (sound : world.Sound)
    {directory : Directory}
    (unasked : "" ∉ directory.asked) :
    { world with directory := directory }.Sound where
  named := sound.named
  titled := sound.titled
  adopted := sound.adopted
  distinct := sound.distinct
  returned := sound.returned
  unasked := unasked

/-- The outcome of a construction puts nothing into the cache. -/
theorem settle
    (sound : world.Sound)
    (name : String)
    (outcome : Except ConstructionFailure Handler) :
    (world.settle name outcome).2.Sound := by
  have recorded : ∀ entry, (∀ name handle, entry ≠ .returned name handle) →
      (world.record entry).Sound := by
    intro entry other
    exact sound.record fun same => (other _ _ same).elim
  cases outcome with
  | error failure =>
      refine (recorded (.instantiated name false) ?_).record ?_
      · intro _ _ same
        cases same
      · intro _ _ same
        cases same
  | ok handler =>
      have instantiated := recorded (.instantiated name true) (by
        intro _ _ same
        cases same)
      exact
        { instantiated with
          adopted := by
            intro other handle found
            have earlier := sound.adopted found
            change handle.instanceId < (world.handlers ++ [handler]).length
            rw [List.length_append]
            exact Nat.lt_of_lt_of_le earlier (Nat.le_add_right _ _) }

/-- A handle may be cached under its own name if no cached handle has its number. -/
theorem insert
    (sound : world.Sound)
    {name : String}
    {instanceId : Nat}
    (named : name ≠ "")
    (unpublished : world.registry.cache.find? name = none)
    (adopted : instanceId < world.handlers.length)
    (unused :
      ∀ {other handle},
        world.registry.cache.find? other = some handle →
        handle.instanceId ≠ instanceId) :
    (world.insert name ⟨name, instanceId⟩).Sound := by
  have origin : ∀ {other handle},
      (world.insert name ⟨name, instanceId⟩).registry.cache.find? other =
        some handle →
      other = name ∧ handle = ⟨name, instanceId⟩ ∨
        world.registry.cache.find? other = some handle := by
    intro other handle found
    rw [find?_insert] at found
    split at found
    · rename_i same
      exact .inl ⟨same, (Option.some.inj found).symm⟩
    · exact .inr found
  refine
    { named := ?_
      titled := ?_
      adopted := ?_
      distinct := ?_
      returned := ?_
      unasked := sound.unasked }
  · intro other handle found
    rcases origin found with ⟨rfl, _⟩ | earlier
    · exact named
    · exact sound.named earlier
  · intro other handle found
    rcases origin found with ⟨rfl, rfl⟩ | earlier
    · rfl
    · exact sound.titled earlier
  · intro other handle found
    rcases origin found with ⟨rfl, rfl⟩ | earlier
    · exact adopted
    · exact sound.adopted earlier
  · intro first second handle other firstFound secondFound sameId
    rcases origin firstFound with ⟨rfl, rfl⟩ | firstEarlier
    · rcases origin secondFound with ⟨rfl, _⟩ | secondEarlier
      · rfl
      · exact (unused secondEarlier sameId.symm).elim
    · rcases origin secondFound with ⟨rfl, rfl⟩ | secondEarlier
      · exact (unused firstEarlier sameId).elim
      · exact sound.distinct firstEarlier secondEarlier sameId
  · intro other handle member
    exact (Grows.insert unpublished _).cached (sound.returned member)

/-- Reports of any kind leave a world sound. -/
theorem emit
    (sound : world.Sound)
    (event : Event) :
    (world.emit event).Sound :=
  sound.record fun same => by cases same

/-- A resolve call leaves a world sound if its construction does. -/
theorem resolved
    {resolver : Resolver}
    {name : String}
    {after : World}
    {handle : Option Handle}
    (sound : world.Sound)
    (resolved :
      Resolved resolver (fun _ before _ after => before.Sound → after.Sound) name
        world handle after) :
    after.Sound := by
  have asked : name ≠ "" → (world.ask name).Sound := by
    intro named
    refine sound.ofDirectory ?_
    intro member
    rcases List.mem_append.mp member with earlier | isName
    · exact sound.unasked earlier
    · exact named (List.mem_singleton.mp isName).symm
  cases resolved with
  | cached found =>
      exact sound.emit _
  | nameless missed empty =>
      exact sound
  | unbound missed named answer =>
      exact (asked named).emit _
  | lookupFailed missed named answer =>
      exact (asked named).emit _
  | constructionFailed missed named answer construction =>
      exact (construction (asked named)).settle _ _
  | @published built _ handler missed named answer construction unpublished =>
      have builtSound := construction (asked named)
      have unpublishedYet :
          (built.settle name (.ok handler)).2.registry.cache.find? name = none := by
        rwa [settle_registry]
      have adopted :
          built.handlers.length <
              (built.settle name (.ok handler)).2.handlers.length := by
        change built.handlers.length < (built.handlers ++ [handler]).length
        simp
      -- The number is new: whatever is cached was adopted before.
      have unused :
          ∀ {other handle},
            (built.settle name (.ok handler)).2.registry.cache.find? other =
              some handle →
            handle.instanceId ≠ built.handlers.length := by
        intro other handle found
        rw [settle_registry] at found
        exact Nat.ne_of_lt (builtSound.adopted found)
      exact ((builtSound.settle name _).insert named unpublishedYet adopted
        unused).emit _
  | discarded missed named answer construction present =>
      exact ((construction (asked named)).settle name _).emit _

/-- A construction leaves a sound world sound if its script does. -/
theorem constructed
    {binding : Binding}
    {world after : World}
    {outcome : Except ConstructionFailure Handler}
    (constructed :
      Constructed (Runs.keeping fun before after => before.Sound → after.Sound)
        binding world outcome after) :
    world.Sound → after.Sound := by
  refine constructed.keeps ?_ ?_ ?_
  · exact fun _ sound => sound
  · exact fun _ _ _ earlier later sound => later (earlier sound)
  · exact fun _ _ _ _ sound => sound.record fun same => by cases same

/-- Every step of every run leaves a sound world sound. -/
theorem stable : Stable fun before after => before.Sound → after.Sound where
  refl _ := id
  trans _ _ _ earlier later := later ∘ earlier
  noted _ _ sound := sound.record fun same => by cases same
  registered _ _ _ sound :=
    ((sound.emit _).record fun same => by cases same).ofDirectory sound.unasked
  unregistered _ _ sound :=
    (sound.record fun same => by cases same).ofDirectory sound.unasked
  broken _ _ _ sound := sound.ofDirectory sound.unasked
  healed _ _ sound := sound.ofDirectory sound.unasked
  served _ _ _ work sound :=
    (work (sound.record fun same => by cases same)).record
      fun same => by cases same
  resolved call sound := by
    have endedSound :=
      (sound.record fun same => by cases same).resolved (call.mono constructed)
    exact endedSound.record fun same => by
      cases same
      exact call.holds

end Sound

end World

/-! ## Histories -/

section

variable
  {resolver : Resolver}
  {depth : Nat}
  {world after : World}
  {name : String}
  {operation : Operation}
  {answer : Answer}

/-- Whatever history is performed on a fresh registry, it ends in a sound world. -/
theorem sound_of_history
    {settings : Settings}
    {history : List Operation}
    {answers : List Answer}
    (performed :
      Operation.performAll (Calls.nested resolver depth) history
          (World.create settings) =
        some (answers, world)) :
    world.Sound :=
  World.Sound.stable.performAll (World.Sound.stable.nested resolver depth) history
    performed (World.Sound.create settings)

/-- No operation takes anything away, wherever it is performed. -/
theorem grows_of_perform
    (performed :
      operation.perform (Calls.nested resolver depth) world =
        some (answer, after)) :
    world.Grows after :=
  World.Grows.stable.perform (World.Grows.stable.nested resolver depth) operation
    performed

/-- In a sound world, a handle handed out for a name bears it. -/
theorem schemeName_of_perform
    (sound : world.Sound)
    (resolves : operation.resolves? = some name)
    (performed :
      operation.perform (Calls.nested resolver depth) world =
        some (answer, after))
    {handle : Handle}
    (handed : answer.handle? = some handle) :
    handle.schemeName = name := by
  have stable := World.Sound.stable
  have afterSound : after.Sound :=
    stable.perform (stable.nested resolver depth) operation performed sound
  obtain ⟨other, resolvesOther, cached⟩ :=
    Operation.cached_of_handle? performed handed
  obtain rfl : other = name := Option.some.inj (resolvesOther.symm.trans resolves)
  exact afterSound.titled cached

/-- In a sound world the empty name has no handle, and nobody is asked for one. -/
theorem perform_of_empty
    (sound : world.Sound)
    (resolves : operation.resolves? = some "")
    (resolver : Resolver)
    (depth : Nat) :
    ∃ answer,
      operation.perform (Calls.nested resolver (depth + 1)) world =
          some
            (answer,
              (world.record (.called "")).record (.returned "" none)) ∧
        answer.Unresolved "" := by
  have missed : world.registry.cache.find? "" = none := by
    cases found : world.registry.cache.find? "" with
    | none => rfl
    | some handle => exact (sound.named found rfl).elim
  obtain ⟨answer, concluded, unresolved⟩ :=
    Operation.conclude_none resolves (Calls.nested resolver (depth + 1))
      world.registry.settings
      ((world.record (.called "")).record (.returned "" none))
  refine ⟨answer, ?_, unresolved⟩
  exact (Operation.perform_nested_eq_some_iff resolves).mpr
    ⟨none, _, .nameless missed rfl, concluded⟩

/--
After any history, the cache files handles under their own names, no two names
share an instance, and nothing that any operation does takes an entry away; what
holds of all entries therefore held of those there were in the midst of a run.
So whatever is handed out bears the name that it was asked for under, and the
empty name has no handle and never reaches the resolver.
-/
theorem cache_integrity
    (resolver : Resolver)
    (settings : Settings)
    (depth : Nat)
    (history : List Operation)
    {answers : List Answer}
    {world : World}
    (performed :
      Operation.performAll (Calls.nested resolver depth) history
          (World.create settings) =
        some (answers, world)) :
    (∀ name handle,
      world.registry.cache.find? name = some handle →
      name ≠ "" ∧ handle.schemeName = name) ∧
    (∀ first second handle other,
      world.registry.cache.find? first = some handle →
      world.registry.cache.find? second = some other →
      first ≠ second →
      handle.instanceId ≠ other.instanceId) ∧
    (∀ depth (operation : Operation) before answer after,
      operation.perform (Calls.nested resolver depth) before =
        some (answer, after) →
      before.handlers <+: after.handlers ∧
        ∀ name handle,
          before.registry.cache.find? name = some handle →
          after.registry.cache.find? name = some handle) ∧
    (∀ depth (operation : Operation) answer after name handle,
      operation.perform (Calls.nested resolver depth) world =
        some (answer, after) →
      operation.resolves? = some name →
      answer.handle? = some handle →
      handle.schemeName = name ∧ handle.text = name ∧ toString handle = name) ∧
    (∀ name handle,
      Entry.returned name (some handle) ∈ world.journal →
      world.registry.cache.find? name = some handle) ∧
    "" ∉ world.directory.asked ∧
    ∀ depth (operation : Operation),
      operation.resolves? = some "" →
      ∃ answer,
        operation.perform (Calls.nested resolver (depth + 1)) world =
            some
              (answer,
                (world.record (.called "")).record (.returned "" none)) ∧
          answer.Unresolved "" := by
  have sound := sound_of_history performed
  refine ⟨?_, ?_, ?_, ?_, ?_, sound.unasked, ?_⟩
  · intro name handle found
    exact ⟨sound.named found, sound.titled found⟩
  · intro first second handle other firstFound secondFound different sameId
    exact different (sound.distinct firstFound secondFound sameId)
  · intro depth operation before answer after done
    have grows := grows_of_perform done
    exact ⟨grows.handlers, fun _ _ found => grows.cached found⟩
  · intro depth operation answer after name handle done resolves handed
    have bears := schemeName_of_perform sound resolves done handed
    exact ⟨bears, bears, bears⟩
  · intro name handle member
    exact sound.returned member
  · intro depth operation resolves
    exact perform_of_empty sound resolves resolver depth

/-- A constructor that resolves another name, the empty one and its own. -/
def entangled : List Operation :=
  [.register "inner" (.plain "Inner" .null),
    .register "outer"
      (.factory "Outer" fun index =>
        .resolve "inner" true fun _ =>
          .resolve "" false fun _ =>
            if index = 0 then
              .resolve "outer" false fun _ => .build .null
            else
              .build .null),
    .resolve "outer" true]

/--
What the second construction of `outer` has built is cached, and apart from `inner`.
-/
theorem cache_integrity_of_entangled :
    ∃ answers world,
      Operation.performAll (Calls.nested .ofTable 3) entangled
          (World.create .default) =
        some (answers, world) ∧
      world.registry.cache.find? "outer" = some ⟨"outer", 1⟩ ∧
      world.registry.cache.find? "inner" = some ⟨"inner", 0⟩ ∧
      (1 : Nat) ≠ 0 ∧
      "" ∉ world.directory.asked := by
  have whole := @cache_integrity .ofTable .default 3 entangled
  refine ⟨_, _, rfl, rfl, rfl, ?_, ?_⟩
  · exact (whole rfl).2.1 "outer" "inner" ⟨"outer", 1⟩ ⟨"inner", 0⟩
      rfl rfl (by decide)
  · exact (whole rfl).2.2.2.2.2.1

end

end Dispatch
