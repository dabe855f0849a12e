import Dispatch.Handler.Stock
import Dispatch.Proofs.DepthFirst
import Dispatch.Proofs.Resolving

namespace Dispatch

/-!
# Construction of dependencies

Constructors that resolve what they depend on make the registry traverse the
dependencies depth first.  `Traversed` says what a traversal does to a world;
`visits_nested` is the induction on the depth of nesting, and `run_of_obtains`
the one on what a constructor has yet to resolve.
-/

/--
A constructor that resolves some names one after another and then builds a
handler of some kind, provided that it was given a handle for every name.
-/
inductive Script.Obtains
    (made : Handler → Prop) :
    List String → Script .construct → Prop
  | build
      {handler : Handler}
      (isMade : made handler) :
      Obtains made [] (.build handler)
  | resolve
      {name : String}
      {rest : List String}
      {strict : Bool}
      {next : Resolution → Script .construct}
      (goesOn : ∀ handle, Obtains made rest (next (.ok (some handle)))) :
      Obtains made (name :: rest) (.resolve name strict next)
  | readSettings
      {needs : List String}
      {next : Settings → Script .construct}
      (goesOn : ∀ settings, Obtains made needs (next settings)) :
      Obtains made needs (.readSettings next)
  | note
      {needs : List String}
      {remark : Note}
      {next : Script .construct}
      (goesOn : Obtains made needs next) :
      Obtains made needs (.note remark next)

/--
Every construction of a binding obtains the same names and builds a handler of some
kind.
-/
def Binding.Obtains
    (made : Handler → Prop)
    (needs : List String)
    (binding : Binding) : Prop :=
  match binding.descriptor with
  | .abstract _ => False
  | .plain _ handler => needs = [] ∧ made handler
  | .factory _ make => ∀ index, (make index).Obtains made needs

/-- A registry in which names have handles with consecutive numbers. -/
def Registry.fill
    (registry : Registry)
    (first : Nat) : List String → Registry
  | [] =>
      registry
  | name :: rest =>
      Registry.fill
        { registry with cache := registry.cache.set name ⟨name, first⟩ }
        (first + 1) rest

namespace Registry

theorem fill_append
    (registry : Registry)
    (first : Nat)
    (names others : List String) :
    registry.fill first (names ++ others) =
      (registry.fill first names).fill (first + names.length) others := by
  induction names generalizing registry first with
  | nil =>
      rfl
  | cons name rest inductionHypothesis =>
      rw [List.cons_append, fill, inductionHypothesis, fill, List.length_cons,
        Nat.add_right_comm, Nat.add_assoc]

theorem find?_fill_of_not_mem
    (registry : Registry)
    (first : Nat)
    {names : List String}
    {name : String}
    (absent : name ∉ names) :
    (registry.fill first names).cache.find? name = registry.cache.find? name := by
  induction names generalizing registry first with
  | nil =>
      rfl
  | cons other rest inductionHypothesis =>
      rw [List.mem_cons, not_or] at absent
      rw [fill, inductionHypothesis _ _ absent.2, Table.find?_set, if_neg absent.1]

theorem find?_fill_of_getElem?
    (registry : Registry)
    (first : Nat)
    {names : List String}
    (nodup : names.Nodup)
    {index : Nat}
    {name : String}
    (present : names[index]? = some name) :
    (registry.fill first names).cache.find? name = some ⟨name, first + index⟩ := by
  induction names generalizing registry first index with
  | nil =>
      cases present
  | cons other rest inductionHypothesis =>
      obtain ⟨notAgain, restNodup⟩ := List.nodup_cons.mp nodup
      cases index with
      | zero =>
          cases present
          rw [fill, find?_fill_of_not_mem _ _ notAgain, Table.find?_set, if_pos rfl,
            Nat.add_zero]
      | succ index =>
          rw [fill, inductionHypothesis _ _ restNodup present, Nat.add_right_comm,
            Nat.add_assoc]

/--
The names that have handles are those that had one and those that were given one.
-/
theorem isSome_find?_fill
    (registry : Registry)
    (first : Nat)
    (names : List String)
    (name : String) :
    ((registry.fill first names).cache.find? name).isSome ↔
      (registry.cache.find? name).isSome ∨ name ∈ names := by
  induction names generalizing registry first with
  | nil =>
      simp [fill]
  | cons other rest inductionHypothesis =>
      rw [fill, inductionHypothesis, Table.find?_set, List.mem_cons]
      by_cases same : name = other
      · simp [same]
      · simp [same]

end Registry

/-- What is reported when a name is left or met. -/
def Mark.event? : Mark → Option Event
  | enter _ => none
  | leave name => some (.published name)
  | meet name => some (.cacheHit name)

/-- Bindings whose constructors obtain what their names need. -/
structure Suppliers (dependencies : Dependencies) where
  binding : String → Binding
  makes : String → Handler → Prop
  obtains :
    ∀ {name},
      name ∈ dependencies.names →
      (binding name).Obtains (makes name) (dependencies.needs name)

namespace Suppliers

variable
  {dependencies : Dependencies}
  (suppliers : Suppliers dependencies)

/-- What a traversal leaves in a journal. -/
structure Follows
    (marks : List Mark)
    (happened : Journal) : Prop where
  called :
    happened.called = Mark.seen marks
  started :
    happened.started =
      (Mark.entered marks).map fun name => (suppliers.binding name).serial
  instantiated :
    happened.instantiated = (Mark.left marks).map fun name => (name, true)
  events :
    happened.events = marks.filterMap Mark.event?

/-- What a traversal does to a world. -/
structure Traversed
    (marks : List Mark)
    (before after : World) : Prop where
  directory :
    after.directory =
      { before.directory with
        asked := before.directory.asked ++ Mark.entered marks }
  registry :
    after.registry =
      before.registry.fill before.handlers.length (Mark.left marks)
  handlers :
    ∃ built,
      after.handlers = before.handlers ++ built ∧
        List.Forall₂ suppliers.makes (Mark.left marks) built
  journal :
    ∃ happened,
      after.journal = before.journal ++ happened ∧
        suppliers.Follows marks happened

variable
  {suppliers : Suppliers dependencies}
  {marks rest inner : List Mark}
  {happened others : Journal}
  {before middle after world : World}
  {name : String}

namespace Follows

protected theorem nil :
    suppliers.Follows [] [] where
  called := rfl
  started := rfl
  instantiated := rfl
  events := rfl

protected theorem append
    (first : suppliers.Follows marks happened)
    (second : suppliers.Follows rest others) :
    suppliers.Follows (marks ++ rest) (happened ++ others) where
  called := by
    rw [Mark.seen_append, ← first.called, ← second.called]
    exact List.filterMap_append
  started := by
    rw [Mark.entered_append, List.map_append, ← first.started, ← second.started]
    exact List.filterMap_append
  instantiated := by
    rw [Mark.left_append, List.map_append, ← first.instantiated,
      ← second.instantiated]
    exact List.filterMap_append
  events := by
    rw [List.filterMap_append, ← first.events, ← second.events]
    exact List.filterMap_append

end Follows

namespace Traversed

protected theorem refl
    (world : World) :
    suppliers.Traversed [] world world where
  directory := by simp [Mark.entered]
  registry := rfl
  handlers := ⟨[], by simp, .nil⟩
  journal := ⟨[], by simp, .nil⟩

protected theorem trans
    (first : suppliers.Traversed marks before middle)
    (second : suppliers.Traversed rest middle after) :
    suppliers.Traversed (marks ++ rest) before after := by
  obtain ⟨built, handlers, made⟩ := first.handlers
  obtain ⟨builtNext, handlersNext, madeNext⟩ := second.handlers
  obtain ⟨happened, journal, follows⟩ := first.journal
  obtain ⟨happenedNext, journalNext, followsNext⟩ := second.journal
  refine
    { directory := ?_
      registry := ?_
      handlers := ⟨built ++ builtNext, ?_, ?_⟩
      journal := ⟨happened ++ happenedNext, ?_, follows.append followsNext⟩ }
  · rw [second.directory, first.directory]
    simp
  · have length :
        middle.handlers.length =
            before.handlers.length + (Mark.left marks).length := by
      rw [handlers, List.length_append, made.length_eq]
    rw [second.registry, first.registry, length, Mark.left_append,
      Registry.fill_append]
  · rw [handlersNext, handlers, List.append_assoc]
  · rw [Mark.left_append]
    exact List.rel_append made madeNext
  · rw [journalNext, journal, List.append_assoc]

/-- Remarks play no part in a traversal. -/
theorem noted
    (world : World)
    (remark : Note) :
    suppliers.Traversed [] world (world.record (.noted remark)) where
  directory := by simp [Mark.entered, World.record]
  registry := rfl
  handlers := ⟨[], by simp [World.record], .nil⟩
  journal :=
    ⟨[.noted remark], World.journal_record _ _,
      { called := rfl, started := rfl, instantiated := rfl, events := rfl }⟩

/-- A call for a cached name meets it. -/
theorem meet
    (world : World)
    (name : String)
    (handle : Option Handle) :
    suppliers.Traversed [.meet name] world
      (((world.record (.called name)).emit (.cacheHit name)).record
        (.returned name handle)) where
  directory := by simp [Mark.entered, World.record, World.emit]
  registry := rfl
  handlers := ⟨[], by simp [World.record, World.emit], .nil⟩
  journal :=
    ⟨[.called name, .emitted (.cacheHit name), .returned name handle], by simp,
      { called := rfl, started := rfl, instantiated := rfl, events := rfl }⟩

/--
A call whose constructor traverses what the name needs enters and leaves the name.
-/
theorem visit
    {typeName : String}
    {index : Option Nat}
    {handler : Handler}
    (inside :
      suppliers.Traversed inner
        (world.opened name (suppliers.binding name).serial typeName index) middle)
    (isMade : suppliers.makes name handler)
    (handle : Option Handle) :
    suppliers.Traversed (.enter name :: inner ++ [.leave name]) world
      ((((middle.settle name (.ok handler)).2.insert name
          ⟨name, middle.handlers.length⟩).emit (.published name)).record
        (.returned name handle)) := by
  obtain ⟨built, handlers, made⟩ := inside.handlers
  obtain ⟨happened, journal, follows⟩ := inside.journal
  have length :
      middle.handlers.length = world.handlers.length + (Mark.left inner).length := by
    rw [handlers, List.length_append, made.length_eq]
    rfl
  refine
    { directory := ?_
      registry := ?_
      handlers := ⟨built ++ [handler], ?_, ?_⟩
      journal :=
        ⟨[.called name,
            .constructing (suppliers.binding name).serial typeName index] ++
            happened ++
          [.instantiated name true, .emitted (.published name),
            .returned name handle], ?_, ?_⟩ }
  · change middle.directory = _
    rw [inside.directory]
    simp [World.opened, World.record, World.ask, Directory.ask, Mark.entered]
  · change (middle.insert name ⟨name, middle.handlers.length⟩).registry = _
    rw [Mark.left_visit, Registry.fill_append, ← length]
    simp only [World.insert, inside.registry]
    rfl
  · change middle.handlers ++ [handler] = _
    rw [handlers, List.append_assoc]
    rfl
  · rw [Mark.left_visit]
    exact List.rel_append made (.cons isMade .nil)
  · rw [World.journal_record, World.journal_emit]
    change (World.settle _ _ _).2.journal ++ _ ++ _ = _
    rw [World.settle_ok_journal, journal]
    simp
  · have before :
        suppliers.Follows [.enter name]
          [.called name,
            .constructing (suppliers.binding name).serial typeName index] :=
      { called := rfl, started := rfl, instantiated := rfl, events := rfl }
    have after :
        suppliers.Follows [.leave name]
          [.instantiated name true, .emitted (.published name),
            .returned name handle] :=
      { called := rfl, started := rfl, instantiated := rfl, events := rfl }
    exact (before.append follows).append after

end Traversed

/-! ## Runs -/

/--
The names are bound to their suppliers, and some of them have been left, so are
cached.
-/
structure Prepared
    (suppliers : Suppliers dependencies)
    (resolver : Resolver)
    (done : List String)
    (world : World) : Prop where
  binds :
    ∀ {name},
      name ∈ dependencies.names →
      resolver.Binds world.directory name (suppliers.binding name)
  cached :
    ∀ {name},
      name ∈ dependencies.names →
      ((world.registry.cache.find? name).isSome ↔ name ∈ done)

/-- The beginning of a call changes neither bindings nor cache. -/
theorem Prepared.opened
    {resolver : Resolver}
    {done : List String}
    (prepared : suppliers.Prepared resolver done world)
    (name : String)
    (serial : Nat)
    (typeName : String)
    (index : Option Nat) :
    suppliers.Prepared resolver done (world.opened name serial typeName index) where
  binds := prepared.binds
  cached := prepared.cached

/-- What a traversal has left is cached afterwards. -/
theorem Prepared.traversed
    {resolver : Resolver}
    {done : List String}
    (prepared : suppliers.Prepared resolver done before)
    (traversed : suppliers.Traversed marks before after) :
    suppliers.Prepared resolver (done ++ Mark.left marks) after where
  binds present := by
    rw [traversed.directory]
    exact prepared.binds present
  cached present := by
    rw [traversed.registry, Registry.isSome_find?_fill, prepared.cached present,
      List.mem_append]

/-- A call answers a name with a handle, after a depth-first traversal. -/
def Visit
    (suppliers : Suppliers dependencies)
    (calls : Calls)
    (name : String)
    (strict : Bool)
    (done : List String)
    (world : World) : Prop :=
  ∃ marks handle after,
    calls.resolve name strict world = some (.ok (some handle), after) ∧
      after.registry.cache.find? name = some handle ∧
      dependencies.DepthFirst done [name] marks ∧
      suppliers.Traversed marks world after

/--
Calls for a name visit it wherever its names are bound and what has been left is
cached.
-/
def Visits
    (suppliers : Suppliers dependencies)
    (resolver : Resolver)
    (calls : Calls)
    (name : String) : Prop :=
  ∀ ⦃done world⦄ strict,
    suppliers.Prepared resolver done world →
    suppliers.Visit calls name strict done world

variable
  {resolver : Resolver}
  {calls : Calls}
  {done todo : List String}

/-- A constructor traverses what it obtains, in the order in which it obtains it. -/
theorem run_of_obtains
    {made : Handler → Prop}
    {script : Script .construct}
    (obtains : script.Obtains made todo)
    (visits : ∀ name ∈ todo, suppliers.Visits resolver calls name)
    (prepared : suppliers.Prepared resolver done world) :
    ∃ marks handler after,
      script.run calls world = some (.ok handler, after) ∧
        made handler ∧
        dependencies.DepthFirst done todo marks ∧
        suppliers.Traversed marks world after := by
  induction obtains generalizing done world with
  | @build handler isMade =>
      exact ⟨[], handler, world, rfl, isMade, .nil, .refl world⟩
  | @resolve name rest strict next _ inductionHypothesis =>
      obtain ⟨first, handle, middle, resolved, _, depthFirst, traversed⟩ :=
        visits name List.mem_cons_self strict prepared
      obtain ⟨second, handler, after, ran, isMade, depthFirstNext, traversedNext⟩ :=
        inductionHypothesis handle
          (fun other member => visits other (List.mem_cons_of_mem _ member))
          (prepared.traversed traversed)
      refine ⟨first ++ second, handler, after, ?_, isMade,
        depthFirst.cons depthFirstNext, traversed.trans traversedNext⟩
      rw [Script.run, Run.bind_of_eq resolved]
      exact ran
  | readSettings _ inductionHypothesis =>
      exact inductionHypothesis world.registry.settings visits prepared
  | @note _ remark _ _ inductionHypothesis =>
      have noted :
          suppliers.Traversed [] world (world.record (.noted remark)) :=
        .noted world remark
      have preparedStill :
          suppliers.Prepared resolver done (world.record (.noted remark)) :=
        { binds := prepared.binds, cached := prepared.cached }
      obtain ⟨marks, handler, after, ran, isMade, depthFirst, traversed⟩ :=
        inductionHypothesis visits preparedStill
      exact ⟨marks, handler, after, ran, isMade, depthFirst, noted.trans traversed⟩

/--
A construction enters the constructor, which then traverses what the name needs.
-/
theorem builds_of_obtains
    (present : name ∈ dependencies.names)
    (visits :
      ∀ needed ∈ dependencies.needs name, suppliers.Visits resolver calls needed)
    (prepared : suppliers.Prepared resolver done world) :
    ∃ typeName index marks handler after,
      calls.builds (suppliers.binding name) ((world.record (.called name)).ask name)
          (.ok handler) after ∧
        suppliers.makes name handler ∧
        dependencies.DepthFirst done (dependencies.needs name) marks ∧
        suppliers.Traversed marks
          (world.opened name (suppliers.binding name).serial typeName index)
          after := by
  have obtains := suppliers.obtains present
  unfold Binding.Obtains at obtains
  cases descriptor : (suppliers.binding name).descriptor with
  | abstract typeName =>
      rw [descriptor] at obtains
      cases obtains
  | plain typeName handler =>
      rw [descriptor] at obtains
      obtain ⟨nothing, isMade⟩ := obtains
      refine ⟨typeName, none, [], handler,
        world.opened name (suppliers.binding name).serial typeName none, ?_,
          isMade, ?_,
        .refl _⟩
      · unfold Calls.builds Binding.instantiate
        rw [descriptor]
        rfl
      · rw [nothing]
        exact .nil
  | factory typeName make =>
      rw [descriptor] at obtains
      obtain ⟨marks, handler, after, ran, isMade, depthFirst, traversed⟩ :=
        run_of_obtains (obtains _) visits (prepared.opened _ _ typeName _)
      exact ⟨typeName, _, marks, handler, after,
        Calls.builds_of_factory descriptor ran, isMade, depthFirst, traversed⟩

/-- A name that has been left is met in the cache. -/
theorem visits_of_done
    {depth : Nat}
    (present : name ∈ dependencies.names)
    (prepared : suppliers.Prepared resolver done world)
    (known : name ∈ done)
    (strict : Bool) :
    suppliers.Visit (Calls.nested resolver (depth + 1)) name strict done world := by
  obtain ⟨handle, found⟩ :=
    Option.isSome_iff_exists.mp ((prepared.cached present).mpr known)
  have foundCalled :
      (world.record (.called name)).registry.cache.find? name = some handle :=
    found
  exact ⟨[.meet name], handle, _, (Resolved.cached foundCalled).nested_eq strict,
    found, .of_meet known, .meet world name (some handle)⟩

/-- A name that is new is entered, and left after what it needs. -/
theorem visits_of_new
    {depth : Nat}
    (present : name ∈ dependencies.names)
    (visits :
      ∀ needed ∈ dependencies.needs name,
        suppliers.Visits resolver (Calls.nested resolver depth) needed)
    (prepared : suppliers.Prepared resolver done world)
    (new : name ∉ done)
    (strict : Bool) :
    suppliers.Visit (Calls.nested resolver (depth + 1)) name strict done world := by
  obtain ⟨typeName, index, inner, handler, built, construction, isMade, inside,
    traversed⟩ := builds_of_obtains present visits prepared
  have named : name ≠ "" := by
    intro empty
    exact dependencies.named (empty ▸ present)
  have missed :
      (world.record (.called name)).registry.cache.find? name = none := by
    exact Option.not_isSome_iff_eq_none.mp (mt (prepared.cached present).mp new)
  have bound :
      resolver (world.record (.called name)).directory name =
        .bound (suppliers.binding name) :=
    prepared.binds present world.directory.asked
  -- Nothing that the name needs can have published the name itself.
  have unpublished : built.registry.cache.find? name = none := by
    have notLeft := inside.not_mem_left_of_needs present
    have builtPrepared := (prepared.opened _ _ _ _).traversed traversed
    exact Option.not_isSome_iff_eq_none.mp
      (mt (builtPrepared.cached present).mp (by simp [new, notLeft]))
  have published :=
    (Resolved.published missed named bound construction unpublished).nested_eq strict
  refine ⟨_, _, _, published, ?_, .of_visit new inside,
    traversed.visit isMade (some ⟨name, built.handlers.length⟩)⟩
  change (World.insert _ name _).registry.cache.find? name = _
  rw [World.find?_insert, if_pos rfl]

/-- Calls that may nest deeper than a name's rank visit the name. -/
theorem visits_nested
    {depth : Nat}
    (present : name ∈ dependencies.names)
    (deep : dependencies.rank name < depth) :
    suppliers.Visits resolver (Calls.nested resolver depth) name := by
  induction depth generalizing name with
  | zero =>
      cases deep
  | succ depth inductionHypothesis =>
      intro done world strict prepared
      by_cases known : name ∈ done
      · exact visits_of_done present prepared known strict
      · refine visits_of_new present ?_ prepared known strict
        intro needed needs
        have smaller := dependencies.rank_lt_of_needs present needs
        exact inductionHypothesis (dependencies.closed present needs)
          (Nat.lt_of_lt_of_le smaller (Nat.le_of_lt_succ deep))

/-- A name has a handle of its own, whose handler its own constructor has built. -/
structure Supplied
    (suppliers : Suppliers dependencies)
    (world : World)
    (name : String)
    (handle : Handle) : Prop where
  cached :
    world.registry.cache.find? name = some handle
  titled :
    handle.schemeName = name
  made :
    ∃ handler,
      world.handlers[handle.instanceId]? = some handler ∧
        suppliers.makes name handler

/-- Every name that is left once has a handle. -/
theorem Traversed.supplied
    (traversed : suppliers.Traversed marks before after)
    (nodup : (Mark.left marks).Nodup)
    (member : name ∈ Mark.left marks) :
    ∃ handle, suppliers.Supplied after name handle := by
  obtain ⟨index, present⟩ := List.mem_iff_getElem?.mp member
  obtain ⟨built, handlers, made⟩ := traversed.handlers
  obtain ⟨inBounds, atIndex⟩ := List.getElem?_eq_some_iff.mp present
  have builtInBounds : index < built.length := made.length_eq ▸ inBounds
  refine ⟨⟨name, before.handlers.length + index⟩, ?_, rfl, built[index], ?_, ?_⟩
  · rw [traversed.registry]
    exact Registry.find?_fill_of_getElem? _ _ nodup present
  · rw [handlers, List.getElem?_append_right (Nat.le_add_right _ _),
      Nat.add_sub_cancel_left]
    exact List.getElem?_eq_getElem builtInBounds
  · rw [← atIndex]
    exact (List.forall₂_iff_get.mp made).2 index inBounds builtInBounds

/--
Resolving a name whose dependencies form no circle and are not yet cached is a
depth-first traversal of them.  All that the name reaches is looked up once and
its constructor is started once, on entering it, and is constructed and
published once, on leaving it, hence after all that it requires.  Every other
call on the way is a cache hit, and nothing is discarded.
-/
theorem dependencies_constructed
    {dependencies : Dependencies}
    (suppliers : Suppliers dependencies)
    (resolver : Resolver)
    {depth : Nat}
    {world : World}
    {root : String}
    (present : root ∈ dependencies.names)
    (binds :
      ∀ name ∈ dependencies.names,
        resolver.Binds world.directory name (suppliers.binding name))
    (unpublished :
      ∀ name ∈ dependencies.names,
        world.registry.cache.find? name = none)
    (deep : dependencies.names.card ≤ depth)
    (strict : Bool) :
    ∃ marks handle after,
      (Calls.nested resolver depth).resolve root strict world =
          some (.ok (some handle), after) ∧
        suppliers.Supplied after root handle ∧
        dependencies.DepthFirst [] [root] marks ∧
        suppliers.Traversed marks world after ∧
        (∀ name, name ∈ Mark.left marks ↔ dependencies.Reaches root name) ∧
        (Mark.left marks).Nodup ∧
        (Mark.entered marks).Perm (Mark.left marks) ∧
        dependencies.Respects (Mark.left marks) ∧
        (∀ name,
          dependencies.Reaches root name →
          ∃ handle, suppliers.Supplied after name handle) ∧
        ∀ name,
          ¬ dependencies.Reaches root name →
          after.registry.cache.find? name = world.registry.cache.find? name := by
  have prepared : suppliers.Prepared resolver [] world := by
    refine { binds := fun {name} => binds name, cached := ?_ }
    intro name among
    simp [unpublished name among]
  have shallow : dependencies.rank root < depth :=
    Nat.lt_of_lt_of_le (dependencies.rank_lt_card present) deep
  obtain ⟨marks, handle, after, resolved, cached, depthFirst, traversed⟩ :=
    visits_nested present shallow strict prepared
  have nodup : (Mark.left marks).Nodup :=
    depthFirst.nodup_left (by simpa using present)
  have reached :
      ∀ name, name ∈ Mark.left marks ↔ dependencies.Reaches root name := by
    intro name
    rw [depthFirst.mem_left_iff]
    simp
  have supplied :
      ∀ name,
        dependencies.Reaches root name →
        ∃ handle, suppliers.Supplied after name handle := by
    intro name reaches
    exact traversed.supplied nodup ((reached name).mpr reaches)
  refine ⟨marks, handle, after, resolved, ?_, depthFirst, traversed, reached, nodup,
    depthFirst.entered_perm_left, depthFirst.postOrder.respects, supplied, ?_⟩
  · obtain ⟨other, rootSupplied⟩ := supplied root .refl
    have same := cached.symm.trans rootSupplied.cached
    cases same
    exact rootSupplied
  · intro name unreached
    rw [traversed.registry]
    exact Registry.find?_fill_of_not_mem _ _ (mt (reached name).mp unreached)

/-- The second name is needed twice by the first, the third by both others. -/
def archNeeds
    (name : String) : List String :=
  if name = "top" then
    ["side", "base", "side"]
  else if name = "side" then
    ["base"]
  else
    []

theorem needed_of_archNeeds
    {name needed : String}
    (needs : needed ∈ archNeeds name) :
    name = "top" ∧ (needed = "side" ∨ needed = "base") ∨
      name = "side" ∧ needed = "base" := by
  unfold archNeeds at needs
  split at needs
  · rename_i isTop
    have among : needed = "side" ∨ needed = "base" ∨ needed = "side" := by
      simpa using needs
    rcases among with same | same | same
    · exact .inl ⟨isTop, .inl same⟩
    · exact .inl ⟨isTop, .inr same⟩
    · exact .inl ⟨isTop, .inl same⟩
  · split at needs
    · rename_i isSide
      exact .inr ⟨isSide, List.mem_singleton.mp needs⟩
    · cases needs

/-- These three names. -/
def arch : Dependencies where
  names := {"top", "side", "base"}
  needs := archNeeds
  named := by decide
  closed := by
    intro name needed _ needs
    rcases needed_of_archNeeds needs with ⟨_, rfl | rfl⟩ | ⟨_, rfl⟩ <;> decide
  acyclic := by
    intro name _
    refine Dependencies.acyclic_of_height
      (fun name => if name = "top" then 2 else if name = "side" then 1 else 0) ?_
    intro name needed needs
    rcases needed_of_archNeeds needs with ⟨rfl, rfl | rfl⟩ | ⟨rfl, rfl⟩ <;> decide

/-- What each of the three is built by. -/
def archBinding
    (name : String) : Binding :=
  if name = "top" then
    ⟨0, .factory "Top" fun _ =>
      .resolve "side" true fun _ =>
        .resolve "base" false fun _ =>
          .resolve "side" false fun _ => .build .echo⟩
  else if name = "side" then
    ⟨1, .factory "Side" fun _ => .resolve "base" true fun _ => .build .null⟩
  else
    ⟨2, .plain "Base" .null⟩

def archSuppliers : Suppliers arch where
  binding := archBinding
  makes name handler := handler = if name = "top" then .echo else .null
  obtains := by
    intro name present
    have known : name = "top" ∨ name = "side" ∨ name = "base" := by
      simpa [arch] using present
    rcases known with rfl | rfl | rfl
    · intro index
      exact .resolve fun _ => .resolve fun _ => .resolve fun _ => .build rfl
    · intro index
      exact .resolve fun _ => .build rfl
    · exact ⟨rfl, rfl⟩

/-- A world in which they are bound. -/
def archWorld : World :=
  let top :=
    ((World.create .default).register "top" (archBinding "top").descriptor).2
  let side := (top.register "side" (archBinding "side").descriptor).2
  (side.register "base" (archBinding "base").descriptor).2

theorem archWorld_binds
    {name : String}
    (present : name ∈ arch.names) :
    Resolver.ofTable.Binds archWorld.directory name
        (archSuppliers.binding name) := by
  have known : name = "top" ∨ name = "side" ∨ name = "base" := by
    simpa [arch] using present
  rcases known with rfl | rfl | rfl
  · exact Resolver.ofTable_binds rfl
  · exact Resolver.ofTable_binds rfl
  · exact Resolver.ofTable_binds rfl

/-- The three are left in post-order, and all are supplied. -/
theorem arch_dependencies_constructed :
    ∃ marks handle after,
      (Calls.nested .ofTable 3).resolve "top" true archWorld =
          some (.ok (some handle), after) ∧
        archSuppliers.Supplied after "top" handle ∧
        arch.Respects (Mark.left marks) ∧
        ∃ other, archSuppliers.Supplied after "base" other := by
  obtain ⟨marks, handle, after, resolved, supplied, _, _, _, _, _, respects, all,
      _⟩ :=
    @dependencies_constructed arch archSuppliers .ofTable 3 archWorld
      "top" (by decide)
      (fun _ => archWorld_binds) (fun _ _ => rfl) (Nat.le_refl 3) true
  refine ⟨marks, handle, after, resolved, supplied, respects, all "base" ?_⟩
  exact .single (show "base" ∈ archNeeds "top" by decide)

/--
A name may be looked up, and its constructor started, before what the name needs.
-/
theorem arch_lookups_not_postOrder :
    ∃ after,
      (Calls.nested .ofTable 3).resolve "top" true archWorld =
          some (.ok (some ⟨"top", 2⟩), after) ∧
        after.directory.asked = ["top", "side", "base"] ∧
        after.journal.started = [0, 1, 2] ∧
        ¬ arch.Respects after.directory.asked := by
  refine ⟨_, rfl, rfl, rfl, ?_⟩
  intro respects
  have first :=
    respects [] "top" ["side", "base"] rfl "base"
      (.single (show "base" ∈ archNeeds "top" by decide))
  cases first

end Suppliers

end Dispatch
