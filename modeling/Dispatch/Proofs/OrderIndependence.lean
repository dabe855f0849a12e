import Mathlib.Data.List.Dedup
import Dispatch.Proofs.ComposedNames
import Dispatch.Proofs.Strictness

namespace Dispatch

/-!
# The order of resolving

Where bindings do not change, and constructors leave the registry alone and
always come to the same end, what a list of resolve calls does is a function of
the names: those that can be built are looked up once, the others whenever they
are asked for, the empty name never.  `Catalogue.Reached` is the generalisation
over the names that have been resolved so far.
-/

/--
A world after a start: the resolver was asked for names and handlers were built,
but nothing was bound or configured anew.
-/
structure World.Follows (start world : World) : Prop where
  directory :
    ∃ asked, world.directory = { start.directory with asked := asked }
  handlers :
    start.handlers <+: world.handlers
  settings :
    world.registry.settings = start.registry.settings

/--
Whenever it is built from after a start, a binding gives a handler, or never
does; and its constructor has then asked the resolver for nothing and left the
registry alone.
-/
def Binding.Steady
    (calls : Calls)
    (start : World)
    (succeeds : Bool)
    (binding : Binding) : Prop :=
  ∀ world,
    start.Follows world →
    ∃ outcome after,
      calls.builds binding world outcome after ∧
        outcome.isOk = succeeds ∧
        after.directory = world.directory ∧
        after.registry = world.registry

/--
What a resolver has on offer: bindings that do not depend on who was asked for,
and whether what is bound to a name can be built.
-/
structure Catalogue
    (resolver : Resolver)
    (depth : Nat)
    (start : World) where
  bound : String → Option Binding
  succeeds : String → Bool
  offers :
    resolver.Offers start.directory bound
  steady :
    ∀ name binding,
      name ≠ "" →
      bound name = some binding →
      binding.Steady (Calls.nested resolver depth) start (succeeds name)

namespace Catalogue

variable
  {resolver : Resolver}
  {depth : Nat}
  {start : World}

/-- A name that is not empty is bound to a constructor that succeeds. -/
def buildable
    (catalogue : Catalogue resolver depth start)
    (name : String) : Bool :=
  name != "" && (catalogue.bound name).isSome && catalogue.succeeds name

/-- A name is looked up in vain. -/
def barren
    (catalogue : Catalogue resolver depth start)
    (name : String) : Bool :=
  name != "" && !catalogue.buildable name

/--
The lookups for a list of names: one for each name to build, and all that are in
vain.
-/
def lookups
    (catalogue : Catalogue resolver depth start)
    (names : List String) : List String :=
  (names.filter catalogue.buildable).dedup ++ names.filter catalogue.barren

variable
  {catalogue : Catalogue resolver depth start}
  {name : String}
  {past : List String}

theorem named_of_buildable
    (buildable : catalogue.buildable name = true) :
    name ≠ "" := by
  simp only [Catalogue.buildable, Bool.and_eq_true, bne_iff_ne] at buildable
  exact buildable.1.1

theorem not_barren_of_buildable
    (buildable : catalogue.buildable name = true) :
    catalogue.barren name = false := by
  simp [barren, buildable]

/--
Names that are equal but for their order have the same lookups but for their order.
-/
theorem lookups_perm
    {names others : List String}
    (same : names.Perm others) :
    (catalogue.lookups names).Perm (catalogue.lookups others) :=
  (same.filter _).dedup.append (same.filter _)

/-- A name that has been built is not looked up again. -/
theorem lookups_of_known
    (known : name ∈ past)
    (buildable : catalogue.buildable name = true) :
    catalogue.lookups (name :: past) = catalogue.lookups past := by
  have member : name ∈ past.filter catalogue.buildable :=
    List.mem_filter.mpr ⟨known, buildable⟩
  simp [lookups, buildable, not_barren_of_buildable buildable,
    List.dedup_cons_of_mem member]

/-- A name to build is looked up the first time. -/
theorem lookups_of_new
    (new : name ∉ past)
    (buildable : catalogue.buildable name = true) :
    catalogue.lookups (name :: past) = name :: catalogue.lookups past := by
  have notMember : name ∉ past.filter catalogue.buildable := by
    intro member
    exact new (List.mem_filter.mp member).1
  simp [lookups, buildable, not_barren_of_buildable buildable,
    List.dedup_cons_of_notMem notMember]

/-- The empty name is never looked up. -/
theorem lookups_of_empty :
    catalogue.lookups ("" :: past) = catalogue.lookups past := by
  simp [lookups, buildable, barren]

/-- A name that cannot be built is looked up every time. -/
theorem lookups_of_barren
    (barren : catalogue.barren name = true) :
    (name :: catalogue.lookups past).Perm (catalogue.lookups (name :: past)) := by
  have unbuildable : catalogue.buildable name = false := by
    simp only [Catalogue.barren, Bool.and_eq_true, Bool.not_eq_true'] at barren
    exact barren.2
  simp only [lookups, List.filter_cons, unbuildable, barren, Bool.false_eq_true,
    ↓reduceIte]
  exact List.perm_middle.symm

/-- The names resolved so far, and the world that this has led to. -/
structure Reached
    (catalogue : Catalogue resolver depth start)
    (past : List String)
    (world : World) : Prop where
  follows :
    start.Follows world
  cached :
    ∀ name,
      (world.registry.cache.find? name).isSome = true ↔
        name ∈ past ∧ catalogue.buildable name = true
  asked :
    ∃ looked,
      world.directory.asked = start.directory.asked ++ looked ∧
        looked.Perm (catalogue.lookups past)

namespace Reached

variable {world after : World}

/-- At the start nothing has been resolved. -/
theorem ofFresh
    (catalogue : Catalogue resolver depth start)
    (fresh : start.registry.cache = Table.empty) :
    catalogue.Reached [] start where
  follows := ⟨⟨start.directory.asked, rfl⟩, List.prefix_rfl, rfl⟩
  cached name := by
    rw [fresh]
    simp
  asked := ⟨[], by simp, .refl _⟩

/-- The resolver answers as it has answered at the start. -/
theorem binding?_eq
    (reached : catalogue.Reached past world)
    (named : name ≠ "") :
    (resolver world.directory name).binding? = catalogue.bound name := by
  obtain ⟨asked, isDirectory⟩ := reached.follows.directory
  rw [isDirectory]
  exact catalogue.offers name asked named

/-- What one more name must do to the world that has been reached. -/
theorem next
    (reached : catalogue.Reached past world)
    (grows : world.Grows after)
    {looked : List String}
    (directory :
      after.directory =
        { world.directory with asked := world.directory.asked ++ looked })
    (lookups :
      (looked ++ catalogue.lookups past).Perm (catalogue.lookups (name :: past)))
    (cached :
      ∀ other,
        (after.registry.cache.find? other).isSome = true ↔
          (world.registry.cache.find? other).isSome = true ∨
            other = name ∧ catalogue.buildable name = true) :
    catalogue.Reached (name :: past) after where
  follows := by
    obtain ⟨asked, isDirectory⟩ := reached.follows.directory
    exact
      { directory :=
        ⟨world.directory.asked ++ looked, by rw [directory, isDirectory]⟩
        handlers := reached.follows.handlers.trans grows.handlers
        settings := grows.settings.trans reached.follows.settings }
  cached other := by
    rw [cached, reached.cached, List.mem_cons]
    constructor
    · rintro (⟨member, buildable⟩ | ⟨rfl, buildable⟩)
      · exact ⟨.inr member, buildable⟩
      · exact ⟨.inl rfl, buildable⟩
    · rintro ⟨rfl | member, buildable⟩
      · exact .inr ⟨rfl, buildable⟩
      · exact .inl ⟨member, buildable⟩
  asked := by
    obtain ⟨earlier, areEarlier, isEarlier⟩ := reached.asked
    refine ⟨earlier ++ looked, ?_, ?_⟩
    · rw [directory, ← List.append_assoc, ← areEarlier]
    · exact ((isEarlier.append_right _).trans List.perm_append_comm).trans lookups

/-- A name that is not looked up leaves everything as it is. -/
theorem nextIdle
    (reached : catalogue.Reached past world)
    (grows : world.Grows after)
    (directory : after.directory = world.directory)
    (registry : after.registry = world.registry)
    (lookups : catalogue.lookups (name :: past) = catalogue.lookups past)
    (known :
      catalogue.buildable name = true →
      (world.registry.cache.find? name).isSome = true) :
    catalogue.Reached (name :: past) after := by
  have nobody :
      after.directory =
        { world.directory with asked := world.directory.asked ++ [] } := by
    simp [directory]
  refine reached.next grows nobody (by rw [lookups]; exact .refl _) fun other => ?_
  rw [registry]
  constructor
  · exact .inl
  · rintro (cached | ⟨rfl, buildable⟩)
    · exact cached
    · exact known buildable

/-- A name that is looked up in vain leaves the cache as it is. -/
theorem nextBarren
    (reached : catalogue.Reached past world)
    (grows : world.Grows after)
    (barren : catalogue.barren name = true)
    (directory :
      after.directory =
        { world.directory with asked := world.directory.asked ++ [name] })
    (registry : after.registry = world.registry) :
    catalogue.Reached (name :: past) after := by
  have unbuildable : catalogue.buildable name ≠ true := by
    intro buildable
    rw [not_barren_of_buildable buildable] at barren
    cases barren
  refine reached.next grows directory (lookups_of_barren barren) fun other => ?_
  rw [registry]
  constructor
  · exact .inl
  · rintro (cached | ⟨-, buildable⟩)
    · exact cached
    · exact absurd buildable unbuildable

end Reached

/--
A resolve call for one more name: it has a handle if and only if it can be built.
-/
structure Resolves
    (catalogue : Catalogue resolver depth start)
    (past : List String)
    (world : World)
    (name : String)
    (handle : Option Handle)
    (ended : World) : Prop where
  resolved :
    Resolved resolver (Calls.nested resolver depth).builds name
      (world.record (.called name)) handle ended
  isSome :
    handle.isSome = catalogue.buildable name
  reached :
    catalogue.Reached (name :: past) (ended.record (.returned name handle))

section

variable {world : World}

/-- No call takes anything away. -/
theorem grows_of_resolved
    {handle : Option Handle}
    {ended : World}
    (resolved :
      Resolved resolver (Calls.nested resolver depth).builds name
        (world.record (.called name)) handle ended) :
    world.Grows (ended.record (.returned name handle)) :=
  (World.Grows.stable.nested resolver (depth + 1)).resolve name true
    (resolved.nested_eq true)

/-- A name that has a handle is answered from the cache. -/
theorem Reached.resolves_cached
    (reached : catalogue.Reached past world)
    {handle : Handle}
    (found : world.registry.cache.find? name = some handle) :
    ∃ handle ended, catalogue.Resolves past world name handle ended := by
  have isCached : (world.registry.cache.find? name).isSome = true := by
    rw [found]
    rfl
  obtain ⟨known, buildable⟩ := (reached.cached name).mp isCached
  have resolved :
      Resolved resolver (Calls.nested resolver depth).builds name
        (world.record (.called name)) (some handle) _ := .cached found
  exact ⟨_, _, resolved, buildable.symm,
    reached.nextIdle (grows_of_resolved resolved) rfl rfl
      (lookups_of_known known buildable) fun _ => isCached⟩

/-- The empty name has no handle, and nothing comes of it. -/
theorem Reached.resolves_empty
    (reached : catalogue.Reached past world)
    (missed : world.registry.cache.find? "" = none) :
    ∃ handle ended, catalogue.Resolves past world "" handle ended := by
  have resolved :
      Resolved resolver (Calls.nested resolver depth).builds ""
        (world.record (.called "")) none _ := .nameless missed rfl
  exact ⟨_, _, resolved, rfl,
    reached.nextIdle (grows_of_resolved resolved) rfl rfl lookups_of_empty
      fun buildable => absurd rfl (named_of_buildable buildable)⟩

/-- A name to which nothing is bound has no handle. -/
theorem Reached.resolves_unbound
    (reached : catalogue.Reached past world)
    (missed : world.registry.cache.find? name = none)
    (named : name ≠ "")
    (unbound : (resolver world.directory name).binding? = none) :
    ∃ handle ended, catalogue.Resolves past world name handle ended := by
  have unknown : catalogue.bound name = none :=
    (reached.binding?_eq named).symm.trans unbound
  have unbuildable : catalogue.buildable name = false := by
    simp [buildable, unknown]
  have barren : catalogue.barren name = true := by
    simp [Catalogue.barren, unbuildable, named]
  cases answer : resolver world.directory name with
  | bound binding =>
      rw [answer] at unbound
      cases unbound
  | unbound =>
      have resolved :
          Resolved resolver (Calls.nested resolver depth).builds name
            (world.record (.called name)) none _ := .unbound missed named answer
      exact ⟨_, _, resolved, unbuildable.symm,
        reached.nextBarren (grows_of_resolved resolved) barren rfl rfl⟩
  | failed failure =>
      have resolved :
          Resolved resolver (Calls.nested resolver depth).builds name
            (world.record (.called name)) none _ := .lookupFailed missed named answer
      exact ⟨_, _, resolved, unbuildable.symm,
        reached.nextBarren (grows_of_resolved resolved) barren rfl rfl⟩

/-- A name that has a binding but no handle is built, or cannot be. -/
theorem Reached.resolves_bound
    (reached : catalogue.Reached past world)
    (missed : world.registry.cache.find? name = none)
    (named : name ≠ "")
    {binding : Binding}
    (answer : resolver world.directory name = .bound binding) :
    ∃ handle ended, catalogue.Resolves past world name handle ended := by
  have bound : catalogue.bound name = some binding := by
    rw [← reached.binding?_eq named, answer]
    rfl
  have asked : start.Follows ((world.record (.called name)).ask name) := by
    obtain ⟨earlier, isDirectory⟩ := reached.follows.directory
    exact
      { directory := ⟨earlier ++ [name], by
          simp [World.ask, World.record, Directory.ask, isDirectory]⟩
        handlers := reached.follows.handlers
        settings := reached.follows.settings }
  obtain ⟨outcome, built, construction, succeeds, directory,
    (registry : built.registry = world.registry)⟩ :=
    catalogue.steady name binding named bound _ asked
  cases outcome with
  | error failure =>
      have unbuildable : catalogue.buildable name = false := by
        simp [buildable, ← succeeds, Except.isOk, Except.toBool]
      have barren : catalogue.barren name = true := by
        simp [Catalogue.barren, unbuildable, named]
      have resolved :
          Resolved resolver (Calls.nested resolver depth).builds name
            (world.record (.called name)) none _ :=
        .constructionFailed missed named answer construction
      exact ⟨_, _, resolved, unbuildable.symm,
        reached.nextBarren (grows_of_resolved resolved) barren directory registry⟩
  | ok handler =>
      have buildable : catalogue.buildable name = true := by
        simp [buildable, ← succeeds, Except.isOk, Except.toBool, named, bound]
      have unpublished : built.registry.cache.find? name = none := by
        rw [registry]
        exact missed
      have new : name ∉ past := by
        intro known
        have cached := (reached.cached name).mpr ⟨known, buildable⟩
        rw [missed] at cached
        cases cached
      have resolved :
          Resolved resolver (Calls.nested resolver depth).builds name
            (world.record (.called name)) (some _) _ :=
        .published missed named answer construction unpublished
      refine ⟨_, _, resolved, buildable.symm, ?_⟩
      refine reached.next (grows_of_resolved resolved) directory
        (by rw [lookups_of_new new buildable]; rfl) fun other => ?_
      change
        ((World.insert _ name _).registry.cache.find? other).isSome = true ↔ _
      rw [World.find?_insert, World.settle_registry, registry]
      by_cases same : other = name
      · simp [same, buildable]
      · simp [same]

/-- One more name is resolved. -/
theorem Reached.resolves
    (reached : catalogue.Reached past world)
    (name : String) :
    ∃ handle ended, catalogue.Resolves past world name handle ended := by
  cases missed : world.registry.cache.find? name with
  | some handle =>
      exact reached.resolves_cached missed
  | none =>
      by_cases named : name = ""
      · subst named
        exact reached.resolves_empty missed
      · cases unbound : (resolver world.directory name).binding? with
        | none =>
            exact reached.resolves_unbound missed named unbound
        | some binding =>
            cases answer : resolver world.directory name with
            | bound binding =>
                exact reached.resolves_bound missed named answer
            | unbound =>
                rw [answer] at unbound
                cases unbound
            | failed failure =>
                rw [answer] at unbound
                cases unbound

/--
One more operation that resolves a name answers what the cache then holds for it.
-/
theorem Reached.perform
    (reached : catalogue.Reached past world)
    (entrance : Entrance)
    (name : String) :
    ∃ after,
      (entrance.operation name).perform (Calls.nested resolver (depth + 1)) world =
          some
            (entrance.answer start.registry.settings name
              (after.registry.cache.find? name),
              after) ∧
        catalogue.Reached (name :: past) after := by
  obtain ⟨handle, ended, resolves⟩ := reached.resolves name
  refine ⟨ended.record (.returned name handle), ?_, resolves.reached⟩
  have isHandle : ended.registry.cache.find? name = handle := by
    cases handle with
    | some handle =>
        exact resolves.resolved.holds
    | none =>
        have unbuildable := resolves.isSome
        have cached := resolves.reached.cached name
        rw [← unbuildable] at cached
        exact Option.not_isSome_iff_eq_none.mp fun isSome =>
          absurd (cached.mp isSome).2 nofun
  change _ = some (entrance.answer _ name (ended.registry.cache.find? name), _)
  rw [isHandle, ← reached.follows.settings]
  exact (Operation.perform_nested_eq_some_iff (entrance.resolves_operation name)).mpr
    ⟨handle, ended, resolves.resolved, entrance.conclude_operation _ _ _ _ _⟩

/-- Of a name that has been resolved, the cache holds the same from then on. -/
theorem Reached.find?_eq
    (reached : catalogue.Reached past world)
    {more : List String}
    {after : World}
    (later : catalogue.Reached more after)
    (grows : world.Grows after)
    (member : name ∈ past) :
    world.registry.cache.find? name = after.registry.cache.find? name := by
  cases found : world.registry.cache.find? name with
  | some handle =>
      exact (grows.cached found).symm
  | none =>
      refine (Option.not_isSome_iff_eq_none.mp fun isSome => ?_).symm
      have cached :=
        (reached.cached name).mpr ⟨member, ((later.cached name).mp isSome).2⟩
      rw [found] at cached
      cases cached

end

end Catalogue

namespace Entrance

/-- The operations that go the given ways. -/
def operations
    (requests : List (Entrance × String)) : List Operation :=
  requests.map fun request => request.1.operation request.2

/-- What they answer if each is given what a registry holds for its name. -/
def answers
    (registry : Registry)
    (requests : List (Entrance × String)) : List Answer :=
  requests.map fun request =>
    request.1.answer registry.settings request.2 (registry.cache.find? request.2)

end Entrance

namespace Catalogue

variable
  {resolver : Resolver}
  {depth : Nat}
  {start world : World}
  {catalogue : Catalogue resolver depth start}
  {past : List String}

/-- A whole list of operations answers what the cache holds in the end. -/
theorem Reached.performAll
    (reached : catalogue.Reached past world)
    (requests : List (Entrance × String)) :
    ∃ after,
      Operation.performAll (Calls.nested resolver (depth + 1))
          (Entrance.operations requests) world =
        some (Entrance.answers after.registry requests, after) ∧
      catalogue.Reached ((requests.map Prod.snd).reverse ++ past) after := by
  induction requests generalizing past world with
  | nil =>
      exact ⟨world, rfl, reached⟩
  | cons request rest inductionHypothesis =>
      obtain ⟨entrance, name⟩ := request
      obtain ⟨middle, performed, reachedMiddle⟩ := reached.perform entrance name
      obtain ⟨after, performedRest, reachedAfter⟩ :=
        inductionHypothesis reachedMiddle
      have grows : middle.Grows after :=
        World.Grows.stable.performAll
          (World.Grows.stable.nested resolver (depth + 1)) _
          performedRest
      rw [reachedMiddle.find?_eq reachedAfter grows (List.mem_cons_self ..),
        ← reachedAfter.follows.settings] at performed
      refine ⟨after, ?_, by simpa using reachedAfter⟩
      exact Operation.performAll_cons_eq_some_iff.mpr
        ⟨_, middle, _, performed, performedRest, rfl⟩

/-- The keys of the cache are the names that can be built. -/
theorem Reached.names_perm
    (reached : catalogue.Reached past world) :
    world.registry.cache.names.Perm (past.filter catalogue.buildable).dedup := by
  refine (List.perm_ext_iff_of_nodup world.registry.cache.distinct
    (List.nodup_dedup _)).mpr fun name => ?_
  rw [List.mem_dedup, List.mem_filter, ← reached.cached]
  exact Table.contains_iff_mem_names.symm

/-- A list of names, in whatever order they were resolved. -/
theorem Reached.perm
    (reached : catalogue.Reached past world)
    {names : List String}
    (same : past.Perm names) :
    catalogue.Reached names world where
  follows := reached.follows
  cached name := by
    rw [reached.cached, same.mem_iff]
  asked := by
    obtain ⟨looked, areLooked, isLooked⟩ := reached.asked
    exact ⟨looked, areLooked, isLooked.trans (lookups_perm same)⟩

theorem length_lookups
    (catalogue : Catalogue resolver depth start)
    (names : List String) :
    (catalogue.lookups names).length =
      (names.filter catalogue.buildable).dedup.length +
        names.countP catalogue.barren := by
  rw [lookups, List.length_append, List.countP_eq_length_filter]

/-- From a fresh registry, any list of operations leads to where its names lead. -/
theorem performAll
    (catalogue : Catalogue resolver depth start)
    (fresh : start.registry.cache = Table.empty)
    (requests : List (Entrance × String)) :
    ∃ after,
      Operation.performAll (Calls.nested resolver (depth + 1))
          (Entrance.operations requests) start =
        some (Entrance.answers after.registry requests, after) ∧
      catalogue.Reached (requests.map Prod.snd) after := by
  obtain ⟨after, performed, reached⟩ :=
    (Reached.ofFresh catalogue fresh).performAll requests
  rw [List.append_nil] at reached
  exact ⟨after, performed, reached.perm (List.reverse_perm _)⟩

end Catalogue

/--
Bindings do not change, and constructors leave the registry alone and always
succeed or always fail.  However a list of names is resolved from a fresh
registry, all calls end, and the cache then holds a handle for exactly the
buildable names.  The resolver has been called once for each of them, and once
for each time that another name was asked for, but for the empty one.  Each call
is answered with the handle of its name, if that is buildable, and without one
otherwise.  So in any other order, and with calls of any other kind, the names
have the same keys, the same number of lookups and the same outcomes.
-/
theorem order_independent
    {resolver : Resolver}
    {depth : Nat}
    {start : World}
    (catalogue : Catalogue resolver depth start)
    (fresh : start.registry.cache = Table.empty)
    (requests : List (Entrance × String)) :
    ∃ after,
      Operation.performAll (Calls.nested resolver (depth + 1))
          (Entrance.operations requests) start =
        some (Entrance.answers after.registry requests, after) ∧
      after.registry.cache.names.Perm
        ((requests.map Prod.snd).filter catalogue.buildable).dedup ∧
      (∃ looked,
        after.directory.asked = start.directory.asked ++ looked ∧
          looked.length =
            ((requests.map Prod.snd).filter catalogue.buildable).dedup.length +
              (requests.map Prod.snd).countP catalogue.barren) ∧
      (Entrance.answers after.registry requests).map
        (fun answer => answer.handle?.isSome) =
        requests.map (fun request => catalogue.buildable request.2) ∧
      ∀ others : List (Entrance × String),
        (others.map Prod.snd).Perm (requests.map Prod.snd) →
        ∃ afterwards,
          Operation.performAll (Calls.nested resolver (depth + 1))
              (Entrance.operations others) start =
            some (Entrance.answers afterwards.registry others, afterwards) ∧
          afterwards.registry.cache.names.Perm after.registry.cache.names ∧
          afterwards.directory.asked.length = after.directory.asked.length ∧
          ∀ name,
            (afterwards.registry.cache.find? name).isSome =
              (after.registry.cache.find? name).isSome := by
  obtain ⟨after, performed, reached⟩ := catalogue.performAll fresh requests
  obtain ⟨looked, areLooked, isLooked⟩ := reached.asked
  have counted := isLooked.length_eq.trans (catalogue.length_lookups _)
  refine ⟨after, performed, reached.names_perm, ⟨looked, areLooked, counted⟩, ?_, ?_⟩
  · rw [Entrance.answers, List.map_map]
    refine List.map_congr_left fun request member => ?_
    have isName : request.2 ∈ requests.map Prod.snd := List.mem_map_of_mem member
    rw [Function.comp, Entrance.handle?_answer, Bool.eq_iff_iff, reached.cached]
    exact and_iff_right isName
  · intro others same
    obtain ⟨afterwards, performedOthers, reachedOthers⟩ :=
      catalogue.performAll fresh others
    have reachedSame := reachedOthers.perm same
    obtain ⟨lookedOthers, areOthers, isOthers⟩ := reachedSame.asked
    refine ⟨afterwards, performedOthers,
      reachedSame.names_perm.trans reached.names_perm.symm, ?_, fun name => ?_⟩
    · rw [areOthers, areLooked, List.length_append, List.length_append,
        isOthers.length_eq, isLooked.length_eq]
    · rw [Bool.eq_iff_iff, reachedSame.cached, reached.cached]

/-! ## Constructors that leave the registry alone -/

namespace Binding

variable
  {calls : Calls}
  {start : World}
  {binding : Binding}
  {typeName : String}

/-- A type with a handler of its own always gives it. -/
theorem steady_of_plain
    {handler : Handler}
    (isPlain : binding.descriptor = .plain typeName handler) :
    binding.Steady calls start true :=
  fun _ _ => ⟨.ok handler, _, Calls.builds_iff.mpr (.plain isPlain), rfl, rfl, rfl⟩

/-- A type without a constructor never gives a handler. -/
theorem steady_of_abstract
    (isAbstract : binding.descriptor = .abstract typeName) :
    binding.Steady calls start false :=
  fun _ _ => ⟨_, _, Calls.builds_iff.mpr (.abstract isAbstract), rfl, rfl, rfl⟩

/--
A constructor without effects gives a handler always or never, if each of its runs
ends so.
-/
theorem steady_of_factory
    {make : Nat → Script .construct}
    (isFactory : binding.descriptor = .factory typeName make)
    {succeeds : Bool}
    (ends :
      ∀ index settings,
        ∃ outcome, (make index).Ends settings outcome ∧ outcome.isOk = succeeds) :
    binding.Steady calls start succeeds := by
  intro world _
  obtain ⟨outcome, ended, isOk⟩ :=
    ends (world.constructionsOf binding.serial) world.registry.settings
  obtain ⟨after, ran, composed⟩ :=
    ended.run calls
      (world.record
        (.constructing binding.serial typeName
          (some (world.constructionsOf binding.serial)))) rfl
  refine ⟨_, after, Calls.builds_iff.mpr (.factory isFactory ran), ?_, ?_, ?_⟩
  · rw [← isOk]
    cases outcome <;> rfl
  · rw [composed.directory, List.append_nil]
    rfl
  · rw [composed.registry]
    rfl

end Binding

/-- What a type table has on offer. -/
def Catalogue.ofTable
    {depth : Nat}
    {start : World}
    (succeeds : String → Bool)
    (steady :
      ∀ name binding,
        start.directory.table.find? name = some binding →
        binding.Steady (Calls.nested .ofTable depth) start (succeeds name)) :
    Catalogue .ofTable depth start where
  bound := start.directory.table.find?
  succeeds := succeeds
  offers := Resolver.ofTable_offers start.directory
  steady name binding _ := steady name binding

/-- A name that can be built, one that never can, and one whose type is abstract. -/
def shelf : Directory :=
  ((Directory.empty.register "plain" (.plain "Plain" .null)).register "broken"
    (.factory "Broken" fun index =>
      .readSettings fun _ =>
        .fail (Failure.single (toString index)))).register "bare"
    (.abstract "Bare")

theorem shelf_steady
    {calls : Calls}
    {start : World}
    {name : String}
    {binding : Binding}
    (found : shelf.table.find? name = some binding) :
    binding.Steady calls start (name == "plain") := by
  simp only [shelf, Directory.register, Directory.empty, Table.find?_set,
    Table.find?_empty] at found
  split at found
  · rename_i isBare
    subst isBare
    cases found
    exact Binding.steady_of_abstract rfl
  · split at found
    · rename_i isBroken
      subst isBroken
      cases found
      exact Binding.steady_of_factory rfl fun _ _ => ⟨_, .readSettings .fail, rfl⟩
    · split at found
      · rename_i isPlain
        subst isPlain
        cases found
        exact Binding.steady_of_plain rfl
      · cases found

/-- What is on the shelf. -/
def shelfCatalogue :
    Catalogue .ofTable 0 { World.create .default with directory := shelf } :=
  .ofTable (fun name => name == "plain") fun _ _ => shelf_steady

/-- Six calls, one after another: one name is built, and three calls are in vain. -/
def pickups : List (Entrance × String) :=
  [(.find, "broken"), (.resolve true, "plain"), (.resolveOrNone, ""),
    (.resolveStrict, "plain"), (.find, "absent"), (.find, "broken")]

/-- The calls make four lookups between them, and as many in the opposite order. -/
theorem pickups_order_independent :
    ∃ after,
      Operation.performAll (Calls.nested .ofTable 1) (Entrance.operations pickups)
          { World.create .default with directory := shelf } =
        some (Entrance.answers after.registry pickups, after) ∧
      after.registry.cache.names.Perm ["plain"] ∧
      after.directory.asked.length = 4 ∧
      (Entrance.answers after.registry pickups).map
        (fun answer => answer.handle?.isSome) =
        [false, true, false, true, false, false] ∧
      ∃ afterwards,
        Operation.performAll (Calls.nested .ofTable 1)
            (Entrance.operations pickups.reverse)
            { World.create .default with directory := shelf } =
          some (Entrance.answers afterwards.registry pickups.reverse, afterwards) ∧
        afterwards.directory.asked.length = 4 := by
  obtain ⟨after, performed, keys, ⟨looked, areLooked, counted⟩, outcomes,
      reordered⟩ :=
    order_independent shelfCatalogue rfl pickups
  obtain ⟨afterwards, performedReversed, -, same, -⟩ :=
    reordered pickups.reverse (by rw [List.map_reverse]; exact List.reverse_perm _)
  have four : after.directory.asked.length = 4 := by
    rw [areLooked, List.length_append, counted]
    rfl
  exact ⟨after, performed, keys, four, outcomes, afterwards, performedReversed,
    same.trans four⟩

end Dispatch
