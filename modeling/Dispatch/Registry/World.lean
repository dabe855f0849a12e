import Dispatch.Association
import Dispatch.Registry.Event
import Dispatch.Registry.Script

namespace Dispatch

/-!
# The world of a registry

A registry does not stand alone: it shares a resolver and a type table with
others, its scripts build handlers and call them, and all of that is reported.
`World` holds this state around one registry.  Whatever happens is appended to
one journal, so that order and number of lookups, constructions, events and
calls are facts about a single list.  It is kept with the latest entry first, so
that appending is one step, and read through `World.journal`.

A resolve call is made of four atomic steps, each a function on worlds:
`checkCache`, `hear` (the resolver's answer), `settle` (the outcome of a
construction) and `publish`.
-/

/--
A descriptor as it was registered; the serial number tells registrations apart.
-/
structure Binding where
  serial : Nat
  descriptor : Descriptor

/-- What can be seen of a binding. -/
def Binding.summary
    (binding : Binding) : TypeSummary :=
  binding.descriptor.summary

/-- The answer of a resolver. -/
inductive Lookup
  | bound (binding : Binding)
  | unbound
  | failed (failure : LookupFailure)

/--
What a resolver answers from: the type table, arranged failures, and the names it
was asked for.
-/
structure Directory where
  table : Table Binding
  registrations : Nat
  faults : Table String
  asked : List String

/-- Says what is bound to a name. -/
abbrev Resolver := Directory → String → Lookup

/-- The handles that a registry has published, and its settings. -/
structure Registry where
  settings : Settings
  cache : Table Handle

/-- One thing that happened. -/
inductive Entry
  /-- A resolve call began. -/
  | called (name : String)
  /-- A resolve call ended, with a handle or without. -/
  | returned (name : String) (handle : Option Handle)
  /-- The constructor of a registered descriptor was started. -/
  | constructing (serial : Nat) (typeName : String) (index : Option Nat)
  /-- A construction for a resolve call ended. -/
  | instantiated (name : String) (succeeded : Bool)
  /-- A handler was given a request. -/
  | serving (instanceId : Nat) (request : Request)
  /-- A handler ended its work on a request. -/
  | served (instanceId : Nat) (outcome : Except Failure Value)
  /--
  A descriptor was bound to a name; what was bound to it before was handed back.
  -/
  | registered (name : String) (serial : Nat) (previous : Option Binding)
  /-- What was bound to a name was removed and handed back. -/
  | unregistered (name : String) (removed : Option Binding)
  /-- An event was reported. -/
  | emitted (event : Event)
  /-- A script left a remark. -/
  | noted (note : Note)

/-- Everything that happened, in order. -/
abbrev Journal := List Entry

namespace Journal

/-- The events that were reported. -/
def events
    (journal : Journal) : List Event :=
  journal.filterMap fun
    | .emitted event => some event
    | _ => none

/--
The constructions that were started: type names, with indices where they count.
-/
def constructions
    (journal : Journal) : List (String × Option Nat) :=
  journal.filterMap fun
    | .constructing _ typeName index => some (typeName, index)
    | _ => none

/-- How often the constructor of a registered descriptor was started. -/
def constructionsOf
    (serial : Nat)
    (journal : Journal) : Nat :=
  journal.countP fun
    | .constructing other _ _ => other == serial
    | _ => false

/-- The names for which resolve calls began. -/
def called
    (journal : Journal) : List String :=
  journal.filterMap fun
    | .called name => some name
    | _ => none

/-- The resolve calls that ended, with what they obtained. -/
def returned
    (journal : Journal) : List (String × Option Handle) :=
  journal.filterMap fun
    | .returned name handle => some (name, handle)
    | _ => none

/-- The registered descriptors whose constructors were started. -/
def started
    (journal : Journal) : List Nat :=
  journal.filterMap fun
    | .constructing serial _ _ => some serial
    | _ => none

/--
The constructions for resolve calls that ended, and whether they gave a handler.
-/
def instantiated
    (journal : Journal) : List (String × Bool) :=
  journal.filterMap fun
    | .instantiated name succeeded => some (name, succeeded)
    | _ => none

/-- The requests that were given to a handler. -/
def requestsTo
    (instanceId : Nat)
    (journal : Journal) : List Request :=
  journal.filterMap fun
    | .serving other request => if other = instanceId then some request else none
    | _ => none

/-- The remarks that scripts left. -/
def notes
    (journal : Journal) : List Note :=
  journal.filterMap fun
    | .noted note => some note
    | _ => none

end Journal

/-- A registry with everything around it, and what happened, the latest first. -/
structure World where
  directory : Directory
  handlers : List Handler
  registry : Registry
  recent : List Entry

namespace Directory

/-- No bindings, no failures arranged, nobody asked. -/
def empty : Directory where
  table := Table.empty
  registrations := 0
  faults := Table.empty
  asked := []

/-- Takes note that a name was asked for. -/
def ask
    (directory : Directory)
    (name : String) : Directory :=
  { directory with asked := directory.asked ++ [name] }

/-- Binds a descriptor to a name, whatever was bound to it. -/
def register
    (directory : Directory)
    (name : String)
    (descriptor : Descriptor) : Directory :=
  { directory with
    table := directory.table.set name ⟨directory.registrations, descriptor⟩
    registrations := directory.registrations + 1 }

/-- Removes what is bound to a name. -/
def unregister
    (directory : Directory)
    (name : String) : Directory :=
  { directory with table := directory.table.erase name }

/-- Arranges that lookups of a name fail. -/
def breakLookup
    (directory : Directory)
    (name reason : String) : Directory :=
  { directory with faults := directory.faults.set name reason }

/-- Lookups of a name work again. -/
def healLookup
    (directory : Directory)
    (name : String) : Directory :=
  { directory with faults := directory.faults.erase name }

/-- The bindings for diagnostics, if there are at most one and so have an order. -/
def describe
    (directory : Directory) : Option String :=
  match directory.table.entries with
  | [] =>
      some "SchemeTypeTable \x7b bindings: \x7b\x7d \x7d"
  | [(name, binding)] =>
      some ("SchemeTypeTable \x7b bindings: \x7b" ++ Text.quoted name ++ ": " ++
        binding.summary.describe ++ "\x7d \x7d")
  | _ =>
      none

end Directory

namespace Resolver

/-- Answers from the type table. -/
def ofTable : Resolver :=
  fun directory name =>
    match directory.table.find? name with
    | some binding => .bound binding
    | none => .unbound

/-- Answers the same descriptor for every name. -/
def always
    (descriptor : Descriptor) : Resolver :=
  fun _ _ => .bound ⟨0, descriptor⟩

/-- Answers nothing but a failure. -/
def broken
    (reason : String) : Resolver :=
  fun _ name => .failed ⟨name, reason⟩

/-- Fails where a failure is arranged and otherwise asks another resolver. -/
def withFaults
    (resolver : Resolver) : Resolver :=
  fun directory name =>
    match directory.faults.find? name with
    | some reason => .failed ⟨name, reason⟩
    | none => resolver directory name

end Resolver

namespace Registry

/-- A registry that has published nothing. -/
def create
    (settings : Settings) : Registry where
  settings := settings
  cache := Table.empty

/-- A registry with the number of its handles and its settings, for diagnostics. -/
def describe
    (registry : Registry) : String :=
  "SchemeRegistry \x7b cached_schemes: " ++ toString registry.cache.size ++
    ", config: " ++ registry.settings.describe ++ ", .. \x7d"

end Registry

namespace World

/-- Everything that happened, in order. -/
def journal
    (world : World) : Journal :=
  world.recent.reverse

/-- Appends to the journal. -/
def record
    (world : World)
    (entry : Entry) : World :=
  { world with recent := entry :: world.recent }

/-- The journal only ever grows at its end. -/
@[simp] theorem journal_record
    (world : World)
    (entry : Entry) :
    (world.record entry).journal = world.journal ++ [entry] := by
  simp [journal, record]

/-- Reports an event. -/
def emit
    (world : World)
    (event : Event) : World :=
  world.record (.emitted event)

@[simp] theorem journal_emit
    (world : World)
    (event : Event) :
    (world.emit event).journal = world.journal ++ [.emitted event] :=
  journal_record world _

/-- A world with one registry, just created. -/
def create
    (settings : Settings) : World :=
  emit
    { directory := Directory.empty
      handlers := []
      registry := Registry.create settings
      recent := [] }
    (.creating settings.strict)

/-! ## Bindings -/

/-- Binds a descriptor to a name; answers what was bound to it before. -/
def register
    (world : World)
    (name : String)
    (descriptor : Descriptor) : Option Binding × World :=
  let previous := world.directory.table.find? name
  let reported :=
    (world.emit (.binding name descriptor.typeName)).record
      (.registered name world.directory.registrations previous)
  (previous,
    { reported with directory := world.directory.register name descriptor })

/-- Removes what is bound to a name; answers it. -/
def unregister
    (world : World)
    (name : String) : Option Binding × World :=
  let removed := world.directory.table.find? name
  (removed,
    { world.record (.unregistered name removed) with
      directory := world.directory.unregister name })

/-- Arranges that lookups of a name fail. -/
def breakLookup
    (world : World)
    (name reason : String) : World :=
  { world with directory := world.directory.breakLookup name reason }

/-- Lookups of a name work again. -/
def healLookup
    (world : World)
    (name : String) : World :=
  { world with directory := world.directory.healLookup name }

/-! ## The steps of a resolve call -/

/-- Looks for a published handle; a hit is reported. -/
def checkCache
    (world : World)
    (name : String) : Option Handle × World :=
  match world.registry.cache.find? name with
  | some handle => (some handle, world.emit (.cacheHit name))
  | none => (none, world)

/-- Takes note that the resolver was asked for a name. -/
def ask
    (world : World)
    (name : String) : World :=
  { world with directory := world.directory.ask name }

@[simp] theorem journal_ask
    (world : World)
    (name : String) :
    (world.ask name).journal = world.journal :=
  rfl

/-- Takes the resolver's answer for a name; only a binding leads on. -/
def hear
    (world : World)
    (name : String)
    (answer : Lookup) : Option Binding × World :=
  let asked := world.ask name
  match answer with
  | .bound binding => (some binding, asked)
  | .unbound => (none, asked.emit (.unbound name))
  | .failed failure => (none, asked.emit (.lookupFailed name failure))

/-- Gives a new handler a number of its own. -/
def adopt
    (world : World)
    (handler : Handler) : Nat × World :=
  (world.handlers.length, { world with handlers := world.handlers ++ [handler] })

/-- Takes the outcome of a construction; only a handler leads on. -/
def settle
    (world : World)
    (name : String)
    (outcome : Except ConstructionFailure Handler) : Option Nat × World :=
  match outcome with
  | .ok handler =>
      let (instanceId, adopted) :=
        (world.record (.instantiated name true)).adopt handler
      (some instanceId, adopted)
  | .error failure =>
      (none,
        (world.record (.instantiated name false)).emit
          (.constructionFailed name failure))

@[simp] theorem settle_error
    (world : World)
    (name : String)
    (failure : ConstructionFailure) :
    (world.settle name (.error failure)).2 =
      (world.record (.instantiated name false)).emit
        (.constructionFailed name failure) :=
  rfl

theorem settle_ok_journal
    (world : World)
    (name : String)
    (handler : Handler) :
    (world.settle name (.ok handler)).2.journal =
      world.journal ++ [.instantiated name true] :=
  journal_record world _

/-- Only publishing changes a registry. -/
@[simp] theorem settle_registry
    (world : World)
    (name : String)
    (outcome : Except ConstructionFailure Handler) :
    (world.settle name outcome).2.registry = world.registry := by
  cases outcome <;> rfl

/-- Puts a handle into the cache. -/
def insert
    (world : World)
    (name : String)
    (handle : Handle) : World :=
  { world with
    registry :=
      { world.registry with cache := world.registry.cache.set name handle } }

theorem find?_insert
    (world : World)
    (name other : String)
    (handle : Handle) :
    (world.insert name handle).registry.cache.find? other =
      if other = name then
        some handle
      else
        world.registry.cache.find? other :=
  Table.find?_set _ _ _ _

/--
Puts a handler into the cache, unless one was put there meanwhile.  Either way
the answer is the handle that the cache then holds.
-/
def publish
    (world : World)
    (name : String)
    (instanceId : Nat) : Handle × World :=
  match world.registry.cache.find? name with
  | some existing =>
      (existing, world.emit (.duplicateDiscarded name))
  | none =>
      let handle : Handle := ⟨name, instanceId⟩
      (handle, (world.insert name handle).emit (.published name))

/-- Where nothing is published, a handler is. -/
theorem publish_of_unpublished
    {world : World}
    {name : String}
    (unpublished : world.registry.cache.find? name = none)
    (instanceId : Nat) :
    world.publish name instanceId =
      (⟨name, instanceId⟩,
        (world.insert name ⟨name, instanceId⟩).emit (.published name)) := by
  simp [publish, unpublished]

/-- Where something is published, it stays. -/
theorem publish_of_present
    {world : World}
    {name : String}
    {existing : Handle}
    (present : world.registry.cache.find? name = some existing)
    (instanceId : Nat) :
    world.publish name instanceId =
      (existing, world.emit (.duplicateDiscarded name)) := by
  simp [publish, present]

/-! ## Calls of handlers -/

/-- How often the constructor of a registered descriptor was started. -/
def constructionsOf
    (world : World)
    (serial : Nat) : Nat :=
  Journal.constructionsOf serial world.recent

/-- The requests that a handler was given so far. -/
def requestsTo
    (world : World)
    (instanceId : Nat) : List Request :=
  (Journal.requestsTo instanceId world.recent).reverse

/-- The order of a journal plays no part in counting. -/
theorem constructionsOf_eq
    (world : World)
    (serial : Nat) :
    world.constructionsOf serial =
      Journal.constructionsOf serial world.journal := by
  simp [constructionsOf, Journal.constructionsOf, journal]

/-- The requests are those of the journal, in its order. -/
theorem requestsTo_eq
    (world : World)
    (instanceId : Nat) :
    world.requestsTo instanceId = Journal.requestsTo instanceId world.journal := by
  simp [requestsTo, Journal.requestsTo, journal, List.filterMap_reverse]

end World

end Dispatch
