import Dispatch.Registry.Interleaving
import Dispatch.Registry.Operation

namespace Dispatch

/-!
# Sessions

A session is a resolver with one or more registries over it, of which one is
current.  The registries share the resolver, the type table and the handlers
built so far; each has a cache and settings of its own.  Handlers are shown to
the outside by numbers in the order in which they were first seen.
-/

/-- Registries over one resolver, with the current one in the world. -/
structure Session where
  resolver : Resolver
  depth : Nat
  world : World
  registries : List Registry
  current : Nat
  seen : List Handle

namespace Session

/--
How deep calls may nest where nothing else is said: deeper than any script of use.
-/
def usualDepth : Nat := 65536

/-- A session with one registry, in which calls nest at most `depth` deep. -/
def create
    (resolver : Resolver)
    (depth : Nat)
    (settings : Settings) : Session where
  resolver := resolver
  depth := depth
  world := World.create settings
  registries := [Registry.create settings]
  current := 0
  seen := []

/-- The calls that scripts of a session may make. -/
def calls
    (session : Session) : Calls :=
  Calls.nested session.resolver session.depth

/-- Runs a computation in the current registry. -/
def run
    {α : Type}
    (session : Session)
    (run : Calls → Run α) : Option (α × Session) :=
  (run session.calls session.world).map fun (answer, world) =>
    (answer, { session with world := world })

/-- Performs an operation on the current registry. -/
def perform
    (session : Session)
    (operation : Operation) : Option (Answer × Session) :=
  session.run operation.perform

/-! ## Registries -/

/-- The registries with the current one as it is now. -/
def stored
    (session : Session) : List Registry :=
  session.registries.set session.current session.world.registry

/-- Creates a further registry and makes it current; answers its number. -/
def addRegistry
    (session : Session)
    (settings : Settings) : Nat × Session :=
  let registries := session.stored
  let registry := Registry.create settings
  let world :=
    { session.world with registry := registry }.emit (.creating settings.strict)
  (registries.length,
    { session with
      world := world
      registries := registries ++ [registry]
      current := registries.length })

/--
Makes a registry current if there is one of that number; answers the current number.
-/
def useRegistry
    (session : Session)
    (index : Nat) : Nat × Session :=
  let registries := session.stored
  match registries[index]? with
  | some registry =>
      (index,
        { session with
          world := { session.world with registry := registry }
          registries := registries
          current := index })
  | none =>
      (session.current, session)

/-! ## Handlers as seen from outside -/

/-- The number under which a handler is shown, given out at first sight. -/
def numberOf
    (session : Session)
    (handle : Handle) : Nat × Session :=
  match session.seen.findIdx? fun other => other.instanceId == handle.instanceId with
  | some number =>
      (number, session)
  | none =>
      (session.seen.length, { session with seen := session.seen ++ [handle] })

/-- The handler that is shown under a number. -/
def handleAt?
    (session : Session)
    (number : Nat) : Option Handle :=
  session.seen[number]?

/-! ## Beside the operations -/

/-- What the resolver says about a name. -/
def lookUp
    (session : Session)
    (name : String) : Lookup × Session :=
  let answer := session.resolver session.world.directory name
  (answer,
    { session with world := session.world.ask name })

/-- Reports an event of its own. -/
def report
    (session : Session)
    (event : Event) : Session :=
  { session with world := session.world.emit event }

/-- Builds a handler that is not published; answers the number of the handler. -/
def instantiate
    (session : Session)
    (binding : Binding) :
    Option (Except ConstructionFailure Nat × Session) :=
  session.run fun calls => do
    match ← binding.instantiate calls with
    | .error failure =>
        return .error failure
    | .ok handler =>
        let instanceId ← Run.step fun world => world.adopt handler
        return .ok instanceId

/-- The answers of a number of callers that resolve a name at once. -/
def race
    (session : Session)
    (name : String)
    (callers : Nat)
    (strict : Bool) : Option (List Resolution × Session) :=
  (Crowd.race session.resolver session.calls
      (Crowd.start session.world name callers)).map fun crowd =>
    (crowd.answers strict, { session with world := crowd.world })

/-- What has happened since an earlier moment of the session. -/
def since
    (session earlier : Session) : Journal :=
  session.world.journal.drop earlier.world.recent.length

end Session

end Dispatch
