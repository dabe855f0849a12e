import Dispatch.Registry.World

namespace Dispatch

/-!
# Running scripts and resolving names

Constructors may resolve names, and resolving a name runs constructors.  The
two are tied by `Calls`: what a script may ask for from outside, given as
functions.  `Script.run` runs a script over any such functions; `Calls.nested`
supplies functions in which calls nest at most a given depth.  A run that would
nest deeper has no result.
-/

/-- A computation on worlds; without a result if calls nest too deep. -/
abbrev Run (α : Type) := StateT World Option α

/-- What scripts ask for from outside themselves. -/
structure Calls where
  resolve : (name : String) → (strict : Bool) → Run Resolution
  serve : (instanceId : Nat) → Request → Run (Except Failure Value)

namespace Run

/-- Performs a step that always has a result. -/
def step
    {α : Type}
    (change : World → α × World) : Run α :=
  fun world => some (change world)

/-- Appends to the journal. -/
def record
    (entry : Entry) : Run Unit :=
  step fun world => ((), world.record entry)

/-- The world as it is. -/
def world : Run World :=
  fun world => some (world, world)

/-- No result: calls nest too deep. -/
def tooDeep
    {α : Type} : Run α :=
  fun _ => none

end Run

/-- Runs a script to its end. -/
def Script.run
    (calls : Calls) :
    {role : Role} → Script role → Run (Except Failure role.Product)
  | _, .build handler =>
      pure (.ok handler)
  | _, .answer value =>
      pure (.ok value)
  | _, .fail failure =>
      pure (.error failure)
  | _, .resolve name strict next => do
      let answer ← calls.resolve name strict
      (next answer).run calls
  | _, .call handle request next => do
      let outcome ← calls.serve handle.instanceId request
      (next outcome).run calls
  | _, .readSettings next => do
      let world ← Run.world
      (next world.registry.settings).run calls
  | _, .register name descriptor next => do
      let previous ← Run.step fun world => world.register name descriptor
      (next (previous.map Binding.summary)).run calls
  | _, .unregister name next => do
      let removed ← Run.step fun world => world.unregister name
      (next (removed.map Binding.summary)).run calls
  | _, .note remark next => do
      Run.record (.noted remark)
      next.run calls

/-- Builds a fresh handler from a descriptor. -/
def Binding.instantiate
    (calls : Calls)
    (binding : Binding) : Run (Except ConstructionFailure Handler) :=
  match binding.descriptor with
  | .abstract typeName =>
      pure (.error (.abstract typeName))
  | .plain typeName handler => do
      Run.record (.constructing binding.serial typeName none)
      pure (.ok handler)
  | .factory typeName make => do
      let index := (← Run.world).constructionsOf binding.serial
      Run.record (.constructing binding.serial typeName (some index))
      let outcome ← (make index).run calls
      pure (outcome.mapError (ConstructionFailure.failed typeName))

/-- Asks the resolver for a name. -/
def lookUp
    (resolver : Resolver)
    (name : String) : Run (Option Binding) :=
  Run.step fun world => world.hear name (resolver world.directory name)

/--
Builds a handler for a name; the empty name has none, and nobody is asked for it.
-/
def construct
    (resolver : Resolver)
    (calls : Calls)
    (name : String) : Run (Option Nat) := do
  if name.isEmpty then
    return none
  match ← lookUp resolver name with
  | none =>
      return none
  | some binding =>
      let outcome ← binding.instantiate calls
      Run.step fun world => world.settle name outcome

/--
The handle for a name: the published one, or else a new one that is then published.
-/
def handleFor
    (resolver : Resolver)
    (calls : Calls)
    (name : String) : Run (Option Handle) := do
  match ← Run.step fun world => world.checkCache name with
  | some handle =>
      return some handle
  | none =>
      match ← construct resolver calls name with
      | none =>
          return none
      | some instanceId =>
          let handle ← Run.step fun world => world.publish name instanceId
          return some handle

/-- Resolves a name. -/
def resolveWith
    (resolver : Resolver)
    (calls : Calls)
    (name : String)
    (strict : Bool) : Run Resolution := do
  Run.record (.called name)
  let handle ← handleFor resolver calls name
  Run.record (.returned name handle)
  return Resolution.ofHandle? name strict handle

/-- Passes a request to a handler. -/
def serveWith
    (calls : Calls)
    (instanceId : Nat)
    (request : Request) : Run (Except Failure Value) := do
  let world ← Run.world
  match world.handlers[instanceId]? with
  | none =>
      return .error (Failure.single "no such handler")
  | some handler =>
      let earlier := world.requestsTo instanceId
      Run.record (.serving instanceId request)
      let outcome ← (handler.respond earlier request).run calls
      Run.record (.served instanceId outcome)
      return outcome

namespace Calls

/-- Calls that nest at most `depth` deep. -/
def nested
    (resolver : Resolver) :
    (depth : Nat) → Calls
  | 0 =>
      { resolve := fun _ _ => Run.tooDeep
        serve := fun _ _ => Run.tooDeep }
  | depth + 1 =>
      { resolve := fun name strict =>
          resolveWith resolver (nested resolver depth) name strict
        serve := fun instanceId request =>
          serveWith (nested resolver depth) instanceId request }

/-- Resolves a name as strictly as the registry is configured. -/
def find
    (calls : Calls)
    (name : String) : Run Resolution := do
  let world ← Run.world
  calls.resolve name world.registry.settings.strict

/-- Resolves a name; having no handle is an error. -/
def resolveStrict
    (calls : Calls)
    (name : String) : Run (Except DispatchError Handle) := do
  let answer ← calls.resolve name true
  return answer.required name

/-- Resolves a name; having no handle is no error. -/
def resolveOrNone
    (calls : Calls)
    (name : String) : Run (Option Handle) := do
  let answer ← calls.resolve name false
  return answer.orNone

/-- Resolves a locator to a value. -/
def get
    (calls : Calls)
    (locator : Locator)
    (base : Option Value) : Run (Except DispatchError Value) := do
  match locator.scheme with
  | none =>
      return .error (.relative locator.text)
  | some name =>
      match ← calls.resolveStrict name with
      | .error error =>
          return .error error
      | .ok handle =>
          let outcome ← calls.serve handle.instanceId ⟨locator, base⟩
          return outcome.mapError fun cause =>
            .handlerFailed name locator.text cause

end Calls

end Dispatch
