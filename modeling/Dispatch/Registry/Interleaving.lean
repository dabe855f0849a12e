import Dispatch.Registry.Run

namespace Dispatch

/-!
# Concurrent resolve calls

Several callers resolve names on one registry at once.  Each call is made of
the atomic steps of `World`, and a schedule is the list of moves in the order
in which they happen.  The answer of the resolver and the outcome of the
constructor come with the move, so a schedule may let them be anything; type
table and arranged failures may change between any two moves.

A caller that is done keeps its answer: the handle that it returned, if any.
-/

/-- How far a call has come. -/
inductive Phase
  /-- Nothing has been done yet. -/
  | ready
  /-- The cache held no handle. -/
  | missed
  /-- The resolver answered a binding. -/
  | found (binding : Binding)
  /-- A handler has been built and is known to this call alone. -/
  | built (instanceId : Nat)
  /-- The call has ended. -/
  | done (handle : Option Handle)

/-- A call of `resolve` in progress. -/
structure Caller where
  name : String
  phase : Phase

/-- The handle that an ended call has returned. -/
def Caller.handle?
    (caller : Caller) : Option Handle :=
  match caller.phase with
  | .done handle => handle
  | _ => none

/-- Calls in progress on the registry of a world. -/
structure Crowd where
  world : World
  callers : List Caller

/-- One move of a schedule; callers are numbered. -/
inductive Move
  /-- A caller looks into the cache. -/
  | check (caller : Nat)
  /-- A caller is given the resolver's answer. -/
  | hear (caller : Nat) (answer : Lookup)
  /-- A caller's constructor ends. -/
  | settle (caller : Nat) (outcome : Except ConstructionFailure Handler)
  /-- A caller publishes what it has built. -/
  | publish (caller : Nat)
  /-- A descriptor is bound to a name. -/
  | register (name : String) (descriptor : Descriptor)
  /-- What is bound to a name is removed. -/
  | unregister (name : String)

namespace Crowd

/-- A number of callers that are about to resolve one name. -/
def start
    (world : World)
    (name : String)
    (callers : Nat) : Crowd :=
  ⟨world, List.replicate callers ⟨name, .ready⟩⟩

/-- Moves one caller on to a phase, in a new world. -/
def advance
    (crowd : Crowd)
    (index : Nat)
    (name : String)
    (phase : Phase)
    (world : World) : Crowd :=
  ⟨world, crowd.callers.set index ⟨name, phase⟩⟩

/-- A caller looks into the cache; a miss of the empty name ends the call. -/
def check?
    (crowd : Crowd)
    (index : Nat) : Option Crowd :=
  match crowd.callers[index]? with
  | some ⟨name, .ready⟩ =>
      let (hit, world) := crowd.world.checkCache name
      match hit with
      | some handle =>
          some (crowd.advance index name (.done (some handle)) world)
      | none =>
          let phase : Phase := if name.isEmpty then .done none else .missed
          some (crowd.advance index name phase world)
  | _ =>
      none

/-- A caller is given the resolver's answer; without a binding its call ends. -/
def hear?
    (crowd : Crowd)
    (index : Nat)
    (answer : Lookup) : Option Crowd :=
  match crowd.callers[index]? with
  | some ⟨name, .missed⟩ =>
      let (binding, world) := crowd.world.hear name answer
      let phase : Phase :=
        match binding with
        | some binding => .found binding
        | none => .done none
      some (crowd.advance index name phase world)
  | _ =>
      none

/-- A caller's constructor ends; without a handler its call ends. -/
def settle?
    (crowd : Crowd)
    (index : Nat)
    (outcome : Except ConstructionFailure Handler) : Option Crowd :=
  match crowd.callers[index]? with
  | some ⟨name, .found _⟩ =>
      let (built, world) := crowd.world.settle name outcome
      let phase : Phase :=
        match built with
        | some instanceId => .built instanceId
        | none => .done none
      some (crowd.advance index name phase world)
  | _ =>
      none

/-- A caller publishes what it has built and ends with what the cache holds. -/
def publish?
    (crowd : Crowd)
    (index : Nat) : Option Crowd :=
  match crowd.callers[index]? with
  | some ⟨name, .built instanceId⟩ =>
      let (handle, world) := crowd.world.publish name instanceId
      some (crowd.advance index name (.done (some handle)) world)
  | _ =>
      none

/-- Makes a move; there is no result if the caller is not at that point. -/
def move?
    (crowd : Crowd) :
    Move → Option Crowd
  | .check index => crowd.check? index
  | .hear index answer => crowd.hear? index answer
  | .settle index outcome => crowd.settle? index outcome
  | .publish index => crowd.publish? index
  | .register name descriptor =>
      some { crowd with world := (crowd.world.register name descriptor).2 }
  | .unregister name =>
      some { crowd with world := (crowd.world.unregister name).2 }

/-- Makes the moves of a schedule one after another. -/
def run?
    (crowd : Crowd) :
    List Move → Option Crowd
  | [] =>
      some crowd
  | move :: rest =>
      match crowd.move? move with
      | some moved => moved.run? rest
      | none => none

/-- The answers of all calls that have ended, strict or not. -/
def answers
    (crowd : Crowd)
    (strict : Bool) : List Resolution :=
  crowd.callers.filterMap fun caller =>
    match caller.phase with
    | .done handle => some (Resolution.ofHandle? caller.name strict handle)
    | _ => none

/-! ## The most crowded schedule -/

/-- Makes a move if the caller is at that point. -/
def tryMove
    (crowd : Crowd)
    (move : Move) : Crowd :=
  (crowd.move? move).getD crowd

/-- A caller that missed hears what the resolver says now. -/
def hearFrom
    (resolver : Resolver)
    (crowd : Crowd)
    (index : Nat) : Crowd :=
  match crowd.callers[index]? with
  | some ⟨name, .missed⟩ =>
      crowd.tryMove (.hear index (resolver crowd.world.directory name))
  | _ =>
      crowd

/-- A caller that found a binding runs its constructor. -/
def settleBy
    (calls : Calls)
    (crowd : Crowd)
    (index : Nat) : Option Crowd :=
  match crowd.callers[index]? with
  | some ⟨_, .found binding⟩ => do
      let (outcome, world) ← binding.instantiate calls crowd.world
      return { crowd with world := world }.tryMove (.settle index outcome)
  | _ =>
      some crowd

/--
All callers look into the cache before anyone hears from the resolver, and all
of them have built their handlers before anyone publishes.
-/
def race
    (resolver : Resolver)
    (calls : Calls)
    (crowd : Crowd) : Option Crowd := do
  let indices := List.range crowd.callers.length
  let checked :=
    indices.foldl (fun crowd index => crowd.tryMove (.check index)) crowd
  let heard := indices.foldl (hearFrom resolver) checked
  let settled ← indices.foldlM (settleBy calls) heard
  return indices.foldl (fun crowd index => crowd.tryMove (.publish index)) settled

end Crowd

end Dispatch
