import Dispatch.Handler.Stock
import Dispatch.Proofs.Lockstep

namespace Dispatch

/-!
# What strictness can do

Four operations resolve a name and hand out its handle.  They differ in how they
put having none, and in nothing else: whichever of them is used, and however the
registry is configured, the same happens, as long as constructors do not read
the settings themselves.
-/

/-- A way to resolve a name and to be given its handle. -/
inductive Entrance
  | resolve (strict : Bool)
  | resolveStrict
  | resolveOrNone
  | find
deriving DecidableEq

namespace Entrance

/-- The operation that goes this way. -/
def operation
    (name : String) : Entrance → Operation
  | resolve strict => .resolve name strict
  | resolveStrict => .resolveStrict name
  | resolveOrNone => .resolveOrNone name
  | find => .find name

/-- Having no handle is an error. -/
def isStrict
    (settings : Settings) : Entrance → Bool
  | resolve strict => strict
  | resolveStrict => true
  | resolveOrNone => false
  | find => settings.strict

/-- How a handle is handed out, and how the answer is put that there is none. -/
def answer
    (entrance : Entrance)
    (settings : Settings)
    (name : String) :
    Option Handle → Answer
  | some handle =>
      match entrance with
      | resolve _ => .resolution (.ok (some handle))
      | resolveStrict => .required (.ok handle)
      | resolveOrNone => .optional (some handle)
      | find => .resolution (.ok (some handle))
  | none =>
      match entrance, entrance.isStrict settings with
      | resolveStrict, _ => .required (.error (.unresolved name))
      | resolveOrNone, _ => .optional none
      | _, true => .resolution (.error (.unresolved name))
      | _, false => .resolution (.ok none)

/-- What is handed out is the handle. -/
@[simp] theorem handle?_answer
    (entrance : Entrance)
    (settings : Settings)
    (name : String)
    (handle : Option Handle) :
    (entrance.answer settings name handle).handle? = handle := by
  cases handle with
  | some handle =>
      cases entrance <;> rfl
  | none =>
      cases entrance with
      | resolve strict =>
          cases strict <;> rfl
      | resolveStrict =>
          rfl
      | resolveOrNone =>
          rfl
      | find =>
          simp only [answer, isStrict]
          cases settings.strict <;> rfl

theorem resolves_operation
    (entrance : Entrance)
    (name : String) :
    (entrance.operation name).resolves? = some name := by
  cases entrance <;> rfl

/-- Nothing follows a resolve call but the answer. -/
theorem conclude_operation
    (entrance : Entrance)
    (calls : Calls)
    (settings : Settings)
    (name : String)
    (handle : Option Handle)
    (world : World) :
    (entrance.operation name).conclude calls settings name handle world =
      some (entrance.answer settings name handle, world) := by
  cases handle with
  | some handle =>
      cases entrance <;> rfl
  | none =>
      cases entrance with
      | resolve strict =>
          cases strict <;> rfl
      | resolveStrict =>
          rfl
      | resolveOrNone =>
          rfl
      | find =>
          simp only [operation, Operation.conclude, answer, isStrict,
            Resolution.ofHandle?]
          cases settings.strict <;> rfl

end Entrance

/-- The world with its registry configured in another way. -/
def World.configure
    (world : World)
    (settings : Settings) : World :=
  { world with registry := { world.registry with settings := settings } }

/-- The constructors that are bound to names do only what is permitted. -/
def Directory.Within
    (permits : Act → Prop)
    (directory : Directory) : Prop :=
  ∀ name binding,
    directory.table.find? name = some binding →
    binding.descriptor.Within permits

/-- A resolver answers such constructors if such are bound. -/
def Resolver.Within
    (permits : Act → Prop)
    (resolver : Resolver) : Prop :=
  ∀ directory name binding,
    directory.Within permits →
    resolver directory name = .bound binding →
    binding.descriptor.Within permits

/-- The type table is all that its resolver answers from. -/
theorem Resolver.ofTable_within
    (permits : Act → Prop) :
    Resolver.ofTable.Within permits := by
  intro directory name binding within answer
  exact within name binding (ofTable_eq_bound_iff.mp answer)

/-- A further constructor that does what is permitted may be bound. -/
theorem Directory.Within.register
    {permits : Act → Prop}
    {directory : Directory}
    (within : directory.Within permits)
    (name : String)
    {descriptor : Descriptor}
    (bound : descriptor.Within permits) :
    (directory.register name descriptor).Within permits := by
  intro other binding found
  rw [Directory.register, Table.find?_set] at found
  by_cases same : other = name
  · rw [if_pos same] at found
    cases found
    exact bound
  · rw [if_neg same] at found
    exact within other binding found

/-- Any binding may be removed. -/
theorem Directory.Within.unregister
    {permits : Act → Prop}
    {directory : Directory}
    (within : directory.Within permits)
    (name : String) :
    (directory.unregister name).Within permits := by
  intro other binding found
  rw [Directory.unregister, Table.find?_erase] at found
  by_cases same : other = name
  · rw [if_pos same] at found
    cases found
  · rw [if_neg same] at found
    exact within other binding found

/--
The worlds of two runs of which the second has other settings, while no
constructor that is bound reads any.
-/
structure Reconfigured
    (settings : Settings)
    (start world twin : World) : Prop where
  twin_eq :
    twin = world.configure settings
  bindings :
    world.directory.Within (· ≠ .readSettings)
  later :
    start.journal <+: world.journal

namespace Reconfigured

variable
  {settings : Settings}
  {start : World}

/-- A step that does not depend on the settings may be taken in both runs. -/
theorem step
    {world twin : World}
    (twins : Reconfigured settings start world twin)
    (change : World → World)
    (unread : change (world.configure settings) = (change world).configure settings)
    (bindings : (change world).directory.Within (· ≠ .readSettings))
    (grows : world.journal <+: (change world).journal) :
    Reconfigured settings start (change world) (change twin) where
  twin_eq := by
    rw [twins.twin_eq]
    exact unread
  bindings := bindings
  later := twins.later.trans grows

theorem record
    {world twin : World}
    (twins : Reconfigured settings start world twin)
    (entry : Entry) :
    Reconfigured settings start (world.record entry) (twin.record entry) :=
  twins.step (·.record entry) rfl twins.bindings
    (World.Grows.record world entry).journal

/-- Code that does not read the settings cannot tell such worlds apart. -/
theorem lockstep
    (settings : Settings)
    (start : World) :
    Lockstep (· ≠ .readSettings) start (Reconfigured settings start) where
  later twins := twins.later
  cache twins := by
    rw [twins.twin_eq]
    rfl
  handlers twins := by
    rw [twins.twin_eq]
    rfl
  requests twins instanceId := by
    rw [twins.twin_eq]
    rfl
  settings _ permitted := (permitted rfl).elim
  recorded twins _ _ := twins.record _
  asked twins name :=
    twins.step (·.ask name) rfl twins.bindings List.prefix_rfl
  adopted twins handler :=
    twins.step (fun world => (world.adopt handler).2) rfl twins.bindings
      List.prefix_rfl
  registered := by
    intro world twin twins name descriptor _ bound
    have sameTable : twin.directory.table = world.directory.table := by
      rw [twins.twin_eq]
      rfl
    rw [sameTable]
    exact ⟨rfl,
      twins.step (fun world => (world.register name descriptor).2) rfl
        (twins.bindings.register name bound)
        (World.Grows.register world name descriptor).journal⟩
  unregistered := by
    intro world twin twins name _
    have sameTable : twin.directory.table = world.directory.table := by
      rw [twins.twin_eq]
      rfl
    rw [sameTable]
    exact ⟨rfl,
      twins.step (fun world => (world.unregister name).2) rfl
        (twins.bindings.unregister name) (World.Grows.unregister world name).journal⟩

/-- In such worlds a resolver answers alike on every name. -/
theorem alike
    {resolver : Resolver}
    (within : resolver.Within (· ≠ .readSettings))
    (name : String) :
    resolver.Alike (· ≠ .readSettings) (Reconfigured settings start)
      resolver name where
  answers := by
    intro world twin twins
    have sameDirectory : twin.directory = world.directory := by
      rw [twins.twin_eq]
      rfl
    rw [sameDirectory]
    cases answer : resolver world.directory name with
    | bound binding =>
        exact .bound
          { descriptor := rfl
            within := within _ name _ twins.bindings answer
            counted := by
              rw [twins.twin_eq]
              rfl
            started := fun _ _ =>
              ((lockstep settings start).asked twins name).record _ }
    | unbound =>
        exact .unbound
    | failed failure =>
        exact .failed
  inserted twins handle :=
    twins.step (·.insert name handle) rfl twins.bindings List.prefix_rfl

/-- Calls in such worlds are in step, however deep they nest. -/
theorem nested
    {resolver : Resolver}
    (within : resolver.Within (· ≠ .readSettings))
    (depth : Nat) :
    (Calls.nested resolver depth).InStep (start.ServedWithin (· ≠ .readSettings))
      (Reconfigured settings start) (Calls.nested resolver depth) :=
  (lockstep settings start).nested
    (fun inStep name =>
      (lockstep settings start).resolveWith inStep (alike within name))
    depth

/-- One resolve call leaves the same behind, whichever way it is made. -/
theorem perform
    {resolver : Resolver}
    (within : resolver.Within (· ≠ .readSettings))
    {depth : Nat}
    {world twin after : World}
    {entrance : Entrance}
    {name : String}
    {answer : Answer}
    (twins : Reconfigured settings start world twin)
    (served : start.ServedWithin (· ≠ .readSettings) after)
    (performed :
      (entrance.operation name).perform (Calls.nested resolver depth) world =
        some (answer, after)) :
    ∃ handle twinAfter,
      Reconfigured settings start after twinAfter ∧
        answer = entrance.answer world.registry.settings name handle ∧
        ∀ other : Entrance,
          (other.operation name).perform (Calls.nested resolver depth) twin =
            some (other.answer settings name handle, twinAfter) := by
  cases depth with
  | zero =>
      rw [Operation.perform_nested_zero
        (entrance.resolves_operation name)] at performed
      cases performed
  | succ depth =>
      obtain ⟨handle, ended, resolved, concluded⟩ :=
        (Operation.perform_nested_eq_some_iff
          (entrance.resolves_operation name)).mp performed
      rw [entrance.conclude_operation] at concluded
      cases concluded
      obtain ⟨twinEnded, twinResolved, endeds⟩ :=
        (lockstep settings start).resolved (nested within depth) (alike within name)
          (twins.record (.called name)) (served.earlier (.record ended _)) resolved
      refine ⟨handle, _, endeds.record (.returned name handle), rfl, ?_⟩
      intro other
      refine (Operation.perform_nested_eq_some_iff
        (other.resolves_operation name)).mpr
        ⟨handle, twinEnded, twinResolved, ?_⟩
      rw [other.conclude_operation, twins.twin_eq]
      rfl

end Reconfigured

/-- A name that two runs resolve, each in a way of its own. -/
structure Swap where
  name : String
  first : Entrance
  second : Entrance

namespace Reconfigured

/-- So do any number of calls, each of which obtains the same handle in both runs. -/
theorem performAll
    {settings : Settings}
    {start : World}
    {resolver : Resolver}
    (within : resolver.Within (· ≠ .readSettings))
    {depth : Nat}
    {swaps : List Swap}
    {world twin after : World}
    {answers : List Answer}
    (twins : Reconfigured settings start world twin)
    (served : start.ServedWithin (· ≠ .readSettings) after)
    (performed :
      Operation.performAll (Calls.nested resolver depth)
          (swaps.map fun swap => swap.first.operation swap.name) world =
        some (answers, after)) :
    ∃ (handles : List (Option Handle)) (twinAfter : World),
      Reconfigured settings start after twinAfter ∧
        handles.length = swaps.length ∧
        answers =
          List.zipWith
            (fun swap => swap.first.answer world.registry.settings swap.name)
            swaps handles ∧
        Operation.performAll (Calls.nested resolver depth)
            (swaps.map fun swap => swap.second.operation swap.name) twin =
          some
            (List.zipWith (fun swap => swap.second.answer settings swap.name)
                swaps handles,
              twinAfter) := by
  induction swaps generalizing world twin answers with
  | nil =>
      cases performed
      exact ⟨[], twin, twins, rfl, rfl, rfl⟩
  | cons swap rest inductionHypothesis =>
      obtain ⟨answer, middle, restAnswers, performedFirst, performedRest, rfl⟩ :=
        Operation.performAll_cons_eq_some_iff.mp performed
      have grows : middle.Grows after :=
        World.Grows.stable.performAll (World.Grows.stable.nested resolver depth) _
          performedRest
      obtain ⟨handle, twinMiddle, middles, answerEq, swapped⟩ :=
        twins.perform within (served.earlier grows) performedFirst
      obtain ⟨handles, twinAfter, afters, length, restAnswersEq, swappedRest⟩ :=
        inductionHypothesis middles performedRest
      have settingsEq : middle.registry.settings = world.registry.settings :=
        (World.Grows.stable.perform (World.Grows.stable.nested resolver depth) _
          performedFirst).settings
      refine ⟨handle :: handles, twinAfter, afters, congrArg (· + 1) length, ?_, ?_⟩
      · rw [answerEq, restAnswersEq, settingsEq]
        rfl
      · exact Operation.performAll_cons_eq_some_iff.mpr
          ⟨_, twinMiddle, _, swapped swap.second, swappedRest, rfl⟩

end Reconfigured

/--
A finished resolve call answers its handle, or as strictly as asked that there is
none.
-/
theorem Calls.ofHandle?_of_nested
    {resolver : Resolver}
    {depth : Nat}
    {name : String}
    {strict : Bool}
    {world after : World}
    {answer : Resolution}
    (finished :
      (Calls.nested resolver depth).resolve name strict world =
        some (answer, after)) :
    ∃ handle, answer = .ofHandle? name strict handle := by
  cases depth with
  | zero =>
      cases finished
  | succ depth =>
      obtain ⟨handle, _, _, answerEq, _⟩ := resolveWith_eq_some_iff.mp finished
      exact ⟨handle, answerEq⟩

/--
However the calls of a history are made, and however strict a registry is
configured to be: the cache, the bindings, what the resolver was asked for, the
constructions and the events come out the same, and so do the handles.  Only that
there is none is put as the one error by a strict call, and otherwise as none.
Constructors may call the registry and handlers as they like, but neither they
nor the handlers that they call read the settings.
-/
theorem strictness_leaves_no_trace
    {resolver : Resolver}
    (answersWithin : resolver.Within (· ≠ .readSettings))
    (depth : Nat)
    (settings : Settings)
    (swaps : List Swap)
    {world after : World}
    {answers : List Answer}
    (boundWithin : world.directory.Within (· ≠ .readSettings))
    (performed :
      Operation.performAll (Calls.nested resolver depth)
          (swaps.map fun swap => swap.first.operation swap.name) world =
        some (answers, after))
    (servedWithin : world.ServedWithin (· ≠ .readSettings) after) :
    (∃ handles : List (Option Handle),
      handles.length = swaps.length ∧
        answers =
          List.zipWith
            (fun swap => swap.first.answer world.registry.settings swap.name)
            swaps handles ∧
        Operation.performAll (Calls.nested resolver depth)
            (swaps.map fun swap => swap.second.operation swap.name)
            (world.configure settings) =
          some
            (List.zipWith (fun swap => swap.second.answer settings swap.name)
                swaps handles,
              after.configure settings)) ∧
    (∀ depth name before answer ended,
      (Calls.nested resolver depth).resolve name true before =
        some (answer, ended) →
      answer ≠ .ok none ∧
        ∀ error, answer = .error error → error = .unresolved name) ∧
    ∀ depth name before answer ended,
      (Calls.nested resolver depth).resolve name false before =
        some (answer, ended) →
      ∀ error, answer ≠ .error error := by
  refine ⟨?_, ?_, ?_⟩
  · have twins : Reconfigured settings world world (world.configure settings) :=
      ⟨rfl, boundWithin, List.prefix_rfl⟩
    obtain ⟨handles, twinAfter, afters, length, answersEq, swapped⟩ :=
      twins.performAll answersWithin servedWithin performed
    rw [afters.twin_eq] at swapped
    exact ⟨handles, length, answersEq, swapped⟩
  · intro depth name before answer ended finished
    obtain ⟨handle, rfl⟩ := Calls.ofHandle?_of_nested finished
    cases handle with
    | none =>
        exact ⟨nofun, fun error same => (Except.error.inj same).symm⟩
    | some handle =>
        exact ⟨nofun, nofun⟩
  · intro depth name before answer ended finished
    obtain ⟨handle, rfl⟩ := Calls.ofHandle?_of_nested finished
    cases handle with
    | none =>
        exact nofun
    | some handle =>
        exact nofun

/--
A constructor that resolves another name, calls its handler, and then resolves its
own.
-/
def attentive : Descriptor :=
  .factory "Outer" fun index =>
    .resolve "inner" true fun
      | .ok (some handle) =>
          .call handle ⟨⟨some "inner", "door"⟩, none⟩ fun _ =>
            if index = 0 then
              .resolve "outer" false fun _ => .build .null
            else
              .build .null
      | _ => .fail (.single "no inner")

/-- A world in which it is bound. -/
def attentiveWorld : World :=
  (((World.create .default).register "inner" (.plain "Inner" .null)).2.register
    "outer" attentive).2

theorem attentive_within
    {permits : Act → Prop} :
    attentive.Within permits := by
  refine .factory fun index => .resolve fun answer => ?_
  match answer with
  | .ok (some handle) =>
      refine .call fun outcome => ?_
      by_cases first : index = 0
      · rw [if_pos first]
        exact .resolve fun _ => .build
      · rw [if_neg first]
        exact .build
  | .ok none =>
      exact .fail
  | .error error =>
      exact .fail

/--
Calls for a name that is built in the midst of itself, and for one that nothing is
bound to.
-/
def detours : List Swap :=
  [⟨"outer", .resolve true, .find⟩,
    ⟨"missing", .resolveStrict, .resolveOrNone⟩,
    ⟨"missing", .find, .find⟩,
    ⟨"outer", .resolveOrNone, .resolveStrict⟩]

/--
Made in other ways and on a registry that is not strict, the calls leave the same
behind.
-/
theorem detours_leave_no_trace :
    ∃ after,
      Operation.performAll (Calls.nested .ofTable 3)
          (detours.map fun swap => swap.first.operation swap.name) attentiveWorld =
        some
          ([.resolution (.ok (some ⟨"outer", 1⟩)),
              .required (.error (.unresolved "missing")),
              .resolution (.error (.unresolved "missing")),
              .optional (some ⟨"outer", 1⟩)],
            after) ∧
      Operation.performAll (Calls.nested .ofTable 3)
          (detours.map fun swap => swap.second.operation swap.name)
          (attentiveWorld.configure ⟨false, "debug", true⟩) =
        some
          ([.resolution (.ok (some ⟨"outer", 1⟩)),
              .optional none,
              .resolution (.ok none),
              .required (.ok ⟨"outer", 1⟩)],
            after.configure ⟨false, "debug", true⟩) := by
  have boundWithin : attentiveWorld.directory.Within (· ≠ .readSettings) := by
    have empty : Directory.empty.Within (· ≠ .readSettings) := by
      intro name binding found
      cases found
    exact (empty.register "inner" .plain).register "outer" attentive_within
  refine ⟨_, rfl, ?_⟩
  have whole :=
    @strictness_leaves_no_trace .ofTable (Resolver.ofTable_within _) 3
      ⟨false, "debug", true⟩ detours attentiveWorld _ _ boundWithin rfl
  obtain ⟨⟨handles, length, answersEq, swapped⟩, _⟩ := whole (by
    -- All handlers that there are by then are one that only answers.
    intro instanceId request handler _ known
    have member : handler ∈ [Handler.null, Handler.null, Handler.null] :=
      List.mem_of_getElem? known
    have isNull : handler = .null := by simpa using member
    rw [isNull]
    exact fun _ _ => .answer)
  have obtained : handles = [some ⟨"outer", 1⟩, none, none, some ⟨"outer", 1⟩] := by
    have handed := congrArg (List.map Answer.handle?) answersEq
    rw [List.map_zipWith] at handed
    simp only [Entrance.handle?_answer] at handed
    match handles, length, handed with
    | [_, _, _, _], _, handed => exact handed.symm
  rw [swapped, obtained]
  rfl

end Dispatch
