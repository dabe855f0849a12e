import Dispatch.Proofs.FailureReasons

namespace Dispatch

/-!
# Numbers of registrations

A directory numbers what is registered, so that constructions are counted for
each registration on its own.  `World.Numbered` says that the numbers serve
their purpose: no two names share one, and none has been used before it is
given out.  It holds in every world that a history leads to.
-/

mutual

/-- Any script does only what is permitted where everything is. -/
theorem Script.within_true :
    {role : Role} → (script : Script role) → script.Within fun _ => True
  | _, .build _ => .build
  | _, .answer _ => .answer
  | _, .fail _ => .fail
  | _, .resolve _ _ next => .resolve fun answer => (next answer).within_true
  | _, .call _ _ next => .call fun outcome => (next outcome).within_true
  | _, .readSettings next =>
      .readSettings trivial fun settings => (next settings).within_true
  | _, .register _ descriptor next =>
      .register trivial descriptor.within_true fun previous =>
        (next previous).within_true
  | _, .unregister _ next =>
      .unregister trivial fun removed => (next removed).within_true
  | _, .note _ next => .note next.within_true

/-- So does any constructor. -/
theorem Descriptor.within_true :
    (descriptor : Descriptor) → descriptor.Within fun _ => True
  | .abstract _ => .abstract
  | .plain _ _ => .plain
  | .factory _ make => .factory fun index => (make index).within_true

end

theorem Entry.constructionsOf_eq_zero
    {entry : Entry}
    (aside : entry.isConstruction = false)
    (serial : Nat) :
    Journal.constructionsOf serial [entry] = 0 := by
  cases entry <;> first | rfl | cases aside

namespace World

/--
Every registration has a number of its own, below the number of the next one,
and no construction has been counted for a number that is yet to be given out.
-/
structure Numbered (world : World) : Prop where
  bounded :
    ∀ {name binding},
      world.directory.table.find? name = some binding →
      binding.serial < world.directory.registrations
  distinct :
    ∀ {first second binding other},
      world.directory.table.find? first = some binding →
      world.directory.table.find? second = some other →
      binding.serial = other.serial →
      first = second
  unused :
    ∀ {serial},
      world.directory.registrations ≤ serial → world.constructionsOf serial = 0

namespace Numbered

variable {world : World}

/-- Registrations and constructions are all that matters. -/
theorem of_eq
    (numbered : world.Numbered)
    {after : World}
    (table : after.directory.table = world.directory.table)
    (registrations : after.directory.registrations = world.directory.registrations)
    (counted :
      ∀ serial, after.constructionsOf serial = world.constructionsOf serial) :
    after.Numbered where
  bounded found := by
    rw [registrations]
    exact numbered.bounded (table ▸ found)
  distinct found otherFound :=
    numbered.distinct (table ▸ found) (table ▸ otherFound)
  unused later := by
    rw [counted]
    exact numbered.unused (registrations ▸ later)

theorem create
    (settings : Settings) :
    (World.create settings).Numbered where
  bounded found := by cases found
  distinct found := by cases found
  unused _ := rfl

theorem record
    (numbered : world.Numbered)
    {entry : Entry}
    (aside : entry.isConstruction = false) :
    (world.record entry).Numbered := by
  refine numbered.of_eq rfl rfl fun serial => ?_
  rw [constructionsOf_record, Entry.constructionsOf_eq_zero aside, Nat.add_zero]

/-- What is bound may be constructed. -/
theorem constructing
    (numbered : world.Numbered)
    {serial : Nat}
    (given : serial < world.directory.registrations)
    (typeName : String)
    (index : Option Nat) :
    (world.record (.constructing serial typeName index)).Numbered where
  bounded := numbered.bounded
  distinct := numbered.distinct
  unused := by
    intro other later
    have fresh : serial ≠ other := Nat.ne_of_lt (Nat.lt_of_lt_of_le given later)
    rw [constructionsOf_record, numbered.unused later]
    simp [Journal.constructionsOf, fresh]

theorem register
    (numbered : world.Numbered)
    (name : String)
    (descriptor : Descriptor) :
    (world.register name descriptor).2.Numbered := by
  have reported :
      ((world.emit (.binding name descriptor.typeName)).record
        (.registered name world.directory.registrations
          (world.directory.table.find? name))).Numbered :=
    (numbered.record rfl).record rfl
  have found {other : String} {binding : Binding}
      (isBound :
        (world.register name descriptor).2.directory.table.find? other =
          some binding) :
      (other = name ∧ binding.serial = world.directory.registrations) ∨
        world.directory.table.find? other = some binding := by
    change (world.directory.table.set name _).find? other = _ at isBound
    rw [Table.find?_set] at isBound
    by_cases same : other = name
    · rw [if_pos same] at isBound
      cases isBound
      exact .inl ⟨same, rfl⟩
    · rw [if_neg same] at isBound
      exact .inr isBound
  refine ⟨?_, ?_, ?_⟩
  · intro other binding isBound
    rcases found isBound with ⟨-, isNew⟩ | isOld
    · exact isNew ▸ Nat.lt_succ_self _
    · exact Nat.lt_succ_of_lt (numbered.bounded isOld)
  · intro first second binding other firstBound secondBound same
    rcases found firstBound with ⟨rfl, isNew⟩ | firstOld
    · rcases found secondBound with ⟨rfl, -⟩ | secondOld
      · rfl
      · have below := numbered.bounded secondOld
        omega
    · rcases found secondBound with ⟨rfl, isNew⟩ | secondOld
      · have below := numbered.bounded firstOld
        omega
      · exact numbered.distinct firstOld secondOld same
  · intro serial later
    exact reported.unused (Nat.le_of_succ_le later)

theorem unregister
    (numbered : world.Numbered)
    (name : String) :
    (world.unregister name).2.Numbered := by
  have found {other : String} {binding : Binding}
      (isBound :
        (world.unregister name).2.directory.table.find? other = some binding) :
      world.directory.table.find? other = some binding := by
    change (world.directory.table.erase name).find? other = _ at isBound
    rw [Table.find?_erase] at isBound
    by_cases same : other = name
    · rw [if_pos same] at isBound
      cases isBound
    · rwa [if_neg same] at isBound
  have reported :
      (world.record
          (.unregistered name (world.directory.table.find? name))).Numbered :=
    numbered.record rfl
  exact
    { bounded := fun isBound => numbered.bounded (found isBound)
      distinct := fun first second => numbered.distinct (found first) (found second)
      unused := fun later => reported.unused later }

end Numbered

end World

/-- A resolver binds a name only to what the type table binds it to. -/
def Resolver.Tabular
    (resolver : Resolver) : Prop :=
  ∀ {directory name binding},
    resolver directory name = .bound binding →
    directory.table.find? name = some binding

theorem Resolver.ofTable_tabular :
    Resolver.ofTable.Tabular :=
  Resolver.ofTable_eq_bound_iff.mp

/-- Failing now and then does not bind names. -/
theorem Resolver.Tabular.withFaults
    {resolver : Resolver}
    (tabular : resolver.Tabular) :
    resolver.withFaults.Tabular := by
  intro directory name binding answer
  unfold Resolver.withFaults at answer
  split at answer
  · cases answer
  · exact tabular answer

/-- The one world of two runs that are the same. -/
structure Selfsame
    (start world twin : World) : Prop where
  same : twin = world
  numbered : world.Numbered
  later : start.journal <+: world.journal

namespace Selfsame

variable {start : World}

/-- Both runs take the same steps. -/
theorem step
    {world twin : World}
    (twins : Selfsame start world twin)
    (change : World → World)
    (numbered : (change world).Numbered)
    (grows : world.journal <+: (change world).journal) :
    Selfsame start (change world) (change twin) where
  same := congrArg change twins.same
  numbered := numbered
  later := twins.later.trans grows

theorem lockstep
    (start : World) :
    Lockstep (fun _ => True) start (Selfsame start) where
  later twins := twins.later
  cache twins := by rw [twins.same]
  handlers twins := by rw [twins.same]
  requests twins _ := by rw [twins.same]
  settings twins _ := by rw [twins.same]
  recorded := by
    intro world twin twins entry aside
    exact twins.step (·.record entry) (twins.numbered.record aside)
      (World.Grows.record world entry).journal
  asked := by
    intro world twin twins name
    exact twins.step (·.ask name) (twins.numbered.of_eq rfl rfl fun _ => rfl)
      List.prefix_rfl
  adopted := by
    intro world twin twins handler
    exact twins.step (fun world => (world.adopt handler).2)
      (twins.numbered.of_eq rfl rfl fun _ => rfl) List.prefix_rfl
  registered := by
    intro world twin twins name descriptor _ _
    refine ⟨by rw [twins.same], ?_⟩
    exact twins.step (fun world => (world.register name descriptor).2)
      (twins.numbered.register name descriptor)
      (World.Grows.register world name descriptor).journal
  unregistered := by
    intro world twin twins name _
    refine ⟨by rw [twins.same], ?_⟩
    exact twins.step (fun world => (world.unregister name).2)
      (twins.numbered.unregister name) (World.Grows.unregister world name).journal

/-- A resolver over the type table answers what has been registered. -/
theorem alike
    {resolver : Resolver}
    (tabular : resolver.Tabular)
    (name : String) :
    resolver.Alike (fun _ => True) (Selfsame start) resolver name where
  answers := by
    intro world twin twins
    have asked := (lockstep start).asked twins name
    obtain rfl := twins.same
    cases answer : resolver twin.directory name with
    | unbound =>
        exact .unbound
    | failed failure =>
        exact .failed
    | bound binding =>
        have given := twins.numbered.bounded (tabular answer)
        exact .bound
          { descriptor := rfl
            within := binding.descriptor.within_true
            counted := rfl
            started := fun typeName index =>
              asked.step (·.record (.constructing binding.serial typeName index))
                (asked.numbered.constructing given typeName index)
                (World.Grows.record _ _).journal }
  inserted := by
    intro world twin twins handle
    exact twins.step (·.insert name handle)
      (twins.numbered.of_eq rfl rfl fun _ => rfl)
      List.prefix_rfl

theorem nested
    {resolver : Resolver}
    (tabular : resolver.Tabular)
    (depth : Nat) :
    (Calls.nested resolver depth).InStep (start.ServedWithin fun _ => True)
      (Selfsame start) (Calls.nested resolver depth) :=
  (lockstep start).nested
    (fun inStep name =>
      (lockstep start).resolveWith inStep (alike tabular name)) depth

end Selfsame

/--
Whatever is done to a registry over a type table, the numbers serve their purpose.
-/
theorem World.Numbered.perform
    {resolver : Resolver}
    (tabular : resolver.Tabular)
    {depth : Nat}
    {operation : Operation}
    {world after : World}
    {answer : Answer}
    (numbered : world.Numbered)
    (performed :
      operation.perform (Calls.nested resolver depth) world = some (answer, after)) :
    after.Numbered := by
  by_cases isCall : operation.isCall = true
  · have served : world.ServedWithin (fun _ => True) after :=
      fun _ _ _ _ _ _ _ => Script.within_true _
    obtain ⟨twin, -, twins⟩ :=
      (Selfsame.lockstep world).perform (Selfsame.nested tabular depth)
        trivial isCall
        ⟨rfl, numbered, List.prefix_rfl⟩ served performed
    exact twins.numbered
  · cases operation with
    | register name descriptor =>
        cases performed
        exact numbered.register name descriptor
    | unregister name =>
        cases performed
        exact numbered.unregister name
    | breakLookup name reason =>
        cases performed
        exact numbered.of_eq rfl rfl fun _ => rfl
    | healLookup name =>
        cases performed
        exact numbered.of_eq rfl rfl fun _ => rfl
    | _ =>
        exact absurd rfl isCall

/-- So they do in every world that a history leads to. -/
theorem World.Numbered.performAll
    {resolver : Resolver}
    (tabular : resolver.Tabular)
    {depth : Nat}
    {history : List Operation}
    {world after : World}
    {answers : List Answer}
    (numbered : world.Numbered)
    (performed :
      Operation.performAll (Calls.nested resolver depth) history world =
        some (answers, after)) :
    after.Numbered := by
  induction history generalizing world answers with
  | nil =>
      cases performed
      exact numbered
  | cons operation rest inductionHypothesis =>
      obtain ⟨_, _, _, first, others, -⟩ :=
        Operation.performAll_cons_eq_some_iff.mp performed
      exact inductionHypothesis (numbered.perform tabular first) others

end Dispatch
