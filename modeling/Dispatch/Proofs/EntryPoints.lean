import Dispatch.Proofs.Resolving
import Dispatch.Registry.Operation

namespace Dispatch

/-!
# Ways into the registry

Five operations resolve a name.  Each is one resolve call, with a strictness of
its own, and a conclusion from the handle that the call has obtained or not.
-/

namespace Answer

/-- An answer that there is no handle for a name: the error that says so, or none. -/
inductive Unresolved (name : String) : Answer → Prop
  | resolution (strict : Bool) :
      Unresolved name (.resolution (.ofHandle? name strict none))
  | required :
      Unresolved name (.required (.error (.unresolved name)))
  | optional :
      Unresolved name (.optional none)
  | value :
      Unresolved name (.value (.error (.unresolved name)))

@[simp] theorem handle?_ofHandle?
    (name : String)
    (strict : Bool)
    (handle : Option Handle) :
    handle? (.resolution (.ofHandle? name strict handle)) = handle := by
  cases handle with
  | none => cases strict <;> rfl
  | some handle => rfl

end Answer

namespace Operation

/-- How strictly an operation resolves its name. -/
def strictness
    (settings : Settings) : Operation → Bool
  | resolve _ strict => strict
  | find _ => settings.strict
  | resolveOrNone _ => false
  | _ => true

/-- What an operation makes of the handle for its name, or of having none. -/
def conclude
    (operation : Operation)
    (calls : Calls)
    (settings : Settings)
    (name : String)
    (handle : Option Handle) : Run Answer :=
  match operation, handle with
  | resolve _ strict, handle =>
      pure (.resolution (.ofHandle? name strict handle))
  | find _, handle =>
      pure (.resolution (.ofHandle? name settings.strict handle))
  | resolveStrict _, some handle =>
      pure (.required (.ok handle))
  | resolveStrict _, none =>
      pure (.required (.error (.unresolved name)))
  | resolveOrNone _, handle =>
      pure (.optional handle)
  | get locator base, some handle => do
      let outcome ← calls.serve handle.instanceId ⟨locator, base⟩
      return .value (outcome.mapError (.handlerFailed name locator.text))
  | get _ _, none =>
      pure (.value (.error (.unresolved name)))
  | _, _ =>
      pure .done

variable
  {operation : Operation}
  {calls : Calls}
  {name : String}
  {world : World}

/-- An operation that resolves a name begins with one resolve call. -/
theorem perform_eq_bind
    (resolves : operation.resolves? = some name) :
    operation.perform calls world =
      (calls.resolve name (operation.strictness world.registry.settings) >>=
        fun answer =>
          operation.perform { calls with resolve := fun _ _ => pure answer })
        world := by
  cases operation with
  | resolve other strict =>
      cases resolves
      rfl
  | resolveStrict other =>
      cases resolves
      simp only [perform, strictness, Calls.resolveStrict, map_bind, map_pure,
        pure_bind]
  | resolveOrNone other =>
      cases resolves
      simp only [perform, strictness, Calls.resolveOrNone, map_bind, map_pure,
        pure_bind]
  | find other =>
      cases resolves
      change (Answer.resolution <$>
        calls.resolve name world.registry.settings.strict) world = _
      rw [map_eq_pure_bind]
      rfl
  | get locator base =>
      have scheme : locator.scheme = some name := resolves
      simp only [perform, strictness, Calls.get, Calls.resolveStrict, scheme,
        map_bind, bind_assoc, pure_bind]
  | _ =>
      cases resolves

/-- What follows a resolve call is the conclusion from its handle. -/
theorem perform_of_resolved
    {after : World}
    {handle : Option Handle}
    (resolves : operation.resolves? = some name)
    (resolved :
      calls.resolve name (operation.strictness world.registry.settings) world =
        some
          (.ofHandle? name (operation.strictness world.registry.settings) handle,
            after)) :
    operation.perform calls world =
      operation.conclude calls world.registry.settings name handle after := by
  rw [perform_eq_bind resolves, Run.bind_of_eq resolved]
  cases operation with
  | resolve other strict =>
      cases resolves
      rfl
  | resolveStrict other =>
      cases resolves
      cases handle <;> rfl
  | resolveOrNone other =>
      cases resolves
      cases handle <;> rfl
  | find other =>
      cases resolves
      rfl
  | get locator base =>
      have scheme : locator.scheme = some name := resolves
      cases handle with
      | none =>
          simp only [perform, Calls.get, scheme]
          rfl
      | some handle =>
          simp only [perform, Calls.get, scheme]
          change (Answer.value <$>
            (calls.serve handle.instanceId ⟨locator, base⟩ >>= fun outcome =>
              pure (outcome.mapError fun cause =>
                .handlerFailed name locator.text cause))) after = _
          simp only [map_bind, map_pure]
          rfl
  | _ =>
      cases resolves

/-- Operations on nested calls differ only in what they conclude. -/
theorem perform_nested_eq_some_iff
    {resolver : Resolver}
    {depth : Nat}
    {answer : Answer}
    {after : World}
    (resolves : operation.resolves? = some name) :
    operation.perform (Calls.nested resolver (depth + 1)) world =
        some (answer, after) ↔
      ∃ handle ended,
        Resolved resolver (Calls.nested resolver depth).builds name
            (world.record (.called name)) handle ended ∧
          operation.conclude (Calls.nested resolver (depth + 1))
              world.registry.settings name handle
              (ended.record (.returned name handle)) =
            some (answer, after) := by
  constructor
  · intro performed
    have begun := performed
    rw [perform_eq_bind resolves] at begun
    obtain ⟨resolution, middle, finished, _⟩ := Run.bind_eq_some_iff.mp begun
    obtain ⟨handle, ended, resolved, rfl, rfl⟩ :=
      resolveWith_eq_some_iff.mp finished
    rw [perform_of_resolved resolves finished] at performed
    exact ⟨handle, ended, resolved, performed⟩
  · rintro ⟨handle, ended, resolved, concluded⟩
    have finished :=
      resolved.nested_eq (operation.strictness world.registry.settings)
    exact (perform_of_resolved resolves finished).trans concluded

/-- No name can be resolved where calls must not nest at all. -/
theorem perform_nested_zero
    {resolver : Resolver}
    (resolves : operation.resolves? = some name) :
    operation.perform (Calls.nested resolver 0) world = none := by
  rw [perform_eq_bind resolves]
  rfl

/--
Only the handle that a resolve call has obtained is handed out, and nothing else is
done.
-/
theorem handed_of_conclude
    {settings : Settings}
    {handle : Option Handle}
    {found : Handle}
    {answer : Answer}
    {after : World}
    (concluded :
      operation.conclude calls settings name handle world =
        some (answer, after))
    (handed : answer.handle? = some found) :
    handle = some found ∧ after = world := by
  cases operation with
  | resolve other strict =>
      cases concluded
      rw [Answer.handle?_ofHandle?] at handed
      exact ⟨handed, rfl⟩
  | resolveStrict other =>
      cases handle with
      | none =>
          cases concluded
          cases handed
      | some handle =>
          cases concluded
          exact ⟨handed, rfl⟩
  | resolveOrNone other =>
      cases concluded
      exact ⟨handed, rfl⟩
  | find other =>
      cases concluded
      rw [Answer.handle?_ofHandle?] at handed
      exact ⟨handed, rfl⟩
  | get locator base =>
      cases handle with
      | none =>
          cases concluded
          cases handed
      | some handle =>
          obtain ⟨_, _, _, answered⟩ := Run.bind_eq_some_iff.mp concluded
          cases answered
          cases handed
  | _ =>
      cases concluded
      cases handed

/-- What an operation hands out is in the cache. -/
theorem cached_of_handle?
    {resolver : Resolver}
    {depth : Nat}
    {found : Handle}
    {answer : Answer}
    {after : World}
    (performed :
      operation.perform (Calls.nested resolver depth) world = some (answer, after))
    (handed : answer.handle? = some found) :
    ∃ name,
      operation.resolves? = some name ∧
        after.registry.cache.find? name = some found := by
  cases resolves : operation.resolves? with
  | some name =>
      cases depth with
      | zero =>
          rw [perform_nested_zero resolves] at performed
          cases performed
      | succ depth =>
          obtain ⟨handle, ended, resolved, concluded⟩ :=
            (perform_nested_eq_some_iff resolves).mp performed
          obtain ⟨rfl, rfl⟩ := handed_of_conclude concluded handed
          exact ⟨name, rfl, resolved.holds⟩
  | none =>
      cases operation with
      | get locator base =>
          have relative : locator.scheme = none := resolves
          simp only [perform, Calls.get, relative] at performed
          cases performed
          cases handed
      | serve handle request =>
          obtain ⟨outcome, _, rfl⟩ := Run.map_eq_some_iff.mp performed
          cases handed
      | register name descriptor =>
          cases performed
          cases handed
      | unregister name =>
          cases performed
          cases handed
      | breakLookup name reason =>
          cases performed
          cases handed
      | healLookup name =>
          cases performed
          cases handed
      | _ =>
          cases resolves

/--
Without a handle an operation answers that there is none, and does nothing else.
-/
theorem conclude_none
    (resolves : operation.resolves? = some name)
    (calls : Calls)
    (settings : Settings)
    (world : World) :
    ∃ answer,
      operation.conclude calls settings name none world = some (answer, world) ∧
        answer.Unresolved name := by
  cases operation with
  | resolve other strict =>
      exact ⟨_, rfl, .resolution strict⟩
  | resolveStrict other =>
      cases resolves
      exact ⟨_, rfl, .required⟩
  | resolveOrNone other =>
      exact ⟨_, rfl, .optional⟩
  | find other =>
      exact ⟨_, rfl, .resolution settings.strict⟩
  | get locator base =>
      exact ⟨_, rfl, .value⟩
  | _ =>
      cases resolves

/--
A history that has been performed consists of its first operation and of the others.
-/
theorem performAll_cons_eq_some_iff
    {rest : List Operation}
    {answers : List Answer}
    {after : World} :
    performAll calls (operation :: rest) world = some (answers, after) ↔
      ∃ answer middle others,
        operation.perform calls world = some (answer, middle) ∧
          performAll calls rest middle = some (others, after) ∧
          answers = answer :: others := by
  constructor
  · intro performed
    obtain ⟨answer, middle, first, performedRest⟩ :=
      Run.bind_eq_some_iff.mp performed
    obtain ⟨others, ended, second, answered⟩ := Run.bind_eq_some_iff.mp performedRest
    cases answered
    exact ⟨answer, middle, others, first, second, rfl⟩
  · rintro ⟨answer, middle, others, first, second, rfl⟩
    exact (Run.bind_of_eq first).trans (Run.bind_of_eq second)

/--
A history that has been performed consists of what came before an operation, of it,
and of the rest.
-/
theorem performAll_append_cons_eq_some_iff
    {past rest : List Operation}
    {answers : List Answer}
    {after : World} :
    performAll calls (past ++ operation :: rest) world = some (answers, after) ↔
      ∃ earlier before answer middle later,
        performAll calls past world = some (earlier, before) ∧
          operation.perform calls before = some (answer, middle) ∧
          performAll calls rest middle = some (later, after) ∧
          earlier.length = past.length ∧
          answers = earlier ++ answer :: later := by
  induction past generalizing world answers with
  | nil =>
      rw [List.nil_append, performAll_cons_eq_some_iff]
      constructor
      · rintro ⟨answer, middle, later, performed, performedRest, rfl⟩
        exact ⟨[], world, answer, middle, later, rfl, performed, performedRest,
          rfl, rfl⟩
      · rintro ⟨_, before, answer, middle, later, nothing, performed, performedRest,
          _, rfl⟩
        cases nothing
        exact ⟨answer, middle, later, performed, performedRest, rfl⟩
  | cons first past inductionHypothesis =>
      rw [List.cons_append, performAll_cons_eq_some_iff]
      constructor
      · rintro ⟨firstAnswer, next, others, performedFirst, performedOthers, rfl⟩
        obtain ⟨earlier, before, answer, middle, later, performedPast, performed,
          performedRest, same, rfl⟩ := inductionHypothesis.mp performedOthers
        exact ⟨firstAnswer :: earlier, before, answer, middle, later,
          performAll_cons_eq_some_iff.mpr
            ⟨firstAnswer, next, earlier, performedFirst, performedPast, rfl⟩,
          performed, performedRest, congrArg Nat.succ same, rfl⟩
      · rintro ⟨_, before, answer, middle, later, performedBoth, performed,
          performedRest, same, rfl⟩
        obtain ⟨firstAnswer, next, earlier, performedFirst, performedPast, rfl⟩ :=
          performAll_cons_eq_some_iff.mp performedBoth
        exact ⟨firstAnswer, next, earlier ++ answer :: later, performedFirst,
          inductionHypothesis.mpr
            ⟨earlier, before, answer, middle, later, performedPast, performed,
              performedRest, Nat.succ.inj same, rfl⟩,
          rfl⟩

/--
Once its resolve call has answered a handle, an operation hands that out; one on
a locator passes the locator on to the handler and answers what it answers.
-/
def HandsOver
    (operation : Operation)
    (name : String)
    (handle : Handle) : Prop :=
  ∀ (calls : Calls) (world after : World),
    calls.resolve name (operation.strictness world.registry.settings) world =
        some (.ok (some handle), after) →
    (∃ answer,
      answer.handle? = some handle ∧
        operation.perform calls world = some (answer, after)) ∨
      ∃ locator base,
        operation = .get locator base ∧
          operation.perform calls world =
            ((fun outcome =>
                .value (outcome.mapError (.handlerFailed name locator.text))) <$>
              calls.serve handle.instanceId ⟨locator, base⟩) after

theorem handsOver
    (resolves : operation.resolves? = some name)
    (handle : Handle) :
    operation.HandsOver name handle := by
  intro calls world after resolved
  have performed :
      operation.perform calls world =
        operation.conclude calls world.registry.settings name (some handle) after :=
    perform_of_resolved resolves resolved
  rw [performed]
  cases operation with
  | get locator base =>
      refine .inr ⟨locator, base, rfl, ?_⟩
      exact congrFun (map_eq_pure_bind _ _).symm after
  | resolve other strict =>
      exact .inl ⟨_, rfl, rfl⟩
  | resolveStrict other =>
      exact .inl ⟨.required (.ok handle), rfl, rfl⟩
  | resolveOrNone other =>
      exact .inl ⟨_, rfl, rfl⟩
  | find other =>
      exact .inl ⟨_, rfl, rfl⟩
  | _ =>
      cases resolves

end Operation

end Dispatch
