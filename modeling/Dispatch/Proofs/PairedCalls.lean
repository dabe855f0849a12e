import Dispatch.Proofs.Resemblance

namespace Dispatch

/-!
# Calls in pairs

Where bindings stay as they are and constructors do the same in every run, resolve
calls and requests go in pairs: among other registries they do what they do alone.
The steps of a call are followed one by one; `Calls.Paired.nested` is the
induction over the depth of nesting, and `Operation.Permitted.paired` and
`Deed.Permitted.paired` are what users see of it.
-/

variable
  {served : String → Prop}
  {resolver : Resolver}
  {directory : Directory}
  {fixture : Fixture served resolver directory}
  {calls : Calls}
  {places : List Place}
  {name : String}

/-! ## Requests -/

theorem Run.Paired.serving
    (place : Place)
    (request : Request) :
    Run.Paired fixture (fun _ _ _ => True) [place]
      (Run.record (.serving place.shared request))
      (Run.record (.serving place.alone request)) := by
  intro more world alone wider resembles
  have member : place ∈ more := wider List.mem_cons_self
  refine .both (.record world fun instanceId elsewhere => ?_)
    (resembles.serving member request) trivial
  simp [Journal.requestsTo, elsewhere place member]

/-- Requests to corresponding handlers have the same outcome. -/
theorem Calls.Paired.serveWith
    (paired : calls.Paired fixture)
    (place : Place)
    (request : Request)
    (isServed : served place.name) :
    Run.Paired fixture (fun _ => Eq) [place]
      (serveWith calls place.shared request)
          (serveWith calls place.alone request) := by
  intro more world alone wider resembles
  have member : place ∈ more := wider List.mem_cons_self
  obtain ⟨handler, other, present, presentAlone, alike, -⟩ :=
    resembles.built place member
  simp only [Dispatch.serveWith, Run.world_bind_apply, present, presentAlone,
    resembles.requests place member]
  have work := fun most (widest : more ⊆ most) =>
    (alike isServed most widest (world.requestsTo place.shared) request).run paired
  refine ((Run.Paired.serving place request).mono wider).bind ?_
    (List.Subset.refl _) resembles
  intro most widest _ _ _
  refine (work most widest).bind ?_
  intro final _ outcome counterpart ending
  obtain rfl := ending.eq
  exact (Run.Paired.record (fun _ => rfl) fun _ => rfl).bind fun _ _ _ _ _ =>
    .pure fun _ _ => rfl

/-! ## Constructions -/

/-- Two constructions for a name: both have given a handler, or neither. -/
inductive Fixture.Built
    (fixture : Fixture served resolver directory)
    (name : String)
    (places : List Place) :
    Except ConstructionFailure Handler → Except ConstructionFailure Handler → Prop
  | built
      {handler other : Handler}
      (alike : handler.Resembles served name places other)
      (made : fixture.Made name handler other) :
      Built fixture name places (.ok handler) (.ok other)
  | refused
      {failure other : ConstructionFailure} :
      Built fixture name places (.error failure) (.error other)

/-- The handlers of two constructions resemble each other, if both have given one. -/
inductive Binding.Instantiated
    (served : String → Prop)
    (name : String)
    (places : List Place) :
    Except ConstructionFailure Handler → Except ConstructionFailure Handler → Prop
  | built
      {handler other : Handler}
      (alike : handler.Resembles served name places other) :
      Instantiated served name places (.ok handler) (.ok other)
  | refused
      {failure other : ConstructionFailure} :
      Instantiated served name places (.error failure) (.error other)

/-- Constructions from one binding go in pairs, however often each has been run. -/
theorem Descriptor.Repeats.instantiate
    {binding : Binding}
    (repeats : binding.descriptor.Repeats served name)
    (paired : calls.Paired fixture) :
    Run.Paired fixture (Binding.Instantiated served name) []
      (binding.instantiate calls) (binding.instantiate calls) := by
  obtain ⟨serial, descriptor⟩ := binding
  have begun (typeName : String) (index other : Option Nat) :
      Run.Paired fixture (fun _ _ _ => True) []
        (Run.record (.constructing serial typeName index))
        (Run.record (.constructing serial typeName other)) :=
    .record (fun _ => rfl) fun _ => rfl
  cases repeats with
  | abstract =>
      exact .pure fun _ _ => .refused
  | @plain typeName handler alike =>
      exact (begun typeName none none).bind fun _ _ _ _ _ =>
        .pure fun more _ => .built (alike.mono (List.nil_subset more))
  | @factory typeName make alike =>
      intro more world alone wider resembles
      have script :=
        (alike (world.constructionsOf serial)
          (alone.constructionsOf serial)).run paired
      simp only [Binding.instantiate, Run.world_bind_apply]
      refine (begun typeName _ _).bind ?_ wider resembles
      intro most widest _ _ _
      refine (script.mono (List.nil_subset _)).bind ?_
      intro final _ outcome counterpart ending
      cases ending with
      | built alike => exact .pure fun _ widest => .built (alike.mono widest)
      | failed _ => exact .pure fun _ _ => .refused

/-- What both runs have come to may be used to say more about them. -/
theorem Paired.imp
    {α β : Type}
    {relates ends : List Place → α → β → Prop}
    {world : World}
    {result : Option (α × World)}
    {counterpart : Option (β × World)}
    (paired : Paired fixture relates places world result counterpart)
    (implies :
      ∀ more answer other after alone,
        result = some (answer, after) →
        counterpart = some (other, alone) →
        relates more answer other →
        ends more answer other) :
    Paired fixture ends places world result counterpart := by
  cases paired with
  | neither => exact .neither
  | both confines resembles related =>
      exact .both confines resembles (implies _ _ _ _ _ rfl rfl related)

/--
Constructions for a name give handlers that were made from what is bound to it.
-/
theorem Fixture.instantiate
    {depth : Nat}
    (paired : (Calls.nested resolver depth).Paired fixture)
    (named : name ≠ "")
    {binding : Binding}
    (bound : fixture.bound name = some binding) :
    Run.Paired fixture (fixture.Built name) []
      (binding.instantiate (Calls.nested resolver depth))
      (binding.instantiate (Calls.nested resolver depth)) := by
  intro more world alone wider resembles
  have instantiated := (fixture.repeats name binding named bound).instantiate paired
  refine (instantiated wider resembles).imp ?_
  intro most outcome other after afterAlone built builtAlone alike
  cases alike with
  | built alike =>
      exact .built alike
        ⟨binding, bound, ⟨depth, world, after, built⟩,
          ⟨depth, alone, afterAlone, builtAlone⟩⟩
  | refused =>
      exact .refused

/-! ## The steps of a resolve call -/

/--
The resolver answers what is bound to a name, and nothing else comes of it but
reports.
-/
theorem Fixture.hears
    (fixture : Fixture served resolver directory)
    (named : name ≠ "")
    {world : World}
    (stays : world.Stays directory) :
    ∃ heard,
      world.hear name (resolver world.directory name) = (fixture.bound name, heard) ∧
        (heard = world.ask name ∨ ∃ event, heard = (world.ask name).emit event) := by
  obtain ⟨asked, isDirectory⟩ := stays.directory
  have offered := fixture.offers name asked named
  rw [← isDirectory] at offered
  cases answer : resolver world.directory name with
  | bound binding =>
      rw [answer] at offered
      exact ⟨_, congrArg (·, _) offered, .inl rfl⟩
  | unbound =>
      rw [answer] at offered
      exact ⟨_, congrArg (·, _) offered, .inr ⟨_, rfl⟩⟩
  | failed failure =>
      rw [answer] at offered
      exact ⟨_, congrArg (·, _) offered, .inr ⟨_, rfl⟩⟩

/-- Both runs learn what is bound to a name. -/
theorem Run.Paired.lookUp
    (named : name ≠ "") :
    Run.Paired fixture
      (fun _ binding other =>
        binding = fixture.bound name ∧ other = fixture.bound name) []
      (lookUp resolver name) (lookUp resolver name) := by
  intro more world alone _ resembles
  obtain ⟨heard, isHeard, shared⟩ := fixture.hears named resembles.stays
  obtain ⟨heardAlone, isHeardAlone, solitary⟩ :=
    fixture.hears named resembles.staysAlone
  change Dispatch.Paired fixture _ more world
    (some (world.hear name (resolver world.directory name)))
    (some (alone.hear name (resolver alone.directory name)))
  rw [isHeard, isHeardAlone]
  have asked := resembles.ask name
  have confines : world.Confines more more (world.ask name) :=
    ⟨List.Subset.refl _, List.prefix_rfl, fun _ => .inl, fun _ _ => rfl⟩
  have emits (event : Event) :
      (world.ask name).Confines more more ((world.ask name).emit event) :=
    .record _ fun _ _ => rfl
  rcases shared with rfl | ⟨event, rfl⟩
  · rcases solitary with rfl | ⟨other, rfl⟩
    · exact .both confines asked ⟨rfl, rfl⟩
    · exact .both confines (asked.recordAlone fun _ => rfl) ⟨rfl, rfl⟩
  · rcases solitary with rfl | ⟨other, rfl⟩
    · exact .both (confines.trans (emits event))
        (asked.recordShared fun _ => rfl) ⟨rfl, rfl⟩
    · exact .both (confines.trans (emits event))
        (asked.record (fun _ => rfl) fun _ => rfl)
        ⟨rfl, rfl⟩

/-- Two numbers of handlers that were built at one place for a name. -/
def Place.Holds
    (name : String)
    (places : List Place)
    (shared alone : Option Nat) : Prop :=
  Option.Rel (fun shared alone => ⟨shared, alone, name⟩ ∈ places) shared alone

/-- Both runs take note of a construction. -/
theorem Run.Paired.settle
    {outcome other : Except ConstructionFailure Handler}
    (built : fixture.Built name places outcome other) :
    Run.Paired fixture (Place.Holds name) places
      (Run.step fun world => world.settle name outcome)
      (Run.step fun world => world.settle name other) := by
  intro more world alone wider resembles
  have instantiated (succeeded : Bool) :
      (world.record (.instantiated name succeeded)).Resembles fixture more
        (alone.record (.instantiated name succeeded)) :=
    resembles.record (fun _ => rfl) fun _ => rfl
  have confines (succeeded : Bool) :
      world.Confines more more (world.record (.instantiated name succeeded)) :=
    .record world fun _ _ => rfl
  cases built with
  | refused =>
      exact .both ((confines false).trans (.record _ fun _ _ => rfl))
        ((instantiated false).record (fun _ => rfl) fun _ => rfl) .none
  | @built handler _ alike made =>
      exact .both ((confines true).trans
        (.adopt _ handler alone.handlers.length name))
        ((instantiated true).adopt (alike.mono wider) made)
          (.some List.mem_cons_self)

/-- Both runs look into their caches. -/
theorem Run.Paired.checkCache :
    Run.Paired fixture
      (fun places => Option.Rel (Handle.Counterparts name places)) []
      (Run.step fun world => world.checkCache name)
      (Run.step fun world => world.checkCache name) := by
  intro more world alone _ resembles
  change Dispatch.Paired fixture _ more world
    (some (world.checkCache name)) (some (alone.checkCache name))
  have related := resembles.cached name
  simp only [World.checkCache]
  generalize world.registry.cache.find? name = handle at related
  generalize alone.registry.cache.find? name = other at related
  cases related with
  | none =>
      exact .both (.refl more world) resembles .none
  | some related =>
      exact .both (.record world fun _ _ => rfl)
        (resembles.record (fun _ => rfl) fun _ => rfl) (.some related)

/-- Both runs publish what they have built, or have it published already. -/
theorem Run.Paired.publish
    {shared alone : Nat}
    (member : ⟨shared, alone, name⟩ ∈ places) :
    Run.Paired fixture (Handle.Counterparts name) places
      (Run.step fun world => world.publish name shared)
      (Run.step fun world => world.publish name alone) := by
  intro more world other wider resembles
  change Dispatch.Paired fixture _ more world
    (some (world.publish name shared)) (some (other.publish name alone))
  have related := resembles.cached name
  simp only [World.publish]
  generalize world.registry.cache.find? name = handle at related
  generalize other.registry.cache.find? name = counterpart at related
  cases related with
  | none =>
      have new : Handle.Counterparts name more ⟨name, shared⟩ ⟨name, alone⟩ :=
        ⟨rfl, wider member, rfl⟩
      have confines : world.Confines more more (world.insert name ⟨name, shared⟩) :=
        ⟨List.Subset.refl _, List.prefix_rfl, fun _ => .inl, fun _ _ => rfl⟩
      exact .both (confines.trans (.record _ fun _ _ => rfl))
        ((resembles.insert name new).record (fun _ => rfl) fun _ => rfl) new
  | some related =>
      exact .both (.record world fun _ _ => rfl)
        (resembles.record (fun _ => rfl) fun _ => rfl) related

/-! ## Resolve calls -/

/-- Both runs build a handler for a name, or neither does. -/
theorem Run.Paired.construct
    {depth : Nat}
    (paired : (Calls.nested resolver depth).Paired fixture)
    (name : String) :
    Run.Paired fixture (Place.Holds name) []
      (construct resolver (Calls.nested resolver depth) name)
      (construct resolver (Calls.nested resolver depth) name) := by
  by_cases named : name = ""
  · subst named
    exact .pure fun _ _ => .none
  · have notEmpty : name.isEmpty = false := by
      simpa using named
    simp only [Dispatch.construct, notEmpty, Bool.false_eq_true, ↓reduceIte]
    refine (Run.Paired.lookUp named).bind ?_
    rintro more - _ _ ⟨rfl, rfl⟩
    cases bound : fixture.bound name with
    | none =>
        exact .pure fun _ _ => .none
    | some binding =>
        refine ((fixture.instantiate paired named bound).mono
          (List.nil_subset _)).bind ?_
        intro most _ outcome other built
        exact .settle built

/-- Both runs obtain a handle for a name, or neither does. -/
theorem Run.Paired.handleFor
    {depth : Nat}
    (paired : (Calls.nested resolver depth).Paired fixture)
    (name : String) :
    Run.Paired fixture
      (fun places => Option.Rel (Handle.Counterparts name places)) []
      (handleFor resolver (Calls.nested resolver depth) name)
      (handleFor resolver (Calls.nested resolver depth) name) := by
  refine Run.Paired.checkCache.bind ?_
  intro more _ handle other related
  cases related with
  | some related =>
      exact .pure fun most wider => .some (related.mono wider)
  | none =>
      refine ((Run.Paired.construct paired name).mono (List.nil_subset _)).bind ?_
      intro most _ shared alone holds
      cases holds with
      | none =>
          exact .pure fun _ _ => .none
      | some member =>
          exact (Run.Paired.publish member).bind fun _ _ _ _ related =>
            .pure fun _ wider => .some (related.mono wider)

/-- Handles that correspond, or none, are put the same way. -/
theorem Resolution.alike_ofHandle?
    {relates : Handle → Handle → Prop}
    {handle other : Option Handle}
    (related : Option.Rel relates handle other)
    (name : String)
    (strict : Bool) :
    (Resolution.ofHandle? name strict handle).Alike relates
      (Resolution.ofHandle? name strict other) := by
  cases related with
  | some related =>
      exact .some related
  | none =>
      cases strict with
      | true => exact .error
      | false => exact .none

/-- Resolve calls for a name go in pairs. -/
theorem Run.Paired.resolveWith
    {depth : Nat}
    (paired : (Calls.nested resolver depth).Paired fixture)
    (name : String)
    (strict : Bool) :
    Run.Paired fixture
      (fun places => Resolution.Alike (Handle.Counterparts name places)) []
      (resolveWith resolver (Calls.nested resolver depth) name strict)
      (resolveWith resolver (Calls.nested resolver depth) name strict) := by
  have called :
      Run.Paired fixture (fun _ _ _ => True) []
        (Run.record (.called name)) (Run.record (.called name)) :=
    .record (fun _ => rfl) fun _ => rfl
  refine called.bind fun _ _ _ _ _ => ?_
  refine ((Run.Paired.handleFor paired name).mono (List.nil_subset _)).bind ?_
  intro more _ handle other related
  have returned :
      Run.Paired fixture (fun _ _ _ => True) more
        (Run.record (.returned name handle)) (Run.record (.returned name other)) :=
    .record (fun _ => rfl) fun _ => rfl
  exact returned.bind fun most wider _ _ _ =>
    .pure fun final widest =>
      Resolution.alike_ofHandle?
        (Handle.Counterparts.mono? related
          (List.Subset.trans wider widest)) name strict

/-- However deep calls may nest, they go in pairs. -/
theorem Calls.Paired.nested
    (fixture : Fixture served resolver directory)
    (depth : Nat) :
    (Calls.nested resolver depth).Paired fixture := by
  induction depth with
  | zero =>
      constructor
      · intro name strict more world alone _ _
        exact .neither
      · intro place request _ more world alone _ _
        exact .neither
  | succ depth inductionHypothesis =>
      exact
        { resolve := Run.Paired.resolveWith inductionHypothesis
          serve := inductionHypothesis.serveWith }

/-! ## Operations and deeds -/

/-- Operations on a registry; requests go to handlers of names that are served. -/
inductive Operation.Permitted (served : String → Prop) : Operation → Prop
  | resolve
      {name : String}
      {strict : Bool} :
      Permitted served (.resolve name strict)
  | resolveStrict
      {name : String} :
      Permitted served (.resolveStrict name)
  | resolveOrNone
      {name : String} :
      Permitted served (.resolveOrNone name)
  | find
      {name : String} :
      Permitted served (.find name)
  | get
      {locator : Locator}
      {base : Option Value}
      (isServed : ∀ name, locator.scheme = some name → served name) :
      Permitted served (.get locator base)

/-- The same for deeds. -/
inductive Deed.Permitted (served : String → Prop) : Deed → Prop
  | operate
      {operation : Operation}
      (permitted : operation.Permitted served) :
      Permitted served (.operate operation)
  | pass
      {name : String}
      {request : Request}
      (isServed : served name) :
      Permitted served (.pass name request)

/-- Answers are alike but for the handles they give, which correspond. -/
abbrev Answer.Resembles
    (places : List Place) : Answer → Answer → Prop :=
  Answer.Alike (Handle.Resembles places)

/-- Names are resolved strictly in pairs. -/
theorem Calls.Paired.resolveStrict
    (paired : calls.Paired fixture)
    (name : String) :
    Run.Paired fixture
      (fun places outcome other =>
        Answer.Alike (Handle.Counterparts name places) (.required outcome)
          (.required other)) []
      (calls.resolveStrict name) (calls.resolveStrict name) := by
  refine (paired.resolve name true).bind fun more _ answer other alike => ?_
  cases alike with
  | error => exact .pure fun _ _ => .refused
  | none => exact .pure fun _ _ => .refused
  | some related => exact .pure fun _ wider => .required (related.mono wider)

/-- Locators are resolved to values in pairs. -/
theorem Calls.Paired.get
    (paired : calls.Paired fixture)
    {locator : Locator}
    (isServed : ∀ name, locator.scheme = some name → served name)
    (base : Option Value) :
    Run.Paired fixture (fun _ => Eq) [] (calls.get locator base)
        (calls.get locator base) := by
  unfold Calls.get
  cases scheme : locator.scheme with
  | none =>
      exact .pure fun _ _ => rfl
  | some name =>
      refine (paired.resolveStrict name).bind fun more _ answer other alike => ?_
      cases alike with
      | refused =>
          exact .pure fun _ _ => rfl
      | required related =>
          have served := isServed name scheme
          rw [← related.named] at served
          refine (paired.serveHandles related.resembles served _).bind ?_
          rintro _ _ outcome _ rfl
          exact .pure fun _ _ => rfl

/-- Operations go in pairs. -/
theorem Operation.Permitted.paired
    {operation : Operation}
    (permitted : operation.Permitted served)
    (paired : calls.Paired fixture) :
    Run.Paired fixture Answer.Resembles [] (operation.perform calls)
      (operation.perform calls) := by
  have resolved {name : String} {places : List Place} {outcome other : Resolution}
      (alike : outcome.Alike (Handle.Counterparts name places) other) :
      Answer.Resembles places (.resolution outcome) (.resolution other) :=
    .resolution (alike.mono fun related => related.resembles)
  cases permitted with
  | @resolve name strict =>
      exact (paired.resolve name strict).map fun _ _ _ => resolved
  | @resolveStrict name =>
      exact (paired.resolveStrict name).map fun _ _ _ alike =>
        alike.mono fun related => related.resembles
  | @resolveOrNone name =>
      have found :
          Run.Paired fixture
            (fun places outcome other =>
              Answer.Resembles places (.optional outcome) (.optional other)) []
            (calls.resolveOrNone name) (calls.resolveOrNone name) := by
        refine (paired.resolve name false).bind fun more _ answer other alike => ?_
        cases alike with
        | error => exact .pure fun _ _ => .absent
        | none => exact .pure fun _ _ => .absent
        | some related =>
            exact .pure fun _ wider => .optional (related.resembles.mono wider)
      exact found.map fun _ _ _ => id
  | @find name =>
      have found :
          Run.Paired fixture
            (fun places => Resolution.Alike (Handle.Counterparts name places)) []
            (calls.find name) (calls.find name) :=
        .readSettings fun settings => paired.resolve name settings.strict
      exact found.map fun _ _ _ => resolved
  | @get locator base isServed =>
      refine (paired.get isServed base).map ?_
      rintro _ outcome _ rfl
      exact .value

/-- Deeds go in pairs. -/
theorem Deed.Permitted.paired
    {deed : Deed}
    (permitted : deed.Permitted served)
    (paired : calls.Paired fixture) :
    Run.Paired fixture Answer.Resembles [] (deed.perform calls)
        (deed.perform calls) := by
  cases permitted with
  | operate permitted =>
      exact permitted.paired paired
  | @pass name request isServed =>
      intro more world alone _ resembles
      have related := resembles.cached name
      simp only [Deed.perform, Run.world_bind_apply]
      generalize world.registry.cache.find? name = handle at related
      generalize alone.registry.cache.find? name = other at related
      cases related with
      | none =>
          exact .both (.refl more world) resembles .done
      | @some handle other related =>
          rw [← related.named] at isServed
          have answered :
              Run.Paired fixture Answer.Resembles more
                ((Operation.serve handle request).perform calls)
                ((Operation.serve other request).perform calls) := by
            refine (paired.serveHandles related.resembles isServed request).map ?_
            rintro _ outcome _ rfl
            exact .served
          exact answered (List.Subset.refl _) resembles

end Dispatch
