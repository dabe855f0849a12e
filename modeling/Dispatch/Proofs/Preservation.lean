import Dispatch.Proofs.Resolving
import Dispatch.Registry.Operation

namespace Dispatch

/-!
# Relations kept by every run

Constructors and handlers are arbitrary code, and calls nest to any depth.  A
relation between the world before and the world after that every single step
keeps is kept by all of it.  `Firm` names the steps but for requests, `Stable`
adds these; the induction over scripts and over the depth of nesting is done here
once, for every such relation.  `Gradual` takes the resolve call apart as well,
for relations that each of its steps keeps.
-/

namespace Run

variable
  {α β : Type}
  {relation : World → World → Prop}

/-- Whatever world a run ends in stands in a relation to the one it began in. -/
def Keeps
    (relation : World → World → Prop)
    (run : Run α) : Prop :=
  ∀ ⦃world answer after⦄,
    run world = some (answer, after) → relation world after

/-- A step keeps what holds between the two worlds around it. -/
theorem Keeps.ofStep
    {change : World → α × World}
    (kept : ∀ world, relation world (change world).2) :
    (step change).Keeps relation := by
  intro world answer after finished
  have same : change world = (answer, after) := Option.some.inj finished
  have worldSame : (change world).2 = after := congrArg Prod.snd same
  exact worldSame ▸ kept world

/-- A sequence keeps what both of its parts keep. -/
theorem Keeps.bind
    (trans :
      ∀ ⦃first second third⦄,
        relation first second → relation second third → relation first third)
    {run : Run α}
    {next : α → Run β}
    (first : run.Keeps relation)
    (second : ∀ value, (next value).Keeps relation) :
    (run >>= next).Keeps relation := by
  intro world answer after finished
  obtain ⟨value, middle, firstFinished, secondFinished⟩ :=
    bind_eq_some_iff.mp finished
  exact trans (first firstFinished) (second value secondFinished)

/-- A mapped run keeps what the run keeps. -/
theorem Keeps.map
    {run : Run α}
    {change : α → β}
    (kept : run.Keeps relation) :
    (change <$> run).Keeps relation := by
  intro world answer after finished
  obtain ⟨value, runFinished, _⟩ := map_eq_some_iff.mp finished
  exact kept runFinished

end Run

/-- Calls whose every end keeps a relation. -/
structure Calls.Keep
    (relation : World → World → Prop)
    (calls : Calls) : Prop where
  resolve :
    ∀ name strict, (calls.resolve name strict).Keeps relation
  serve :
    ∀ instanceId request, (calls.serve instanceId request).Keeps relation

/-- Scripts of constructors that keep a relation, whatever else they do. -/
def Runs.keeping
    (relation : World → World → Prop) : Runs :=
  fun _ before _ after => relation before after

/-- A construction keeps what its script keeps, and its beginning. -/
theorem Constructed.keeps
    {relation : World → World → Prop}
    (refl : ∀ world, relation world world)
    (trans :
      ∀ ⦃first second third⦄,
        relation first second → relation second third → relation first third)
    (constructing :
      ∀ world serial typeName index,
        relation world (world.record (.constructing serial typeName index)))
    {binding : Binding}
    {world after : World}
    {outcome : Except ConstructionFailure Handler}
    (constructed :
      Constructed (Runs.keeping relation) binding world outcome after) :
    relation world after := by
  cases constructed with
  | abstract isAbstract =>
      exact refl world
  | plain isPlain =>
      exact constructing world _ _ _
  | factory isFactory ran =>
      exact trans (constructing world _ _ _) ran

/--
A relation that every single step keeps, but for requests, of which nothing is
asked.  Of a resolve call it is asked as a whole, given that the script of the
constructor in its midst has kept the relation.
-/
structure Firm (relation : World → World → Prop) : Prop where
  refl :
    ∀ world, relation world world
  trans :
    ∀ ⦃first second third⦄,
      relation first second → relation second third → relation first third
  noted :
    ∀ world remark, relation world (world.record (.noted remark))
  registered :
    ∀ world name descriptor, relation world (world.register name descriptor).2
  unregistered :
    ∀ world name, relation world (world.unregister name).2
  broken :
    ∀ world name reason, relation world (world.breakLookup name reason)
  healed :
    ∀ world name, relation world (world.healLookup name)
  resolved :
    ∀ {resolver name world handle ended},
      Resolved resolver (Constructed (Runs.keeping relation)) name
        (world.record (.called name)) handle ended →
      relation world (ended.record (.returned name handle))

/-- An entry about a request. -/
def Entry.isRequest : Entry → Bool
  | serving _ _ => true
  | served _ _ => true
  | _ => false

/-- A relation that every single step keeps, those of a resolve call included. -/
structure Gradual (relation : World → World → Prop) : Prop where
  refl :
    ∀ world, relation world world
  trans :
    ∀ ⦃first second third⦄,
      relation first second → relation second third → relation first third
  recorded :
    ∀ world {entry},
      entry.isRequest = false →
      relation world (world.record entry)
  redirected :
    ∀ world directory, relation world { world with directory := directory }
  settled :
    ∀ world name outcome, relation world (world.settle name outcome).2
  published :
    ∀ {world name},
      world.registry.cache.find? name = none →
      ∀ handler,
        relation world
          ((world.settle name (.ok handler)).2.insert name
            ⟨name, world.handlers.length⟩)

namespace Gradual

variable {relation : World → World → Prop}

/-- A resolve call keeps what its constructor keeps. -/
theorem resolved
    (gradual : Gradual relation)
    {resolver : Resolver}
    {name : String}
    {world after : World}
    {handle : Option Handle}
    (resolved :
      Resolved resolver (fun _ before _ after => relation before after) name
        world handle after) :
    relation world after := by
  have asked : relation world (world.ask name) := gradual.redirected world _
  cases resolved with
  | cached found =>
      exact gradual.recorded _ rfl
  | nameless missed empty =>
      exact gradual.refl _
  | unbound missed named answer =>
      exact gradual.trans asked (gradual.recorded _ rfl)
  | lookupFailed missed named answer =>
      exact gradual.trans asked (gradual.recorded _ rfl)
  | constructionFailed missed named answer construction =>
      exact gradual.trans (gradual.trans asked construction) (gradual.settled _ _ _)
  | published missed named answer construction unpublished =>
      exact gradual.trans
        (gradual.trans (gradual.trans asked construction)
          (gradual.published unpublished _))
        (gradual.recorded _ rfl)
  | discarded missed named answer construction present =>
      exact gradual.trans
        (gradual.trans (gradual.trans asked construction) (gradual.settled _ _ _))
        (gradual.recorded _ rfl)

/-- What is kept step by step is kept by everything but requests. -/
theorem firm
    (gradual : Gradual relation) :
    Firm relation where
  refl := gradual.refl
  trans := gradual.trans
  noted world _ := gradual.recorded world rfl
  registered _ _ _ :=
    gradual.trans (gradual.trans (gradual.recorded _ rfl) (gradual.recorded _ rfl))
      (gradual.redirected _ _)
  unregistered _ _ :=
    gradual.trans (gradual.recorded _ rfl) (gradual.redirected _ _)
  broken world _ _ := gradual.redirected world _
  healed world _ := gradual.redirected world _
  resolved call :=
    gradual.trans
      (gradual.trans (gradual.recorded _ rfl)
        (gradual.resolved (call.mono fun construction =>
          construction.keeps gradual.refl gradual.trans fun _ _ _ _ =>
            gradual.recorded _ rfl)))
      (gradual.recorded _ rfl)

end Gradual

/--
A relation that every single step keeps, and so does a request whose work has kept
it.
-/
structure Stable (relation : World → World → Prop) : Prop extends Firm relation where
  served :
    ∀ {world after} instanceId request outcome,
      relation (world.record (.serving instanceId request)) after →
      relation world (after.record (.served instanceId outcome))

namespace Firm

variable
  {relation : World → World → Prop}
  {calls : Calls}

/-- A run that only answers changes nothing. -/
theorem pure
    {α : Type}
    (firm : Firm relation)
    (answer : α) :
    (Pure.pure answer : Run α).Keeps relation := by
  intro world _ after finished
  cases finished
  exact firm.refl world

/-- Scripts keep what each of their steps keeps. -/
theorem script
    (firm : Firm relation)
    (kept : calls.Keep relation)
    {role : Role}
    (script : Script role) :
    (script.run calls).Keeps relation := by
  fun_induction Script.run calls script with
  | case1 handler =>
      exact firm.pure _
  | case2 value =>
      exact firm.pure _
  | case3 role failure =>
      exact firm.pure _
  | case4 role name strict next inductionHypothesis =>
      exact (kept.resolve name strict).bind firm.trans inductionHypothesis
  | case5 role handle request next inductionHypothesis =>
      exact (kept.serve handle.instanceId request).bind firm.trans
        inductionHypothesis
  | case6 role next inductionHypothesis =>
      intro world answer after finished
      exact inductionHypothesis world finished
  | case7 role name descriptor next inductionHypothesis =>
      exact Run.Keeps.bind firm.trans
        (.ofStep fun world => firm.registered world name descriptor)
        inductionHypothesis
  | case8 role name next inductionHypothesis =>
      exact Run.Keeps.bind firm.trans
        (.ofStep fun world => firm.unregistered world name)
        inductionHypothesis
  | case9 role remark next inductionHypothesis =>
      exact Run.Keeps.bind firm.trans
        (.ofStep fun world => firm.noted world remark)
        fun _ => inductionHypothesis

/-- Finished constructions are those of scripts that keep the relation. -/
theorem constructed
    (firm : Firm relation)
    (kept : calls.Keep relation)
    {binding : Binding}
    {world after : World}
    {outcome : Except ConstructionFailure Handler}
    (built : calls.builds binding world outcome after) :
    Constructed (Runs.keeping relation) binding world outcome after :=
  (Calls.builds_iff.mp built).mono fun ran => firm.script kept _ ran

/-- Resolve calls keep what they are known to keep as a whole. -/
theorem resolveWith
    (firm : Firm relation)
    (kept : calls.Keep relation)
    (resolver : Resolver)
    (name : String)
    (strict : Bool) :
    (Dispatch.resolveWith resolver calls name strict).Keeps relation := by
  intro world answer after finished
  obtain ⟨handle, ended, resolved, _, rfl⟩ :=
    resolveWith_eq_some_iff.mp finished
  exact firm.resolved
    (resolved.mono fun construction => firm.constructed kept construction)

/-- Calls that nest to any depth keep a firm relation if requests do. -/
theorem nested
    (firm : Firm relation)
    (serving :
      ∀ {calls : Calls},
        calls.Keep relation →
        ∀ instanceId request,
          (serveWith calls instanceId request).Keeps relation)
    (resolver : Resolver)
    (depth : Nat) :
    (Calls.nested resolver depth).Keep relation := by
  induction depth with
  | zero =>
      constructor
      · intro name strict world answer after finished
        cases finished
      · intro instanceId request world answer after finished
        cases finished
  | succ depth inductionHypothesis =>
      exact
        { resolve := firm.resolveWith inductionHypothesis resolver
          serve := serving inductionHypothesis }

/-- Resolving strictly keeps what resolving keeps. -/
theorem resolveStrict
    (firm : Firm relation)
    (kept : calls.Keep relation)
    (name : String) :
    (calls.resolveStrict name).Keeps relation :=
  (kept.resolve name true).bind firm.trans fun _ => firm.pure _

/-- Resolving a locator keeps what resolving its scheme and serving keep. -/
theorem get
    (firm : Firm relation)
    (kept : calls.Keep relation)
    (locator : Locator)
    (base : Option Value) :
    (calls.get locator base).Keeps relation := by
  unfold Calls.get
  cases locator.scheme with
  | none =>
      exact firm.pure _
  | some name =>
      refine (firm.resolveStrict kept name).bind firm.trans ?_
      intro answer
      cases answer with
      | error error =>
          exact firm.pure _
      | ok handle =>
          exact (kept.serve handle.instanceId ⟨locator, base⟩).bind firm.trans
            fun _ => firm.pure _

/-- Every operation keeps a firm relation that requests keep. -/
theorem perform
    (firm : Firm relation)
    (kept : calls.Keep relation)
    (operation : Operation) :
    (operation.perform calls).Keeps relation := by
  cases operation with
  | resolve name strict =>
      exact (kept.resolve name strict).map
  | resolveStrict name =>
      exact (firm.resolveStrict kept name).map
  | resolveOrNone name =>
      exact ((kept.resolve name false).bind firm.trans
        fun _ => firm.pure _).map
  | find name =>
      exact (Run.Keeps.map fun world _ _ finished =>
        kept.resolve name world.registry.settings.strict finished)
  | get locator base =>
      exact (firm.get kept locator base).map
  | serve handle request =>
      exact (kept.serve handle.instanceId request).map
  | register name descriptor =>
      exact Run.Keeps.map
        (.ofStep fun world => firm.registered world name descriptor)
  | unregister name =>
      exact Run.Keeps.map (.ofStep fun world => firm.unregistered world name)
  | breakLookup name reason =>
      exact .ofStep fun world => firm.broken world name reason
  | healLookup name =>
      exact .ofStep fun world => firm.healed world name

/-- Every history keeps a firm relation that requests keep. -/
theorem performAll
    (firm : Firm relation)
    (kept : calls.Keep relation)
    (history : List Operation) :
    (Operation.performAll calls history).Keeps relation := by
  induction history with
  | nil =>
      exact firm.pure _
  | cons operation rest inductionHypothesis =>
      exact (firm.perform kept operation).bind firm.trans
        fun _ => inductionHypothesis.bind firm.trans fun _ => firm.pure _

end Firm

namespace Stable

variable
  {relation : World → World → Prop}
  {calls : Calls}

/-- Requests keep what the handler's work keeps. -/
theorem serveWith
    (stable : Stable relation)
    (kept : calls.Keep relation)
    (instanceId : Nat)
    (request : Request) :
    (Dispatch.serveWith calls instanceId request).Keeps relation := by
  intro world answer after finished
  cases serveWith_eq_some_iff.mp finished with
  | nobody absent =>
      exact stable.refl world
  | answered present ran =>
      exact stable.served instanceId request _ (stable.script kept _ ran)

/-- Calls that nest to any depth keep a stable relation. -/
theorem nested
    (stable : Stable relation)
    (resolver : Resolver)
    (depth : Nat) :
    (Calls.nested resolver depth).Keep relation :=
  stable.toFirm.nested stable.serveWith resolver depth

end Stable

end Dispatch
