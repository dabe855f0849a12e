import Mathlib.Tactic.IntervalCases
import Dispatch.Proofs.ComposedNames
import Dispatch.Proofs.LocatorGrammar

namespace Dispatch

/-!
# Compositions act as one

Composed names fail together, as `Composition.resolve_nested` shows.  Where they
are built, each passes a request on to the one before it: `serve_passed` is the
induction along the handlers, at the end of which the first handler replies.
-/

/-! ## Passing requests on -/

namespace World

/--
Two worlds between which a request was passed on, as the handler with a number may
notice.
-/
structure Passes
    (instanceId : Nat)
    (before after : World) : Prop where
  directory :
    after.directory = before.directory
  registry :
    after.registry = before.registry
  handlers :
    after.handlers = before.handlers
  requests :
    after.requestsTo instanceId = before.requestsTo instanceId
  counted :
    ∀ serial, after.constructionsOf serial = before.constructionsOf serial
  journal :
    before.journal <+: after.journal

namespace Passes

variable {instanceId : Nat}

protected theorem refl
    (world : World) :
    world.Passes instanceId world where
  directory := rfl
  registry := rfl
  handlers := rfl
  requests := rfl
  counted _ := rfl
  journal := List.prefix_rfl

protected theorem trans
    {first second third : World}
    (earlier : first.Passes instanceId second)
    (later : second.Passes instanceId third) :
    first.Passes instanceId third where
  directory := later.directory.trans earlier.directory
  registry := later.registry.trans earlier.registry
  handlers := later.handlers.trans earlier.handlers
  requests := later.requests.trans earlier.requests
  counted serial := (later.counted serial).trans (earlier.counted serial)
  journal := earlier.journal.trans later.journal

/-- What is entered about others goes unnoticed. -/
theorem record
    (world : World)
    {entry : Entry}
    (others : Journal.requestsTo instanceId [entry] = [])
    (noConstruction : ∀ serial, Journal.constructionsOf serial [entry] = 0) :
    world.Passes instanceId (world.record entry) where
  directory := rfl
  registry := rfl
  handlers := rfl
  requests := by
    rw [requestsTo_record, others, List.append_nil]
  counted serial := by
    rw [constructionsOf_record, noConstruction, Nat.add_zero]
  journal := (Grows.record world entry).journal

end Passes

end World

/--
A sequence answers what its second part makes of the first, if that part always
ends.
-/
theorem Run.answer_bind
    {α β : Type}
    {next : α → Run β}
    {conclusion : α → β}
    (ends :
      ∀ value world, (next value world).map Prod.fst = some (conclusion value))
    (run : Run α)
    (world : World) :
    ((run >>= next) world).map Prod.fst =
      ((run world).map Prod.fst).map conclusion := by
  cases ran : run world with
  | none =>
      change ((run world).bind _).map Prod.fst = _
      rw [ran]
      rfl
  | some result =>
      obtain ⟨value, middle⟩ := result
      rw [Run.bind_of_eq ran]
      exact ends value middle

/-- What a handler with a number answers to a request in a world. -/
def Handler.reply
    (handler : Handler)
    (calls : Calls)
    (instanceId : Nat)
    (request : Request)
    (world : World) : Option (Except Failure Value) :=
  ((handler.respond (world.requestsTo instanceId) request).run calls
    (world.record (.serving instanceId request))).map Prod.fst

/-- A handler that is there answers a request as it replies to it. -/
theorem serve_eq_reply
    {handler : Handler}
    {instanceId : Nat}
    {world : World}
    (present : world.handlers[instanceId]? = some handler)
    (calls : Calls)
    (request : Request) :
    (serveWith calls instanceId request world).map Prod.fst =
      handler.reply calls instanceId request world := by
  simp only [serveWith, Run.world_bind_apply, present, Run.record_bind_apply]
  exact (Run.answer_bind (fun _ _ => rfl) _ _).trans Option.map_id_apply

/-- A handler that forwards answers what the handler that it forwards to answers. -/
theorem serve_forwarding
    {handle : Handle}
    {instanceId : Nat}
    {world : World}
    (present : world.handlers[instanceId]? = some (.forwarding handle))
    (calls : Calls)
    (request : Request) :
    (serveWith calls instanceId request world).map Prod.fst =
      (calls.serve handle.instanceId request
        (world.record (.serving instanceId request))).map Prod.fst := by
  rw [serve_eq_reply present]
  refine (Run.answer_bind (fun outcome _ => ?_) _ _).trans Option.map_id_apply
  cases outcome <;> rfl

namespace Composition

variable
  {resolver : Resolver}
  {start : World}
  {composition : Composition resolver start}
  {handler : Handler}
  {world : World}

/-- The handlers that have been built for the names are there. -/
theorem getElem?_handlers
    {index : Nat}
    (within : index ≤ composition.length)
    (stands :
      start.handlers ++ composition.handlers handler composition.length <+:
        world.handlers) :
    world.handlers[start.handlers.length + index]? =
      (composition.handlers handler composition.length)[index]? := by
  obtain ⟨more, isAppend⟩ := stands
  have inside :
      index < (composition.handlers handler composition.length).length := by
    simp [handlers]
    omega
  rw [← isAppend, List.append_assoc, List.getElem?_append_right (by omega),
    Nat.add_sub_cancel_left, List.getElem?_append_left inside]

/-- A request to the handler of a name reaches the first handler, which replies. -/
theorem serve_passed
    (stands :
      start.handlers ++ composition.handlers handler composition.length <+:
        world.handlers)
    {index : Nat}
    (within : index ≤ composition.length)
    (depth : Nat)
    (request : Request) :
    ∃ reached,
      world.Passes start.handlers.length reached ∧
        ((Calls.nested resolver (depth + index + 1)).serve
            (start.handlers.length + index) request world).map Prod.fst =
          handler.reply (Calls.nested resolver depth) start.handlers.length
            request reached := by
  induction index generalizing world with
  | zero =>
      exact ⟨world, .refl world,
        serve_eq_reply (getElem?_handlers within stands) _ _⟩
  | succ index inductionHypothesis =>
      have present :
          world.handlers[start.handlers.length + (index + 1)]? =
            some (.forwarding
              ⟨composition.name index, start.handlers.length + index⟩) := by
        rw [getElem?_handlers within stands]
        have inRange : index < composition.length := within
        simp [handlers, inRange]
      have passes :
          world.Passes start.handlers.length
            (world.record
                (.serving (start.handlers.length + (index + 1)) request)) :=
        .record world (by simp [Journal.requestsTo]) fun _ => rfl
      obtain ⟨reached, later, replied⟩ :=
        @inductionHypothesis (world.record _) stands (Nat.le_of_lt within)
      exact ⟨reached, passes.trans later,
        (serve_forwarding present _ _).trans replied⟩

/--
In a world, every locator under the last name resolves to what the first handler
replies to it, in a world that differs from a given one only in that the locator
has been passed on.  A failure of the handler is wrapped once, for the last name.
-/
def AnswersAs
    (composition : Composition resolver start)
    (handler : Handler)
    (depth : Nat)
    (world present : World) : Prop :=
  ∀ (body : String) (base : Option Value),
    ∃ reached,
      present.Passes start.handlers.length reached ∧
        ((Operation.get ⟨some (composition.name composition.length), body⟩
          base).perform
            (Calls.nested resolver (depth + composition.length + 1))
              world).map Prod.fst =
          (handler.reply (Calls.nested resolver depth) start.handlers.length
            ⟨⟨some (composition.name composition.length), body⟩, base⟩ reached).map
          fun outcome =>
            .value (outcome.mapError
              (.handlerFailed (composition.name composition.length)
                (composition.name composition.length ++ ":" ++ body)))

/-- What has passed before does not matter for what is answered. -/
theorem AnswersAs.of_passes
    {depth : Nat}
    {earlier present : World}
    (answers : composition.AnswersAs handler depth world present)
    (passes : earlier.Passes start.handlers.length present) :
    composition.AnswersAs handler depth world earlier := by
  intro body base
  obtain ⟨reached, further, replied⟩ := answers body base
  exact ⟨reached, passes.trans further, replied⟩

/-- Resolving the last name has failed, and all names with it. -/
structure Fails
    (composition : Composition resolver start)
    (depth : Nat)
    (after : World) : Prop where
  strict :
    (Calls.nested resolver (depth + composition.length + 1)).resolve
        (composition.name composition.length) true start =
      some (.error (.unresolved (composition.name composition.length)), after)
  lenient :
    (Calls.nested resolver (depth + composition.length + 1)).resolve
        (composition.name composition.length) false start =
      some (.ok none, after)
  lookedUp :
    after.directory.asked =
      start.directory.asked ++ (composition.names composition.length).reverse
  once :
    (composition.names composition.length).Nodup
  registry :
    after.registry = start.registry
  unpublished :
    ∃ happened, after.journal = start.journal ++ happened ∧ happened.published = []
  tells :
    (DispatchError.unresolved (composition.name composition.length)).sources = [] ∧
      ∀ {index}, index < composition.length →
        (DispatchError.unresolved
          (composition.name composition.length)).schemeName? ≠
          some (composition.name index)

/--
Resolving the last name has succeeded.  The very first locator under it, which
makes the registry build all handlers, and every later one are answered by the
first handler.
-/
structure Succeeds
    (composition : Composition resolver start)
    (handler : Handler)
    (depth : Nat)
    (after : World) : Prop where
  resolved :
    ∀ strict,
      (Calls.nested resolver (depth + composition.length + 1)).resolve
          (composition.name composition.length) strict start =
        some
          (.ok (some ⟨composition.name composition.length,
            start.handlers.length + composition.length⟩), after)
  read :
    ∀ body,
      Locator.parse (composition.name composition.length ++ ":" ++ body) =
        .ok ⟨some (composition.name composition.length), body⟩
  first :
    composition.AnswersAs handler depth start after
  later :
    ∀ {world}, after.Grows world →
      ∀ others, composition.AnswersAs handler others world world
  wrapped :
    ∀ body cause,
      (DispatchError.handlerFailed (composition.name composition.length)
          (composition.name composition.length ++ ":" ++ body) cause).sources =
        cause.chain

/--
Where the last name resolves to its handle, its locators are answered by the first
handler.
-/
theorem answersAs_of_resolved
    {depth : Nat}
    {present : World}
    (resolved :
      (Calls.nested resolver (depth + composition.length + 1)).resolve
          (composition.name composition.length) true world =
        some
          (.ok (some ⟨composition.name composition.length,
            start.handlers.length + composition.length⟩), present))
    (stands :
      start.handlers ++ composition.handlers handler composition.length <+:
        present.handlers) :
    composition.AnswersAs handler depth world present := by
  intro body base
  obtain ⟨reached, passes, replied⟩ :=
    serve_passed stands (Nat.le_refl _) depth
      ⟨⟨some (composition.name composition.length), body⟩, base⟩
  refine ⟨reached, passes, ?_⟩
  have performed :
      (Operation.get ⟨some (composition.name composition.length), body⟩ base).perform
          (Calls.nested resolver (depth + composition.length + 1)) world =
        Operation.conclude
          (.get ⟨some (composition.name composition.length), body⟩ base)
          (Calls.nested resolver (depth + composition.length + 1))
            world.registry.settings
          (composition.name composition.length)
          (some ⟨composition.name composition.length,
            start.handlers.length + composition.length⟩) present :=
    Operation.perform_of_resolved rfl resolved
  rw [performed, ← replied]
  exact Run.answer_bind (fun _ _ => rfl) _ _

end Composition

/-! ## Locators under scheme names -/

/-- A scheme name in lower case, a colon and any body are read as they stand. -/
theorem Locator.parse_of_isSchemeName
    {name : String}
    (isName : isSchemeName name.toList = true)
    (lower : name.toList.map Char.toLower = name.toList)
    (body : String) :
    Locator.parse (name ++ ":" ++ body) = .ok ⟨some name, body⟩ := by
  have divides : Divides (name ++ ":" ++ body) name body :=
    ⟨rfl, isSchemeName_iff.mp isName⟩
  have kept : inSmallLetters name = name := by
    have small : name.toList.map Char.toLower = name.toList.map smallLetter :=
      List.map_congr_left fun character _ => toLower_eq_smallLetter character
    rw [inSmallLetters, ← small, lower, String.ofList_toList]
  rw [divides.parse, kept]

/-! ## Composed names as one -/

namespace Composition

variable
  {resolver : Resolver}
  {start : World}
  {composition : Composition resolver start}
  {handler : Handler}

/-- No name of a composition comes twice. -/
theorem nodup_names :
    (composition.names composition.length).Nodup := by
  refine List.Nodup.map_on ?_ List.nodup_range
  intro first isFirst second isSecond same
  rw [List.mem_range] at isFirst isSecond
  exact composition.distinct (Nat.le_of_lt_succ isFirst)
    (Nat.le_of_lt_succ isSecond) same

/-- Without a handler for the first name all names fail. -/
theorem fails
    (yields : composition.Yields none)
    (depth : Nat) :
    ∃ after, composition.Fails depth after := by
  obtain ⟨after, resolved, composed⟩ :=
    resolve_nested yields (Nat.le_refl _) depth composition.awaits_start
  refine ⟨after,
    { strict := resolved true
      lenient := resolved false
      lookedUp := by rw [composed.directory]
      once := composition.nodup_names
      registry := composed.registry
      unpublished := composed.journal
      tells := ⟨rfl, ?_⟩ }⟩
  intro index within same
  have equal := composition.distinct (Nat.le_refl _) (Nat.le_of_lt within)
    (Option.some.inj same)
  omega

/-- With a handler for the first name all names succeed. -/
theorem succeeds
    (yields : composition.Yields (some handler))
    (isName : isSchemeName (composition.name composition.length).toList = true)
    (lower :
      (composition.name composition.length).toList.map Char.toLower =
        (composition.name composition.length).toList)
    (depth : Nat) :
    ∃ after, composition.Succeeds handler depth after := by
  obtain ⟨after, resolved, composed⟩ :=
    resolve_nested yields (Nat.le_refl _) depth composition.awaits_start
  have stands :
      start.handlers ++ composition.handlers handler composition.length =
        after.handlers :=
    composed.handlers.symm
  refine ⟨after,
    { resolved := resolved
      read := Locator.parse_of_isSchemeName isName lower
      first := answersAs_of_resolved (resolved true) (stands ▸ List.prefix_rfl)
      later := ?_
      wrapped := fun _ _ => rfl }⟩
  intro world grows others
  have found :
      (world.record
        (.called (composition.name composition.length))).registry.cache.find?
          (composition.name composition.length) =
        some ⟨composition.name composition.length,
          start.handlers.length + composition.length⟩ := by
    refine grows.cached ?_
    rw [composed.registry]
    refine Registry.find?_fill_of_getElem? _ _ composition.nodup_names ?_
    simp [names]
  refine (answersAs_of_resolved ((Resolved.cached found).nested_eq true)
    ?_).of_passes ?_
  · rw [stands]
    exact grows.handlers
  · exact ((World.Passes.record world rfl fun _ => rfl).trans
      (.record _ rfl fun _ => rfl)).trans (.record _ rfl fun _ => rfl)

end Composition

/--
Composed names fail and answer as one.  If nothing comes of the first name, for
whatever reason, resolving the last one looks up every name once, publishes none
of them, and tells a strict caller of the last name alone.  If a handler comes of
the first name, locators under the last name are answered by this handler, whose
failures are wrapped once.
-/
theorem composition_acts_as_one
    {resolver : Resolver}
    {start : World}
    (composition : Composition resolver start) :
    (composition.Yields none →
      ∀ depth, ∃ after, composition.Fails depth after) ∧
    ∀ handler,
      composition.Yields (some handler) →
      isSchemeName (composition.name composition.length).toList = true →
      (composition.name composition.length).toList.map Char.toLower =
        (composition.name composition.length).toList →
      ∀ depth, ∃ after, composition.Succeeds handler depth after :=
  ⟨Composition.fails, fun _ yields isName lower =>
    Composition.succeeds yields isName lower⟩

/-- The names of a ladder with two rungs above its bottom. -/
def ladderName : Nat → String
  | 0 => "bottom"
  | 1 => "middle"
  | _ => "top"

/--
The rungs of a ladder, the upper one of which tolerates that the lower one is
missing.
-/
def rungs : Directory :=
  (Directory.empty.register "middle"
    (.factory "Middle" fun _ => .forwardingTo "bottom" true)).register "top"
      (.factory "Top" fun _ => .forwardingTo "middle" false)

/-- A ladder over what is registered under its first name, if anything is. -/
def ladder
    (world : World)
    (middle :
      world.directory.table.find? "middle" =
        some ⟨0, .factory "Middle" fun _ => .forwardingTo "bottom" true⟩)
    (top :
      world.directory.table.find? "top" =
        some ⟨1, .factory "Top" fun _ => .forwardingTo "middle" false⟩)
    (fresh : world.registry.cache = Table.empty) :
    Composition .ofTable world where
  length := 2
  name := ladderName
  binding
    | 0 => ⟨0, .factory "Middle" fun _ => .forwardingTo "bottom" true⟩
    | _ => ⟨1, .factory "Top" fun _ => .forwardingTo "middle" false⟩
  named := by
    intro index within
    interval_cases index <;> decide
  distinct := by
    intro first second isFirst isSecond
    interval_cases first <;> interval_cases second <;> decide
  missed := by
    intro index _
    rw [fresh]
    rfl
  bound := by
    intro index within
    interval_cases index
    · exact Resolver.ofTable_binds middle
    · exact Resolver.ofTable_binds top
  forwards := by
    intro index within
    interval_cases index
    · exact ⟨_, _, rfl, fun _ => Script.forwards_forwardingTo "bottom" true⟩
    · exact ⟨_, _, rfl, fun _ => Script.forwards_forwardingTo "middle" false⟩

/-- A ladder without a bottom. -/
def hollowLadder :
    Composition .ofTable { World.create Settings.default with directory := rungs } :=
  ladder _ rfl rfl rfl

/-- A ladder over a handler that always fails. -/
def shakyLadder :
    Composition .ofTable
      { World.create Settings.default with
        directory := rungs.register "bottom" (.plain "Bottom" .unable) } :=
  ladder _ rfl rfl rfl

/--
The first ladder is not climbed; the second one is, and tells why its bottom fails.
-/
theorem ladders_act_as_one :
    hollowLadder.Yields none ∧
      (∃ after, hollowLadder.Fails 0 after) ∧
      shakyLadder.Yields (some .unable) ∧
      isSchemeName "top".toList = true ∧
      "top".toList.map Char.toLower = "top".toList ∧
      (∃ after, shakyLadder.Succeeds .unable 0 after) ∧
      ((Operation.get ⟨some "top", "x"⟩ none).perform (Calls.nested .ofTable 3)
          { World.create Settings.default with
            directory :=
              rungs.register "bottom" (.plain "Bottom" .unable) }).map Prod.fst =
        some (.value (.error
          (.handlerFailed "top" "top:x" (Failure.single "cannot resolve x")))) := by
  have hollow : hollowLadder.Yields none := by
    intro asked
    refine ⟨.unbound, ?_⟩
    intro binding answer
    cases answer
  have shaky : shakyLadder.Yields (some .unable) := by
    intro asked
    refine ⟨.built (.plain rfl), ?_⟩
    intro binding answer index within
    cases answer
    change index < 2 at within
    interval_cases index <;> decide
  obtain ⟨after, succeeds⟩ :=
    (composition_acts_as_one shakyLadder).2 .unable shaky (by decide) (by decide) 0
  refine ⟨hollow, (composition_acts_as_one hollowLadder).1 hollow 0, shaky,
    by decide, by decide, ⟨after, succeeds⟩, ?_⟩
  obtain ⟨reached, -, answered⟩ := succeeds.first "x" none
  exact answered

end Dispatch
