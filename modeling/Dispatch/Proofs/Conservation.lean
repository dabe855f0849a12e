import Dispatch.Proofs.CacheIntegrity
import Dispatch.Proofs.Chronicle

namespace Dispatch

/-!
# Conservation of outcomes

Every resolve call for a name reports one outcome, which says whether the call
has looked the name up, whether it has built a handler and whether it has
obtained a handle.  So the numbers of reports of each kind determine the numbers
of all of these.
-/

namespace Journal

/-- Reports with a property are those of the outcomes that have it. -/
theorem countP_outcomes
    (journal : Journal)
    (property : Outcome → Bool) :
    (journal.outcomes.countP fun reported => property reported.1) =
      (if property .hit then journal.tally .hit else 0) +
      (if property .unbound then journal.tally .unbound else 0) +
      (if property .lookupFailed then journal.tally .lookupFailed else 0) +
      (if property .constructionFailed then
        journal.tally .constructionFailed else 0) +
      (if property .discarded then journal.tally .discarded else 0) +
      (if property .published then journal.tally .published else 0) := by
  unfold tally
  induction journal.outcomes with
  | nil =>
      simp
  | cons reported rest inductionHypothesis =>
      obtain ⟨outcome, name⟩ := reported
      rw [List.countP_cons, inductionHypothesis]
      by_cases counts : property outcome = true
      · cases outcome <;> simp [counts] <;> omega
      · cases outcome <;> simp [counts]

/-- The calls for a name, each with whether it has obtained a handle. -/
def answered
    (journal : Journal) : List (String × Bool) :=
  (journal.returned.filter fun call => call.1 ≠ "").map fun call =>
    (call.1, call.2.isSome)

@[simp] theorem answered_append
    (first second : Journal) :
    answered (first ++ second) = first.answered ++ second.answered := by
  simp [answered, returned]

@[simp] theorem instantiated_append
    (first second : Journal) :
    instantiated (first ++ second) = first.instantiated ++ second.instantiated :=
  List.filterMap_append

theorem answered_ofConstructor
    {name typeName : String}
    {serial : Nat}
    {index : Option Nat}
    {inner : Journal}
    {report : Event}
    {handle : Option Handle}
    (named : name ≠ "") :
    answered (ofConstructor name serial typeName index inner report handle) =
      inner.answered ++ [(name, handle.isSome)] := by
  rw [ofConstructor, answered_append, answered_append]
  simp [answered, returned, named]

/-- A call that has run no constructor is answered as it reports. -/
theorem answered_brief
    {name : String}
    {report : Event}
    {handle : Option Handle}
    {outcome : Outcome}
    (named : name ≠ "")
    (reports : report.outcome? = some (outcome, name))
    (tells : outcome.resolves = handle.isSome) :
    answered [.called name, .emitted report, .returned name handle] =
      (outcomes [.called name, .emitted report, .returned name handle]).map
        fun reported => (reported.2, reported.1.resolves) := by
  simp [answered, returned, outcomes, List.filterMap_cons, Entry.outcome?, named,
    reports, tells]

theorem instantiated_ofConstructor
    {name typeName : String}
    {serial : Nat}
    {index : Option Nat}
    {inner : Journal}
    {report : Event}
    {handle : Option Handle} :
    instantiated (ofConstructor name serial typeName index inner report handle) =
      inner.instantiated ++ [(name, handle.isSome)] := by
  rw [ofConstructor, instantiated_append, instantiated_append]
  simp [instantiated]

namespace Orderly

variable
  {known : List String}
  {journal : Journal}

/--
Calls for a name report in the order in which they end, each once, and the
report says whether there is a handle.
-/
theorem answered_eq
    (orderly : journal.Orderly known)
    (unnamed : "" ∉ known) :
    journal.answered =
        (journal.outcomes.map fun reported => (reported.2, reported.1.resolves)) ∧
      "" ∉ journal.published := by
  induction orderly with
  | nil =>
      exact ⟨rfl, List.not_mem_nil⟩
  | @aside known entry aside =>
      have silent := outcomes_aside aside
      cases entry with
      | returned name handle =>
          cases aside
      | _ =>
          simp [answered, returned, Journal.published, outcomes, silent]
  | append earlier later firstHypothesis secondHypothesis =>
      obtain ⟨first, firstUnnamed⟩ := firstHypothesis unnamed
      obtain ⟨second, secondUnnamed⟩ :=
        secondHypothesis (by simp [unnamed, firstUnnamed])
      refine ⟨?_, by simp [firstUnnamed, secondUnnamed]⟩
      rw [answered_append, first, second, outcomes_append, List.map_append]
  | @cached known name handle isKnown =>
      have named : name ≠ "" := fun empty => unnamed (empty ▸ isKnown)
      exact ⟨answered_brief named rfl rfl, List.not_mem_nil⟩
  | nameless =>
      exact ⟨rfl, List.not_mem_nil⟩
  | unbound named unknown =>
      exact ⟨answered_brief named rfl rfl, List.not_mem_nil⟩
  | lookupFailed named unknown =>
      exact ⟨answered_brief named rfl rfl, List.not_mem_nil⟩
  | @abstract known name typeName named unknown =>
      refine ⟨?_, List.not_mem_nil⟩
      simp [answered, returned, outcomes, List.filterMap_cons, Entry.outcome?,
        Event.outcome?, Outcome.resolves, named]
  | constructionFailed named unknown inside inductionHypothesis =>
      obtain ⟨inner, innerUnnamed⟩ := inductionHypothesis unnamed
      rw [answered_ofConstructor named, inner, outcomes_ofConstructor rfl,
        published_ofConstructor rfl]
      exact ⟨by simp [Outcome.resolves], by simpa using innerUnnamed⟩
  | published named unknown inside unpublished inductionHypothesis =>
      obtain ⟨inner, innerUnnamed⟩ := inductionHypothesis unnamed
      rw [answered_ofConstructor named, inner, outcomes_ofConstructor rfl,
        published_ofConstructor rfl]
      exact ⟨by simp [Outcome.resolves], by simp [innerUnnamed, named.symm]⟩
  | discarded named unknown inside meanwhile inductionHypothesis =>
      obtain ⟨inner, innerUnnamed⟩ := inductionHypothesis unnamed
      rw [answered_ofConstructor named, inner, outcomes_ofConstructor rfl,
        published_ofConstructor rfl]
      exact ⟨by simp [Outcome.resolves], by simpa using innerUnnamed⟩

/-- Constructions end with a report of what they have come to. -/
theorem instantiated_eq
    (orderly : journal.Orderly known) :
    journal.instantiated =
      journal.outcomes.filterMap fun reported =>
        reported.1.built?.map fun succeeded => (reported.2, succeeded) := by
  induction orderly with
  | @aside known entry aside =>
      have silent := outcomes_aside aside
      cases entry with
      | instantiated name succeeded =>
          cases aside
      | _ =>
          simp [instantiated, outcomes, silent]
  | append earlier later firstHypothesis secondHypothesis =>
      rw [instantiated_append, firstHypothesis, secondHypothesis, outcomes_append,
        List.filterMap_append]
  | constructionFailed named unknown inside inductionHypothesis =>
      rw [instantiated_ofConstructor, inductionHypothesis,
        outcomes_ofConstructor rfl, List.filterMap_append]
      rfl
  | published named unknown inside unpublished inductionHypothesis =>
      rw [instantiated_ofConstructor, inductionHypothesis,
        outcomes_ofConstructor rfl, List.filterMap_append]
      rfl
  | discarded named unknown inside meanwhile inductionHypothesis =>
      rw [instantiated_ofConstructor, inductionHypothesis,
        outcomes_ofConstructor rfl, List.filterMap_append]
      rfl
  | _ =>
      rfl

theorem countP_instantiated
    (orderly : journal.Orderly known)
    (succeeded : Bool) :
    (journal.instantiated.countP fun construction => construction.2 = succeeded) =
      journal.outcomes.countP fun reported =>
          reported.1.built? = some succeeded := by
  rw [orderly.instantiated_eq, List.countP_filterMap]
  refine List.countP_congr ?_
  rintro ⟨outcome, name⟩ _
  cases outcome.built? <;> simp

end Orderly

end Journal

section

variable
  {resolver : Resolver}
  {depth : Nat}
  {settings : Settings}
  {history : List Operation}
  {answers : List Answer}
  {world : World}

/-- Only calls for a name obtain handles. -/
theorem countP_returned_of_history
    (performed :
      Operation.performAll (Calls.nested resolver depth) history
          (World.create settings) =
        some (answers, world)) :
    (world.journal.returned.countP fun call => call.2.isSome) =
      world.journal.answered.countP fun call => call.2 := by
  have sound := sound_of_history performed
  rw [Journal.answered, List.countP_map, List.countP_filter]
  refine List.countP_congr ?_
  rintro ⟨name, handle⟩ member
  have named : handle.isSome = true → name ≠ "" := by
    intro obtained
    obtain ⟨found, rfl⟩ := Option.isSome_iff_exists.mp obtained
    obtain ⟨entry, inJournal, returns⟩ := List.mem_filterMap.mp member
    cases entry with
    | returned other handle =>
        cases returns
        exact sound.named (sound.returned inJournal)
    | _ =>
        cases returns
  simpa using named

end

/--
Of all finished calls on a registry, however they nest, each for a name reports
exactly one outcome and those for the empty name none.  Every outcome but a hit
goes with one lookup, the construction failed, discarded and published ones go
with one construction, hits go with neither, and the published ones are the
entries of the cache.
-/
theorem outcomes_conserved
    (resolver : Resolver)
    (settings : Settings)
    (depth : Nat)
    (history : List Operation)
    {answers : List Answer}
    {world : World}
    (performed :
      Operation.performAll (Calls.nested resolver depth) history
          (World.create settings) =
        some (answers, world)) :
    ((world.journal.returned.filter fun call => call.1 ≠ "").map fun call =>
        (call.1, call.2.isSome)) =
      (world.journal.outcomes.map fun reported =>
        (reported.2, reported.1.resolves)) ∧
    world.journal.tally .hit + world.journal.tally .unbound +
        world.journal.tally .lookupFailed + world.journal.tally .constructionFailed +
        world.journal.tally .discarded + world.journal.tally .published =
      (world.journal.returned.countP fun call => call.1 ≠ "") ∧
    world.directory.asked.length =
      world.journal.tally .unbound + world.journal.tally .lookupFailed +
        world.journal.tally .constructionFailed + world.journal.tally .discarded +
        world.journal.tally .published ∧
    (world.journal.instantiated.countP fun construction => construction.2 = true) =
      world.journal.tally .discarded + world.journal.tally .published ∧
    (world.journal.instantiated.countP fun construction => construction.2 = false) =
      world.journal.tally .constructionFailed ∧
    (world.journal.returned.countP fun call => call.2.isSome) =
      world.journal.tally .hit + world.journal.tally .discarded +
        world.journal.tally .published ∧
    world.registry.cache.size = world.journal.tally .published ∧
    world.registry.describe =
      "SchemeRegistry \x7b cached_schemes: " ++
        toString (world.journal.tally .published) ++
        ", config: " ++ settings.describe ++ ", .. \x7d" := by
  obtain ⟨orderly, cached, asked⟩ := World.orderly_of_history performed
  have answered := (orderly.answered_eq List.not_mem_nil).1
  have size : world.registry.cache.size = world.journal.tally .published := by
    rw [Table.size_eq_length_names, cached, Journal.published, List.length_map,
      Journal.tally, List.countP_eq_length_filter]
  refine ⟨answered, ?_, ?_, ?_, ?_, ?_, size, ?_⟩
  · have counted := congrArg List.length answered
    simp only [Journal.answered, List.length_map,
      ← List.countP_eq_length_filter] at counted
    rw [counted, ← List.countP_true, world.journal.countP_outcomes fun _ => true]
    simp
  · rw [asked.length_eq, Journal.lookedUp, List.length_map,
      ← List.countP_eq_length_filter]
    simpa using world.journal.countP_outcomes fun outcome => outcome ≠ .hit
  · rw [orderly.countP_instantiated]
    simpa [Outcome.built?] using
      world.journal.countP_outcomes fun outcome => outcome.built? = some true
  · rw [orderly.countP_instantiated]
    simpa [Outcome.built?] using
      world.journal.countP_outcomes fun outcome => outcome.built? = some false
  · rw [countP_returned_of_history performed, answered, List.countP_map]
    refine (world.journal.countP_outcomes Outcome.resolves).trans ?_
    simp [Outcome.resolves]
  · have growth := World.Grows.stable.performAll
      (World.Grows.stable.nested resolver depth) history performed
    have sameSettings : world.registry.settings = settings := growth.settings
    unfold Registry.describe
    rw [size]
    rw [sameSettings]

/-- Ten calls for a name, eight of them with a lookup, three of these published. -/
theorem bustle_outcomes_conserved :
    ∃ answers world,
      Operation.performAll (Calls.nested (.withFaults .ofTable) 3) bustle
          (World.create .default) =
        some (answers, world) ∧
      world.journal.outcomes.map Prod.fst =
        [.published, .hit, .published, .discarded, .published, .constructionFailed,
          .constructionFailed, .lookupFailed, .unbound, .hit] ∧
      (world.journal.returned.countP fun call => call.1 ≠ "") = 10 ∧
      world.directory.asked.length = 8 ∧
      world.registry.cache.size = 3 := by
  have told :
      ((Operation.performAll (Calls.nested (.withFaults .ofTable) 3) bustle
          (World.create .default)).map fun result =>
            result.2.journal.outcomes.map Prod.fst) =
        some
          [.published, .hit, .published, .discarded, .published, .constructionFailed,
            .constructionFailed, .lookupFailed, .unbound, .hit] := by
    decide +kernel
  obtain ⟨⟨answers, world⟩, performed, outcomes⟩ := Option.map_eq_some_iff.mp told
  have tally : ∀ outcome,
      world.journal.tally outcome =
        (world.journal.outcomes.map Prod.fst).count outcome := by
    intro outcome
    rw [Journal.tally, List.count, List.countP_map]
    rfl
  obtain ⟨_, calls, asked, _, _, _, size, _⟩ :=
    outcomes_conserved (.withFaults .ofTable) .default 3 bustle performed
  simp only [tally] at calls asked size
  rw [outcomes] at calls asked size
  exact ⟨answers, world, performed, outcomes, calls.symm, asked, size⟩

end Dispatch
