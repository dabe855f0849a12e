import Dispatch.Proofs.Chronicle

namespace Dispatch

/-!
# Order of reports

A name is published once.  What is reported about it before differs from what is
reported afterwards, save that a construction may fail for a name that was
published while the constructor ran.  `Journal.Timely` says so of the outcomes
one by one; `Journal.FailsLate` names the call of such a failure.
-/

theorem Event.outcome?_eq_published
    {event : Event}
    {name : String} :
    event.outcome? = some (.published, name) ↔ event = .published name := by
  constructor
  · intro reports
    unfold outcome? at reports
    split at reports <;> simp at reports
    exact congrArg Event.published reports
  · rintro rfl
    rfl

/-- What is known of a name where an outcome is reported for it. -/
def Outcome.Permitted
    (known : List String)
    (name : String) : Outcome → Prop
  | .hit => name ∈ known
  | .discarded => name ∈ known
  | .unbound => name ∉ known
  | .lookupFailed => name ∉ known
  | .published => name ∉ known
  | .constructionFailed => True

namespace Journal

theorem mem_published_iff
    {journal : Journal}
    {name : String} :
    name ∈ journal.published ↔ .published name ∈ journal.events := by
  simp only [published, outcomes, events, List.mem_map, List.mem_filter,
    List.mem_filterMap]
  constructor
  · rintro ⟨⟨outcome, other⟩, ⟨⟨entry, member, reports⟩, isPublished⟩, same⟩
    cases entry with
    | emitted event =>
        obtain rfl : outcome = .published := of_decide_eq_true isPublished
        obtain rfl : other = name := same
        exact ⟨_, member, congrArg some (Event.outcome?_eq_published.mp reports)⟩
    | _ =>
        cases reports
  · rintro ⟨entry, member, reports⟩
    cases entry with
    | emitted event =>
        cases reports
        exact ⟨(.published, name), ⟨⟨_, member, rfl⟩, rfl⟩, rfl⟩
    | _ =>
        cases reports

/--
Outcomes are reported in keeping with what was known and has been published since.
-/
def Timely : List String → Journal → Prop
  | _, [] =>
      True
  | known, entry :: rest =>
      (∀ outcome name,
          entry.outcome? = some (outcome, name) → outcome.Permitted known name) ∧
        Timely (known ++ published [entry]) rest

theorem published_cons
    (entry : Entry)
    (rest : Journal) :
    published (entry :: rest) = published [entry] ++ published rest :=
  published_append [entry] rest

theorem timely_append
    {known : List String}
    {first second : Journal} :
    (first ++ second).Timely known ↔
      first.Timely known ∧ second.Timely (known ++ first.published) := by
  induction first generalizing known with
  | nil =>
      simp [Timely, published, outcomes]
  | cons entry rest inductionHypothesis =>
      rw [List.cons_append, Timely, Timely, inductionHypothesis,
        published_cons entry rest, List.append_assoc, and_assoc]

theorem timely_singleton_iff
    {known : List String}
    {entry : Entry} :
    Timely known [entry] ↔
      ∀ outcome name,
        entry.outcome? = some (outcome, name) → outcome.Permitted known name := by
  simp [Timely]

theorem Timely.permitted
    {known : List String}
    {earlier later : Journal}
    {entry : Entry}
    (timely : Timely known (earlier ++ entry :: later))
    {outcome : Outcome}
    {name : String}
    (reports : entry.outcome? = some (outcome, name)) :
    outcome.Permitted (known ++ earlier.published) name :=
  (timely_append.mp timely).2.1 outcome name reports

theorem Timely.nodup
    {known : List String}
    {journal : Journal}
    (timely : journal.Timely known)
    (distinct : known.Nodup) :
    (known ++ journal.published).Nodup := by
  induction journal generalizing known with
  | nil =>
      simpa [published, outcomes] using distinct
  | cons entry rest inductionHypothesis =>
      obtain ⟨permitted, restTimely⟩ := timely
      rw [published_cons, ← List.append_assoc]
      refine inductionHypothesis restTimely ?_
      cases reports : entry.outcome? with
      | none =>
          simpa [published, outcomes, reports] using distinct
      | some reported =>
          obtain ⟨outcome, name⟩ := reported
          have allowed := permitted outcome name reports
          by_cases publishes : outcome = .published
          · subst publishes
            have fresh : name ∉ known := allowed
            have told : published [entry] = [name] := by
              simp [published, outcomes, reports]
            rw [told]
            refine List.nodup_append.mpr ⟨distinct, by simp, ?_⟩
            intro other member added isAdded
            rw [List.mem_singleton.mp isAdded]
            exact fun same => fresh (same ▸ member)
          · simpa [published, outcomes, reports, publishes] using distinct

theorem timely_ofConstructor
    {known : List String}
    {name typeName : String}
    {serial : Nat}
    {index : Option Nat}
    {inner : Journal}
    {report : Event}
    {handle : Option Handle}
    {outcome : Outcome}
    (reports : report.outcome? = some (outcome, name))
    (inside : inner.Timely known)
    (permitted : outcome.Permitted (known ++ inner.published) name) :
    (ofConstructor name serial typeName index inner report handle).Timely known := by
  have beginning :
      Timely known [.called name, .constructing serial typeName index] := by
    simp [Timely, Entry.outcome?]
  have unpublished :
      published [.called name, .constructing serial typeName index] = [] := rfl
  have ending :
      Timely (known ++ inner.published)
        [.instantiated name handle.isSome, .emitted report,
            .returned name handle] := by
    refine ⟨by simp [Entry.outcome?], ?_, by simp [Timely, Entry.outcome?]⟩
    intro other otherName otherReports
    have same := reports.symm.trans otherReports
    cases same
    have silent : published [.instantiated name handle.isSome] = [] := rfl
    rwa [silent, List.append_nil]
  rw [ofConstructor, timely_append, timely_append, published_append, unpublished]
  simpa using ⟨⟨beginning, inside⟩, ending⟩

theorem Orderly.timely
    {known : List String}
    {journal : Journal}
    (orderly : journal.Orderly known) :
    journal.Timely known := by
  induction orderly with
  | nil =>
      trivial
  | aside aside =>
      simp [timely_singleton_iff, outcomes_aside aside]
  | append earlier later firstHypothesis secondHypothesis =>
      exact timely_append.mpr ⟨firstHypothesis, secondHypothesis⟩
  | cached isKnown =>
      simpa [Timely, Entry.outcome?, Event.outcome?, Outcome.Permitted,
        Journal.published, outcomes] using isKnown
  | nameless =>
      simp [Timely, Entry.outcome?]
  | unbound named unknown =>
      simpa [Timely, Entry.outcome?, Event.outcome?, Outcome.Permitted,
        Journal.published, outcomes] using unknown
  | lookupFailed named unknown =>
      simpa [Timely, Entry.outcome?, Event.outcome?, Outcome.Permitted,
        Journal.published, outcomes] using unknown
  | abstract named unknown =>
      simp [Timely, Entry.outcome?, Event.outcome?, Outcome.Permitted]
  | constructionFailed named unknown inside inductionHypothesis =>
      exact timely_ofConstructor rfl inductionHypothesis trivial
  | published named unknown inside unpublished inductionHypothesis =>
      refine timely_ofConstructor rfl inductionHypothesis ?_
      exact fun member => (List.mem_append.mp member).elim unknown unpublished
  | discarded named unknown inside meanwhile inductionHypothesis =>
      refine timely_ofConstructor rfl inductionHypothesis ?_
      exact List.mem_append_right _ meanwhile

/-! ## Failures that come late -/

/--
The names of the calls that have begun and not ended, the innermost first; there
is no such list if a call ends before one that has begun within it.
-/
def pending? : Journal → List String → Option (List String)
  | [], pending =>
      some pending
  | .called name :: rest, pending =>
      pending? rest (name :: pending)
  | .returned name _ :: rest, innermost :: pending =>
      if innermost = name then pending? rest pending else none
  | .returned _ _ :: _, [] =>
      none
  | _ :: rest, pending =>
      pending? rest pending

theorem pending?_append
    (first second : Journal)
    (pending : List String) :
    pending? (first ++ second) pending =
      (first.pending? pending).bind second.pending? := by
  fun_induction pending? first pending <;> simp_all [pending?]

theorem Orderly.pending?_eq
    {known : List String}
    {journal : Journal}
    (orderly : journal.Orderly known)
    (pending : List String) :
    journal.pending? pending = some pending := by
  induction orderly generalizing pending with
  | @aside known entry aside =>
      cases entry with
      | called name => cases aside
      | returned name handle => cases aside
      | _ => rfl
  | append earlier later firstHypothesis secondHypothesis =>
      simp [pending?_append, firstHypothesis, secondHypothesis]
  | constructionFailed named unknown inside inductionHypothesis =>
      simp [ofConstructor, pending?_append, pending?, inductionHypothesis]
  | published named unknown inside unpublished inductionHypothesis =>
      simp [ofConstructor, pending?_append, pending?, inductionHypothesis]
  | discarded named unknown inside meanwhile inductionHypothesis =>
      simp [ofConstructor, pending?_append, pending?, inductionHypothesis]
  | _ =>
      simp [pending?]

/-- An entry of two journals in a row belongs to the first or to the second. -/
theorem split_append
    {first second earlier later : Journal}
    {entry : Entry}
    (split : first ++ second = earlier ++ entry :: later) :
    (∃ rest, first = earlier ++ entry :: rest ∧ later = rest ++ second) ∨
      ∃ rest, earlier = first ++ rest ∧ second = rest ++ entry :: later := by
  rcases List.append_eq_append_iff.mp split with
    ⟨rest, isEarlier, isSecond⟩ | ⟨rest, isFirst, isLater⟩
  · exact .inr ⟨rest, isEarlier, isSecond⟩
  · cases rest with
    | nil =>
        exact .inr ⟨[], by simpa using isFirst.symm, isLater.symm⟩
    | cons head rest =>
        obtain ⟨rfl, rfl⟩ := List.cons.inj isLater
        exact .inl ⟨rest, isFirst, rfl⟩

/--
An event of a call that has run a constructor is its report or was reported
meanwhile.
-/
theorem split_ofConstructor
    {name typeName : String}
    {serial : Nat}
    {index : Option Nat}
    {inner earlier later : Journal}
    {report event : Event}
    {handle : Option Handle}
    (split :
      ofConstructor name serial typeName index inner report handle =
        earlier ++ .emitted event :: later) :
    (∃ before after,
        inner = before ++ .emitted event :: after ∧
          earlier = [.called name, .constructing serial typeName index] ++ before ∧
          later =
            after ++
              [.instantiated name handle.isSome, .emitted report,
                .returned name handle]) ∨
      event = report ∧
        earlier =
          [.called name, .constructing serial typeName index] ++ inner ++
            [.instantiated name handle.isSome] ∧
        later = [.returned name handle] := by
  rcases split_append split with ⟨rest, inMidst, rfl⟩ | ⟨rest, rfl, atEnd⟩
  · rcases split_append inMidst with ⟨_, atBeginning, _⟩ | ⟨before, rfl, inInner⟩
    · have member :
          Entry.emitted event ∈
              [.called name, .constructing serial typeName index] := by
        rw [atBeginning]
        simp
      simp at member
    · exact .inl ⟨before, rest, inInner, rfl, rfl⟩
  · match rest, atEnd with
    | [], atEnd =>
        simp at atEnd
    | [_], atEnd =>
        simp only [List.cons_append, List.nil_append, List.cons.injEq,
          Entry.emitted.injEq] at atEnd
        obtain ⟨rfl, rfl, rfl⟩ := atEnd
        exact .inr ⟨rfl, rfl, rfl⟩
    | [_, _], atEnd =>
        simp at atEnd
    | _ :: _ :: _ :: _, atEnd =>
        simp at atEnd

/--
What stands before and after a failure that is reported for a name published
already: its call found the name unpublished, and the name was published while
the constructor ran that this call has started.
-/
def FailsLate
    (known : List String)
    (name : String)
    (earlier later : Journal) : Prop :=
  ∃ (before during after : Journal) (serial : Nat) (typeName : String)
      (index : Option Nat),
    earlier =
      before ++ .called name :: .constructing serial typeName index :: during ++
        [.instantiated name false] ∧
    later = .returned name none :: after ∧
    during.pending? [] = some [] ∧
    name ∉ known ++ before.published ∧
    name ∈ during.published

theorem FailsLate.within
    {known knownThen : List String}
    {name : String}
    {lead earlier later : Journal}
    (late : FailsLate knownThen name earlier later)
    (since : knownThen = known ++ lead.published)
    (trail : Journal) :
    FailsLate known name (lead ++ earlier) (later ++ trail) := by
  obtain ⟨before, during, after, serial, typeName, index, rfl, rfl, complete,
    unknown, published⟩ := late
  refine ⟨lead ++ before, during, after ++ trail, serial, typeName, index, ?_, rfl,
    complete, ?_, published⟩
  · simp
  · rwa [published_append, ← List.append_assoc, ← since]

/--
A failure is reported late only by a call that is overtaken.  The induction is on
the form of the journal, so that the call of a report is the one whose
constructor encloses it.
-/
theorem Orderly.failsLate
    {known : List String}
    {journal : Journal}
    (orderly : journal.Orderly known)
    {name : String}
    {failure : ConstructionFailure}
    {earlier later : Journal}
    (split :
      journal = earlier ++ .emitted (.constructionFailed name failure) :: later)
    (late : name ∈ known ++ earlier.published) :
    FailsLate known name earlier later := by
  have member : Entry.emitted (.constructionFailed name failure) ∈ journal := by
    rw [split]
    simp
  induction orderly generalizing earlier later with
  | aside aside =>
      rw [← List.mem_singleton.mp member] at aside
      cases aside
  | @append known first second _ _ firstHypothesis secondHypothesis =>
      rcases split_append split with ⟨rest, inFirst, rfl⟩ | ⟨rest, rfl, inSecond⟩
      · have inner := firstHypothesis inFirst late (by rw [inFirst]; simp)
        have sameKnown : known = known ++ Journal.published [] :=
          (List.append_nil known).symm
        exact inner.within sameKnown second
      · rw [published_append, ← List.append_assoc] at late
        have inner := secondHypothesis inSecond late (by rw [inSecond]; simp)
        have whole := inner.within rfl []
        rwa [List.append_nil] at whole
  | @abstract known other typeName named unknown =>
      have silent := congrArg Journal.published split
      rw [published_append] at silent
      have unpublished : earlier.published = [] :=
        (List.append_eq_nil_iff.mp silent.symm).1
      rw [unpublished, List.append_nil] at late
      simp at member
      exact (unknown (member.1 ▸ late)).elim
  | @constructionFailed known other typeName serial index inner otherFailure
      named unknown inside inductionHypothesis =>
      rcases split_ofConstructor split with
        ⟨before, after, inInner, rfl, rfl⟩ | ⟨same, rfl, rfl⟩
      · have deeper := inductionHypothesis inInner late (by rw [inInner]; simp)
        exact deeper.within (List.append_nil known).symm _
      · cases same
        rw [published_append, published_append] at late
        change name ∈ known ++ ([] ++ inner.published ++ []) at late
        rw [List.nil_append, List.append_nil, List.mem_append] at late
        refine ⟨[], inner, [], serial, typeName, index, rfl, rfl,
          inside.pending?_eq [], ?_, late.resolve_left unknown⟩
        exact (List.append_nil known).symm ▸ unknown
  | @published known other typeName serial index inner handle named unknown inside
      unpublished inductionHypothesis =>
      rcases split_ofConstructor split with
        ⟨before, after, inInner, rfl, rfl⟩ | ⟨same, _, _⟩
      · have deeper := inductionHypothesis inInner late (by rw [inInner]; simp)
        exact deeper.within (List.append_nil known).symm _
      · cases same
  | @discarded known other typeName serial index inner handle named unknown inside
      meanwhile inductionHypothesis =>
      rcases split_ofConstructor split with
        ⟨before, after, inInner, rfl, rfl⟩ | ⟨same, _, _⟩
      · have deeper := inductionHypothesis inInner late (by rw [inInner]; simp)
        exact deeper.within (List.append_nil known).symm _
      · cases same
  | _ =>
      simp at member

theorem events_append
    (first second : Journal) :
    events (first ++ second) = first.events ++ second.events :=
  List.filterMap_append

/-- What stands before an event in the reports stands before it in the journal. -/
theorem split_events
    {journal : Journal}
    {earlier later : List Event}
    {event : Event}
    (split : journal.events = earlier ++ event :: later) :
    ∃ before after : Journal,
      journal = before ++ .emitted event :: after ∧ before.events = earlier := by
  obtain ⟨before, rest, rfl, isEarlier, restSplit⟩ :=
    List.filterMap_eq_append_iff.mp split
  obtain ⟨between, entry, after, rfl, silent, reports, _⟩ :=
    List.filterMap_eq_cons_iff.mp restSplit
  have isEvent : entry = .emitted event := by
    cases entry with
    | emitted other =>
        exact congrArg Entry.emitted (Option.some.inj reports)
    | _ =>
        cases reports
  have betweenSilent : events between = [] :=
    List.filterMap_eq_nil_iff.mpr silent
  refine ⟨before ++ between, after, by rw [isEvent, List.append_assoc], ?_⟩
  rw [events_append, betweenSilent, List.append_nil]
  exact isEarlier

theorem count_events_published
    (journal : Journal)
    (name : String) :
    journal.events.count (.published name) = journal.published.count name := by
  induction journal with
  | nil =>
      rfl
  | cons entry rest inductionHypothesis =>
      have split : events (entry :: rest) = events [entry] ++ events rest :=
        events_append [entry] rest
      rw [published_cons, split, List.count_append, List.count_append,
        inductionHypothesis]
      congr 1
      cases entry with
      | emitted event =>
          by_cases isPublished : event = .published name
          · have reported :
                events [.emitted (.published name)] = [.published name] := rfl
            have told : published [.emitted (.published name)] = [name] := rfl
            rw [isPublished, reported, told, List.count_singleton_self,
              List.count_singleton_self]
          · have absent : .published name ∉ events [.emitted event] := by
              simpa [events] using fun same => isPublished same.symm
            rw [List.count_eq_zero.mpr absent]
            exact (List.count_eq_zero.mpr fun member =>
              absent (mem_published_iff.mp member)).symm
      | _ =>
          rfl

end Journal

/--
Whatever is called, bound and unbound in whatever order, and however calls nest:
a name is published at most once.  Its handle is found in the cache or preferred
to a new one only afterwards, and that nothing is bound to it or cannot be learnt
is reported only before.  A construction fails afterwards only in a call that had
found the name unpublished and in whose own constructor it was then published.
-/
theorem events_in_order
    (resolver : Resolver)
    (settings : Settings)
    (depth : Nat)
    (history : List Operation)
    {answers : List Answer}
    {world : World}
    (performed :
      Operation.performAll (Calls.nested resolver depth) history
          (World.create settings) =
        some (answers, world))
    (name : String) :
    world.journal.events.count (.published name) ≤ 1 ∧
    (∀ (earlier later : List Event) (event : Event),
      world.journal.events = earlier ++ event :: later →
      (event = .cacheHit name ∨ event = .duplicateDiscarded name →
        .published name ∈ earlier) ∧
      (event = .unbound name ∨ (∃ failure, event = .lookupFailed name failure) →
        .published name ∉ earlier)) ∧
    (∀ (earlier later : Journal) (failure : ConstructionFailure),
      world.journal =
        earlier ++ .emitted (.constructionFailed name failure) :: later →
      .published name ∈ earlier.events →
      ∃ (before during after : Journal) (serial : Nat) (typeName : String)
          (index : Option Nat),
        earlier =
          before ++ .called name :: .constructing serial typeName index :: during ++
            [.instantiated name false] ∧
        later = .returned name none :: after ∧
        during.pending? [] = some [] ∧
        .published name ∉ before.events ∧
        .published name ∈ during.events) := by
  obtain ⟨orderly, _, _⟩ := World.orderly_of_history performed
  have timely := orderly.timely
  refine ⟨?_, ?_, ?_⟩
  · rw [Journal.count_events_published]
    exact List.nodup_iff_count.mp (timely.nodup List.nodup_nil) name
  · intro earlier later event eventsSplit
    obtain ⟨before, after, split, rfl⟩ := Journal.split_events eventsSplit
    rw [split] at timely
    constructor
    · rintro (rfl | rfl)
      · exact Journal.mem_published_iff.mp (timely.permitted rfl)
      · exact Journal.mem_published_iff.mp (timely.permitted rfl)
    · rintro (rfl | ⟨failure, rfl⟩) published
      · exact timely.permitted rfl (Journal.mem_published_iff.mpr published)
      · exact timely.permitted rfl (Journal.mem_published_iff.mpr published)
  · intro earlier later failure split late
    obtain ⟨before, during, after, serial, typeName, index, isEarlier, isLater,
      complete, unpublished, published⟩ :=
      orderly.failsLate split (Journal.mem_published_iff.mpr late)
    refine ⟨before, during, after, serial, typeName, index, isEarlier, isLater,
      complete, ?_, Journal.mem_published_iff.mp published⟩
    exact fun member => unpublished (Journal.mem_published_iff.mpr member)

/--
The construction of `hasty` that fails has begun before the one that is published.
-/
theorem bustle_events_in_order :
    ∃ answers world,
      Operation.performAll (Calls.nested (.withFaults .ofTable) 3) bustle
          (World.create .default) =
        some (answers, world) ∧
      world.journal.events.count (.published "hasty") ≤ 1 ∧
      ∃ before during after : Journal, ∃ serial typeName index,
        world.journal =
          before ++
            .called "hasty" :: .constructing serial typeName index :: during ++
            [.instantiated "hasty" false,
              .emitted
                (.constructionFailed "hasty" (.failed "Hasty" (.single "too late"))),
              .returned "hasty" none] ++ after ∧
        .published "hasty" ∈ during.events := by
  have told :
      ((Operation.performAll (Calls.nested (.withFaults .ofTable) 3) bustle
          (World.create .default)).map fun result => result.2.journal.events) =
        some
          ([.creating true, .binding "inner" "Inner", .binding "outer" "Outer",
              .binding "hasty" "Hasty", .binding "idea" "Idea",
              .published "inner", .cacheHit "inner",
              .published "outer", .duplicateDiscarded "outer",
              .published "hasty"] ++
            .constructionFailed "hasty" (.failed "Hasty" (.single "too late")) ::
            [.constructionFailed "idea" (.abstract "Idea"),
              .lookupFailed "lost" ⟨"lost", "gone"⟩, .unbound "missing",
              .cacheHit "hasty"]) := by
    decide +kernel
  obtain ⟨⟨answers, world⟩, performed, reports⟩ := Option.map_eq_some_iff.mp told
  obtain ⟨once, _, overtaken⟩ :=
    events_in_order (.withFaults .ofTable) .default 3 bustle performed "hasty"
  obtain ⟨earlier, later, split, isEarlier⟩ := Journal.split_events reports
  obtain ⟨before, during, after, serial, typeName, index, rfl, rfl, _, _,
      published⟩ :=
    overtaken earlier later _ split (by rw [isEarlier]; decide)
  refine ⟨answers, world, performed, once, before, during, after, serial, typeName,
    index, ?_, published⟩
  rw [split]
  simp

end Dispatch
