import Dispatch.Proofs.LocatorDispatch
import Dispatch.Proofs.LocatorEquality

namespace Dispatch

/-!
# Names that locators reach

A registry tells the case of names apart and takes any text for a name, the empty
one excepted.  Locators put their schemes in small letters and admit few other
characters.  So a locator reaches just the names of that form, whatever case it is
written in, and what is bound or cached under any other name is out of its reach.

What resolving a locator does itself is told apart from what constructors and
handlers do in its midst.  `Script.asks` lists the former; `Run.Through` says that
it goes on in the same way when other names are forgotten, provided that the
latter does.
-/

/-- The small ASCII letters. -/
def IsSmallLetter
    (character : Char) : Prop :=
  'a' ≤ character ∧ character ≤ 'z'

/-- A small letter, followed by small letters, digits and three marks. -/
def IsDispatchName
    (name : String) : Prop :=
  ∃ first rest,
    name.toList = first :: rest ∧
      IsSmallLetter first ∧
      ∀ character ∈ rest,
        IsSmallLetter character ∨ IsDigit character ∨
          character = '+' ∨ character = '-' ∨ character = '.'

/--
A character that occurs in no such name: a capital letter, a colon, a space, or no
ASCII.
-/
def IsForeign
    (character : Char) : Prop :=
  ('A' ≤ character ∧ character ≤ 'Z') ∨ character = ':' ∨ character = ' ' ∨
    0x80 ≤ character.toNat

/-! ## Names in small letters -/

/-- A letter is small exactly if it is its own small letter. -/
theorem isSmallLetter_iff
    {character : Char} :
    IsSmallLetter character ↔
      IsLetter character ∧ smallLetter character = character := by
  constructor
  · intro isSmall
    have notCapital : ¬('A' ≤ character ∧ character ≤ 'Z') := fun isCapital =>
      absurd (Char.le_trans isSmall.1 isCapital.2) (by decide)
    exact ⟨.inl isSmall, if_neg notCapital⟩
  · rintro ⟨isSmall | isCapital, same⟩
    · exact isSmall
    · have notUpper : character.isUpper = false := by
        rw [← same, ← toLower_eq_smallLetter, Char.isUpper_toLower_eq_false]
      simp only [Char.isUpper, decide_eq_false_iff_not] at notUpper
      exact absurd isCapital notUpper

/-- A text is a scheme if it is one in small letters. -/
theorem IsScheme.of_inSmallLetters
    {text : String}
    (isScheme : IsScheme (Dispatch.inSmallLetters text)) :
    IsScheme text := by
  obtain ⟨first, rest, shape, isLetter, follow⟩ := isScheme
  rw [Dispatch.inSmallLetters, String.toList_ofList, List.map_eq_cons_iff] at shape
  obtain ⟨original, others, originalShape, rfl, rfl⟩ := shape
  refine ⟨original, others, originalShape, isLetter_smallLetter_iff.mp isLetter, ?_⟩
  intro character member
  by_cases characterIsLetter : IsLetter character
  · exact .inl characterIsLetter
  · rw [← smallLetter_of_not_isLetter characterIsLetter]
    exact follow _ (List.mem_map_of_mem member)

/-- The names of that form are the schemes in small letters. -/
theorem isDispatchName_iff
    {name : String} :
    IsDispatchName name ↔ IsScheme name ∧ inSmallLetters name = name := by
  have lowered :
      inSmallLetters name = name ↔
        ∀ character ∈ name.toList, smallLetter character = character := by
    rw [inSmallLetters, ← String.toList_inj, String.toList_ofList]
    simpa using List.map_inj_left (l := name.toList) (f := smallLetter) (g := id)
  rw [lowered]
  constructor
  · rintro ⟨first, rest, shape, isSmall, follow⟩
    rw [isSmallLetter_iff] at isSmall
    refine ⟨⟨first, rest, shape, isSmall.1, ?_⟩, ?_⟩
    · exact fun character member =>
        (follow character member).imp_left fun isSmall =>
          (isSmallLetter_iff.mp isSmall).1
    · rw [shape, List.forall_mem_cons]
      refine ⟨isSmall.2, fun character member => ?_⟩
      rcases follow character member with isSmall | other
      · exact (isSmallLetter_iff.mp isSmall).2
      · rcases other with isDigit | rfl | rfl | rfl
        · exact smallLetter_of_isDigit isDigit
        all_goals rfl
  · rintro ⟨⟨first, rest, shape, isLetter, follow⟩, same⟩
    rw [shape, List.forall_mem_cons] at same
    refine ⟨first, rest, shape, isSmallLetter_iff.mpr ⟨isLetter, same.1⟩, ?_⟩
    exact fun character member =>
      (follow character member).imp_left fun isLetter =>
        isSmallLetter_iff.mpr ⟨isLetter, same.2 character member⟩

/-- Whether a name has that form is decided by reading it. -/
instance : DecidablePred IsDispatchName := fun name =>
  decidable_of_iff (isSchemeName name.toList = true ∧ inSmallLetters name = name)
    (by rw [isDispatchName_iff, isSchemeName_iff])

/-- What occurs in such a name is not foreign to it. -/
theorem not_isForeign
    {character : Char}
    (isPart :
      IsSmallLetter character ∨ IsDigit character ∨
        character = '+' ∨ character = '-' ∨ character = '.') :
    ¬IsForeign character := by
  have isNumber (other : Char) : character = other ↔ character.toNat = other.toNat :=
    Char.toNat_inj.symm
  simp only [IsSmallLetter, IsDigit, IsForeign, Char.le_def, UInt32.le_iff_toNat_le,
    isNumber] at isPart ⊢
  change (97 ≤ character.toNat ∧ character.toNat ≤ 122) ∨
    (48 ≤ character.toNat ∧ character.toNat ≤ 57) ∨
      character.toNat = 43 ∨ character.toNat = 45 ∨ character.toNat = 46 at isPart
  change ¬((65 ≤ character.toNat ∧ character.toNat ≤ 90) ∨
    character.toNat = 58 ∨ character.toNat = 32 ∨ 128 ≤ character.toNat)
  omega

/-- The empty name, and names with foreign characters, do not have that form. -/
theorem not_isDispatchName
    {name : String}
    (foreign : name = "" ∨ ∃ character ∈ name.toList, IsForeign character) :
    ¬IsDispatchName name := by
  rintro ⟨first, rest, shape, isSmall, follow⟩
  rcases foreign with rfl | ⟨character, member, isForeign⟩
  · cases shape
  · rw [shape] at member
    rcases List.mem_cons.mp member with rfl | member
    · exact not_isForeign (.inl isSmall) isForeign
    · exact not_isForeign (follow character member) isForeign

/-- Locators name their schemes in that form. -/
theorem Locator.isDispatchName_of_parse
    {text : String}
    {locator : Locator}
    (isRead : parse text = .ok locator)
    {name : String}
    (scheme : locator.scheme = some name) :
    IsDispatchName name := by
  rcases of_parse isRead with ⟨original, body, divides, rfl⟩ | ⟨-, rfl⟩
  · cases scheme
    exact isDispatchName_iff.mpr
      ⟨divides.isScheme.inSmallLetters, inSmallLetters_inSmallLetters original⟩
  · cases scheme

/--
Whatever the case of its letters, such a name before a colon is read as a scheme.
-/
theorem IsDispatchName.parse
    {name recased : String}
    (isDispatchName : IsDispatchName name)
    (same : inSmallLetters recased = name)
    (body : String) :
    Locator.parse (recased ++ ":" ++ body) = .ok ⟨some name, body⟩ := by
  subst same
  have divides : Divides (recased ++ ":" ++ body) recased body :=
    ⟨rfl, (isDispatchName_iff.mp isDispatchName).1.of_inSmallLetters⟩
  exact divides.parse

/-! ## What a script asks for -/

/-- What a script asks for from outside itself. -/
inductive Ask
  | resolve (name : String) (strict : Bool)
  | call (handle : Handle) (request : Request)

/--
What a script asks for in its run, in order.  What constructors and handlers ask
for in the midst of it is not listed.
-/
def Script.asks
    (calls : Calls) :
    {role : Role} → Script role → World → List Ask
  | _, .build _, _ =>
      []
  | _, .answer _, _ =>
      []
  | _, .fail _, _ =>
      []
  | _, .resolve name strict next, world =>
      .resolve name strict ::
        match calls.resolve name strict world with
        | some (resolution, after) => (next resolution).asks calls after
        | none => []
  | _, .call handle request next, world =>
      .call handle request ::
        match calls.serve handle.instanceId request world with
        | some (outcome, after) => (next outcome).asks calls after
        | none => []
  | _, .readSettings next, world =>
      (next world.registry.settings).asks calls world
  | _, .register name descriptor next, world =>
      let (previous, after) := world.register name descriptor
      (next (previous.map Binding.summary)).asks calls after
  | _, .unregister name next, world =>
      let (removed, after) := world.unregister name
      (next (removed.map Binding.summary)).asks calls after
  | _, .note remark next, world =>
      next.asks calls (world.record (.noted remark))

/--
Sequences are the same where their second parts are, as far as the first part leads.
-/
theorem Run.bind_congr_of_eq
    {α β : Type}
    {run : Run α}
    {next follow : α → Run β}
    {world : World}
    (same :
      ∀ value middle,
        run world = some (value, middle) →
        follow value middle = next value middle) :
    (run >>= follow) world = (run >>= next) world := by
  change (run world).bind _ = (run world).bind _
  cases finished : run world with
  | none => rfl
  | some found => exact same found.1 found.2 finished

/-- Two calls answer an ask in the same way, wherever it is made. -/
def Ask.SameIn
    (calls others : Calls) : Ask → Prop
  | resolve name strict => others.resolve name strict = calls.resolve name strict
  | call handle request =>
      others.serve handle.instanceId request = calls.serve handle.instanceId request

/--
The list is complete: calls that answer the same to all that is on it give the same
run.
-/
theorem Script.run_congr
    {calls others : Calls}
    {role : Role}
    {script : Script role}
    {world : World}
    (same : ∀ ask ∈ script.asks calls world, ask.SameIn calls others) :
    script.run others world = script.run calls world := by
  fun_induction Script.asks calls script world with
  | case1 handler world =>
      rfl
  | case2 value world =>
      rfl
  | case3 role failure world =>
      rfl
  | case4 role name strict next world inductionHypothesis =>
      rw [List.forall_mem_cons] at same
      obtain ⟨sameAnswer, later⟩ := same
      simp only [Ask.SameIn] at sameAnswer
      simp only [run, sameAnswer]
      refine Run.bind_congr_of_eq fun resolution after resolved => ?_
      rw [resolved] at later
      exact inductionHypothesis resolution after later
  | case5 role handle request next world inductionHypothesis =>
      rw [List.forall_mem_cons] at same
      obtain ⟨sameOutcome, later⟩ := same
      simp only [Ask.SameIn] at sameOutcome
      simp only [run, sameOutcome]
      refine Run.bind_congr_of_eq fun outcome after served => ?_
      rw [served] at later
      exact inductionHypothesis outcome after later
  | case6 role next world inductionHypothesis =>
      exact inductionHypothesis same
  | case7 role name descriptor next world previous after registered
      inductionHypothesis =>
      simp only [run, Run.step_bind_apply, registered]
      exact inductionHypothesis same
  | case8 role name next world removed after unregistered inductionHypothesis =>
      simp only [run, Run.step_bind_apply, unregistered]
      exact inductionHypothesis same
  | case9 role remark next world inductionHypothesis =>
      exact inductionHypothesis same

/-- Resolves a locator and ends with what it resolves to. -/
def Script.fetch
    (locator : Locator)
    (base : Option Value) : Script .serve :=
  .get locator base fun answer =>
    match answer with
    | .ok value => .answer value
    | .error error => .fail error.toFailure

/-- This script is what resolving a locator does. -/
theorem Script.run_fetch
    (calls : Calls)
    (locator : Locator)
    (base : Option Value) :
    (fetch locator base).run calls =
      Except.mapError DispatchError.toFailure <$> calls.get locator base := by
  rw [fetch, run_get, map_eq_pure_bind]
  refine bind_congr fun answer => ?_
  cases answer <;> rfl

/--
The handler that answers a locator is asked once, after its scheme was resolved.
-/
theorem Script.asks_fetch
    {locator : Locator}
    {name : String}
    (scheme : locator.scheme = some name)
    (base : Option Value)
    (calls : Calls)
    (world : World) :
    (fetch locator base).asks calls world =
      .resolve name true ::
        match calls.resolve name true world with
        | some (.ok (some handle), _) => [.call handle ⟨locator, base⟩]
        | _ => [] := by
  simp only [fetch, get, scheme, resolveStrict, asks, List.cons.injEq, true_and]
  rcases calls.resolve name true world with _ | ⟨_ | _ | handle, after⟩
  · rfl
  · rfl
  · rfl
  · simp only [Resolution.required, asks, List.cons.injEq, true_and]
    rcases calls.serve handle.instanceId ⟨locator, base⟩ after with _ | ⟨_ | _, _⟩
    · rfl
    · simp only [Except.mapError, asks]
    · simp only [Except.mapError, asks]

/-- Nothing is asked for about a relative locator. -/
theorem Script.asks_fetch_of_relative
    {locator : Locator}
    (isRelative : locator.scheme = none)
    (base : Option Value)
    (calls : Calls)
    (world : World) :
    (fetch locator base).asks calls world = [] := by
  simp only [fetch, get, isRelative, asks]

/-! ## What is out of sight -/

namespace Association

variable
  {α : Type}
  {seen : String → Bool}

theorem find?_filter
    (seen : String → Bool)
    (name : String)
    (entries : Association α) :
    find? name (entries.filter fun entry => seen entry.1) =
      if seen name then find? name entries else none := by
  induction entries with
  | nil =>
      simp
  | cons entry rest inductionHypothesis =>
      obtain ⟨key, value⟩ := entry
      rw [List.filter_cons, find?_cons]
      split <;> simp only [find?_cons, inductionHypothesis] <;> grind

theorem filter_set
    {name : String}
    (inSight : seen name = true)
    (value : α)
    (entries : Association α) :
    (set name value entries).filter (fun entry => seen entry.1) =
      set name value (entries.filter fun entry => seen entry.1) := by
  induction entries with
  | nil =>
      simp [set, inSight]
  | cons entry rest inductionHypothesis =>
      obtain ⟨key, current⟩ := entry
      by_cases isName : key = name
      · subst isName
        simp [set, inSight]
      · by_cases isSeen : seen key = true <;>
          simp [set, isName, isSeen, inductionHypothesis]

end Association

namespace Table

variable {α : Type}

/-- The part of a table that is about certain names. -/
def restrict
    (table : Table α)
    (seen : String → Bool) : Table α :=
  ⟨table.entries.filter fun entry => seen entry.1,
    table.distinct.sublist (List.filter_sublist.map _)⟩

theorem find?_restrict
    (table : Table α)
    (seen : String → Bool)
    (name : String) :
    (table.restrict seen).find? name =
        if seen name then table.find? name else none :=
  Association.find?_filter seen name table.entries

/-- What is set under a name in sight is set in the part in sight. -/
theorem restrict_set
    (table : Table α)
    {seen : String → Bool}
    {name : String}
    (inSight : seen name = true)
    (value : α) :
    (table.set name value).restrict seen = (table.restrict seen).set name value := by
  simp only [restrict, set, Association.filter_set inSight]

end Table

/-- The world with just those handles published that are so under certain names. -/
def World.veiled
    (seen : String → Bool)
    (world : World) : World :=
  { world with
    registry := { world.registry with cache := world.registry.cache.restrict seen } }

section

variable {seen : String → Bool}

/-- A run goes as another one does, to which not all that is published is shown. -/
def Run.Through
    {α : Type}
    (seen : String → Bool)
    (first second : Run α) : Prop :=
  ∀ world,
    second (world.veiled seen) = (first world).map (Prod.map id (World.veiled seen))

/-- Calls that go as others do, to which not all that is published is shown. -/
structure Calls.Through
    (seen : String → Bool)
    (calls others : Calls) : Prop where
  resolve :
    ∀ name strict,
      (calls.resolve name strict).Through seen (others.resolve name strict)
  serve :
    ∀ instanceId request,
      (calls.serve instanceId request).Through seen (others.serve instanceId request)

namespace Run.Through

variable {α β : Type}

theorem pure
    (answer : α) :
    (Pure.pure answer : Run α).Through seen (Pure.pure answer) :=
  fun _ => rfl

theorem tooDeep :
    (Run.tooDeep : Run α).Through seen Run.tooDeep :=
  fun _ => rfl

/-- A step may do as it does behind the veil. -/
theorem ofStep
    {change : World → α × World}
    (same :
      ∀ world : World,
        change (world.veiled seen) =
          Prod.map id (World.veiled seen) (change world)) :
    (step change).Through seen (step change) :=
  fun world => congrArg some (same world)

theorem record
    (entry : Entry) :
    (Run.record entry).Through seen (Run.record entry) :=
  ofStep fun _ => rfl

theorem bind
    {first second : Run α}
    {next follow : α → Run β}
    (begin : first.Through seen second)
    (goesOn : ∀ value, (next value).Through seen (follow value)) :
    (first >>= next).Through seen (second >>= follow) := by
  intro world
  change (second (world.veiled seen)).bind _ = Option.map _ ((first world).bind _)
  rw [begin world]
  rcases first world with _ | ⟨value, middle⟩
  · rfl
  · exact goesOn value middle

/-- What is read of the world is read through the veil. -/
theorem world
    {next follow : World → Run α}
    (goesOn :
      ∀ world : World, (next world).Through seen (follow (world.veiled seen))) :
    (Run.world >>= next).Through seen (Run.world >>= follow) :=
  fun world => goesOn world world

end Run.Through

namespace Calls.Through

variable
  {calls others : Calls}
  {resolver other : Resolver}
  {name : String}

/-- Scripts do not look at what is published. -/
theorem script
    (through : calls.Through seen others)
    {role : Role}
    (script : Script role) :
    (script.run calls).Through seen (script.run others) := by
  fun_induction Script.run calls script with
  | case1 handler =>
      exact .pure _
  | case2 value =>
      exact .pure _
  | case3 role failure =>
      exact .pure _
  | case4 role name strict next inductionHypothesis =>
      exact (through.resolve name strict).bind inductionHypothesis
  | case5 role handle request next inductionHypothesis =>
      exact (through.serve handle.instanceId request).bind inductionHypothesis
  | case6 role next inductionHypothesis =>
      exact .world fun world => inductionHypothesis world
  | case7 role name descriptor next inductionHypothesis =>
      exact .bind (.ofStep fun _ => rfl) inductionHypothesis
  | case8 role name next inductionHypothesis =>
      exact .bind (.ofStep fun _ => rfl) inductionHypothesis
  | case9 role remark next inductionHypothesis =>
      exact .bind (.record _) fun _ => inductionHypothesis

/-- Constructors do not look at what is published. -/
theorem instantiate
    (through : calls.Through seen others)
    (binding : Binding) :
    (binding.instantiate calls).Through seen (binding.instantiate others) := by
  unfold Binding.instantiate
  cases binding.descriptor with
  | abstract typeName =>
      exact .pure _
  | plain typeName handler =>
      exact .bind (.record _) fun _ => .pure _
  | factory typeName make =>
      exact .world fun world =>
        .bind (.record _) fun _ => .bind (through.script _) fun _ => .pure _

/-- Handlers do not look at what is published. -/
theorem serveWith
    (through : calls.Through seen others)
    (instanceId : Nat)
    (request : Request) :
    (Dispatch.serveWith calls instanceId request).Through seen
      (Dispatch.serveWith others instanceId request) := by
  refine .world fun world => ?_
  have sameHandlers : (world.veiled seen).handlers = world.handlers := rfl
  simp only [sameHandlers]
  cases world.handlers[instanceId]? with
  | none =>
      exact .pure _
  | some handler =>
      exact .bind (.record _) fun _ =>
        .bind (through.script _) fun _ => .bind (.record _) fun _ => .pure _

/-- Of the resolver, a construction only hears what is bound to the name. -/
theorem construct
    (through : calls.Through seen others)
    (same : ∀ directory, other directory name = resolver directory name) :
    (Dispatch.construct resolver calls name).Through seen
      (Dispatch.construct other others name) := by
  have sameLookUp : lookUp other name = lookUp resolver name := by
    simp only [lookUp, same]
  have heard : (lookUp resolver name).Through seen (lookUp resolver name) := by
    refine .ofStep fun world => ?_
    change (world.veiled seen).hear name (resolver world.directory name) = _
    cases resolver world.directory name <;> rfl
  unfold Dispatch.construct
  rw [sameLookUp]
  cases name.isEmpty with
  | true =>
      exact .pure _
  | false =>
      refine .bind heard fun binding => ?_
      cases binding with
      | none =>
          exact .pure _
      | some binding =>
          refine .bind (through.instantiate binding) fun outcome =>
            .ofStep fun world => ?_
          cases outcome <;> rfl

/-- Of what is published, a resolve call only looks at what is so under the name. -/
theorem resolveWith
    (through : calls.Through seen others)
    (same : ∀ directory, other directory name = resolver directory name)
    (inSight : seen name = true)
    (strict : Bool) :
    (Dispatch.resolveWith resolver calls name strict).Through seen
      (Dispatch.resolveWith other others name strict) := by
  have shown (world : World) :
      (world.veiled seen).registry.cache.find? name =
          world.registry.cache.find? name :=
    (world.registry.cache.find?_restrict seen name).trans (if_pos inSight)
  have checked (world : World) :
      (world.veiled seen).checkCache name =
        Prod.map id (World.veiled seen) (world.checkCache name) := by
    simp only [World.checkCache, shown]
    cases world.registry.cache.find? name <;> rfl
  have published (instanceId : Nat) (world : World) :
      (world.veiled seen).publish name instanceId =
        Prod.map id (World.veiled seen) (world.publish name instanceId) := by
    simp only [World.publish, shown]
    cases world.registry.cache.find? name with
    | some existing =>
        rfl
    | none =>
        simp only [World.veiled, World.insert, World.emit, World.record,
          Prod.map_apply, id_eq, Table.restrict_set _ inSight]
  refine .bind (.record _) fun _ => .bind ?_ fun handle =>
    .bind (.record _) fun _ => .pure _
  refine .bind (.ofStep checked) fun hit => ?_
  cases hit with
  | some handle =>
      exact .pure _
  | none =>
      refine .bind (through.construct same) fun built => ?_
      cases built with
      | none =>
          exact .pure _
      | some instanceId =>
          exact .bind (.ofStep (published instanceId)) fun _ => .pure _

/-- Resolving a locator depends on its scheme and on the calls alone. -/
theorem get
    (serve :
      ∀ instanceId request,
        (calls.serve instanceId request).Through seen
          (others.serve instanceId request))
    {locator : Locator}
    (resolve :
      ∀ name,
        locator.scheme = some name →
        (calls.resolve name true).Through seen (others.resolve name true))
    (base : Option Value) :
    (calls.get locator base).Through seen (others.get locator base) := by
  unfold Calls.get Calls.resolveStrict
  cases scheme : locator.scheme with
  | none =>
      exact .pure _
  | some name =>
      refine .bind (.bind (resolve name scheme) fun _ => .pure _) fun answer => ?_
      cases answer with
      | error error =>
          exact .pure _
      | ok handle =>
          exact .bind (serve _ _) fun _ => .pure _

end Calls.Through

end

/-! ## Both ways -/

section

variable
  {resolver : Resolver}
  {inner : Calls}
  {name : String}
  {world : World}

/--
Calls over a resolver around those that constructors and handlers make in their
midst.
-/
def Calls.around
    (resolver : Resolver)
    (inner : Calls) : Calls where
  resolve := resolveWith resolver inner
  serve := serveWith inner

/-- Calls that nest deeper are around those that nest less deep. -/
theorem Calls.nested_succ
    (resolver : Resolver)
    (depth : Nat) :
    nested resolver (depth + 1) = around resolver (nested resolver depth) :=
  rfl

/-- A handle that is answered for a name is then published under it. -/
theorem Calls.cached_of_around_resolve
    {strict : Bool}
    {handle : Handle}
    {after : World}
    (resolved :
      (around resolver inner).resolve name strict world =
        some (.ok (some handle), after)) :
    after.registry.cache.find? name = some handle := by
  obtain ⟨obtained, ended, way, answer, rfl⟩ := resolveWith_eq_some_iff.mp resolved
  cases obtained with
  | none =>
      cases strict <;> cases answer
  | some obtained =>
      cases answer
      exact way.holds

/-- A published name is reached, whatever characters it has. -/
theorem Calls.around_resolve_of_cached
    {handle : Handle}
    (found : world.registry.cache.find? name = some handle)
    (strict : Bool) :
    ∃ after,
        (around resolver inner).resolve name strict world =
          some (.ok (some handle), after) :=
  ⟨_, resolveWith_eq_some_iff.mpr ⟨some handle, _, .cached found, rfl, rfl⟩⟩

/-- So is a bound one, and what is bound to it is built. -/
theorem Calls.around_resolve_of_bound
    {binding : Binding}
    {handler : Handler}
    {built : World}
    (named : name ≠ "")
    (missed : world.registry.cache.find? name = none)
    (bound : resolver world.directory name = .bound binding)
    (construction :
      inner.builds binding ((world.record (.called name)).ask name)
        (.ok handler) built)
    (unpublished : built.registry.cache.find? name = none)
    (strict : Bool) :
    ∃ after,
      (around resolver inner).resolve name strict world =
          some (.ok (some ⟨name, built.handlers.length⟩), after) ∧
        after.handlers[built.handlers.length]? = some handler ∧
        after.registry.cache.find? name = some ⟨name, built.handlers.length⟩ := by
  have resolved :
      Resolved resolver inner.builds name (world.record (.called name))
        (some ⟨name, built.handlers.length⟩) _ :=
    .published missed named bound construction unpublished
  refine ⟨_, resolveWith_eq_some_iff.mpr ⟨_, _, resolved, rfl, rfl⟩, ?_,
    resolved.holds⟩
  change (built.handlers ++ [handler])[built.handlers.length]? = some handler
  simp

/-- Resolving a locator itself asks for its scheme alone, as a strict caller. -/
theorem Script.of_resolve_mem_asks_fetch
    {calls : Calls}
    {locator : Locator}
    {base : Option Value}
    {strict : Bool}
    (asked : .resolve name strict ∈ (fetch locator base).asks calls world) :
    locator.scheme = some name ∧ strict = true := by
  cases scheme : locator.scheme with
  | none =>
      rw [asks_fetch_of_relative scheme] at asked
      cases asked
  | some other =>
      rw [asks_fetch scheme, List.mem_cons] at asked
      rcases asked with asked | asked
      · cases asked
        exact ⟨rfl, rfl⟩
      · split at asked
        · cases List.mem_singleton.mp asked
        · cases asked

/--
It calls the handler of the scheme alone, with the locator and the base as they are.
-/
theorem Script.of_call_mem_asks_fetch
    {calls : Calls}
    {locator : Locator}
    {base : Option Value}
    {handle : Handle}
    {request : Request}
    (asked : .call handle request ∈ (fetch locator base).asks calls world) :
    request = ⟨locator, base⟩ ∧
      ∃ name middle,
        locator.scheme = some name ∧
          calls.resolve name true world = some (.ok (some handle), middle) := by
  cases scheme : locator.scheme with
  | none =>
      rw [asks_fetch_of_relative scheme] at asked
      cases asked
  | some name =>
      rw [asks_fetch scheme, List.mem_cons] at asked
      rcases asked with asked | asked
      · cases asked
      · split at asked
        · rename_i resolved
          cases List.mem_singleton.mp asked
          exact ⟨rfl, name, _, rfl, resolved⟩
        · cases asked

/--
The names that locators reach.  Take any text that is read as a locator, and any
base.  Whatever calls it is resolved over, and in whatever world, all that depends
on them is what is asked for; these are names of the said form alone, and requests
to nobody but the handler that was answered for such a name, which is then
published under it and, in a sound world, bears it.  So all goes in the same way
over a resolver that agrees on names of that form, and with what is published under
other names taken out of sight, if the calls that constructors and handlers make in
its midst go in the same way too.
The empty name, and names with a capital letter, a colon, a space or a character
beyond ASCII, do not have that form, but each of them except the empty one is
reached by resolving it: what is published under it is answered, and else what is
bound to it is built and published.

Take, on the other hand, a name of that form.  In whatever case its letters are
written, followed by a colon and any body it is read as the locator with that name
and that body.  Resolving this locator asks for exactly that name, and then calls
the handler answered for it, if there is one, which is given this locator.
-/
theorem names_in_reach
    (resolver : Resolver)
    (inner : Calls)
    (base : Option Value) :
    (∀ text locator,
      Locator.parse text = .ok locator →
      (∀ calls : Calls,
        (Script.fetch locator base).run calls =
          Except.mapError DispatchError.toFailure <$> calls.get locator base) ∧
      (∀ (calls others : Calls) (world : World),
        (∀ ask ∈ (Script.fetch locator base).asks calls world,
          ask.SameIn calls others) →
        (Script.fetch locator base).run others world =
          (Script.fetch locator base).run calls world) ∧
      (∀ calls world name strict,
        .resolve name strict ∈ (Script.fetch locator base).asks calls world →
        IsDispatchName name) ∧
      (∀ world handle request,
        .call handle request ∈
          (Script.fetch locator base).asks (Calls.around resolver inner) world →
        request = ⟨locator, base⟩ ∧
          ∃ name middle,
            IsDispatchName name ∧
              (Calls.around resolver inner).resolve name true world =
                some (.ok (some handle), middle) ∧
              middle.registry.cache.find? name = some handle) ∧
      (∀ depth (world : World) handle request,
        world.Sound →
        .call handle request ∈
          (Script.fetch locator base).asks (Calls.nested resolver depth) world →
        IsDispatchName handle.schemeName) ∧
      ∀ other others,
        (∀ directory name,
          IsDispatchName name → other directory name = resolver directory name) →
        inner.Through (fun name => decide (IsDispatchName name)) others →
        ((Calls.around resolver inner).get locator base).Through
          (fun name => decide (IsDispatchName name))
          ((Calls.around other others).get locator base)) ∧
    (∀ name,
      (name = "" ∨ ∃ character ∈ name.toList, IsForeign character) →
      ¬IsDispatchName name) ∧
    (∀ name strict (world : World),
      name ≠ "" →
      (∀ handle,
        world.registry.cache.find? name = some handle →
        ∃ after,
          (Calls.around resolver inner).resolve name strict world =
            some (.ok (some handle), after)) ∧
      ∀ binding handler built,
        world.registry.cache.find? name = none →
        resolver world.directory name = .bound binding →
        inner.builds binding ((world.record (.called name)).ask name)
          (.ok handler) built →
        built.registry.cache.find? name = none →
        ∃ after,
          (Calls.around resolver inner).resolve name strict world =
              some (.ok (some ⟨name, built.handlers.length⟩), after) ∧
            after.handlers[built.handlers.length]? = some handler ∧
            after.registry.cache.find? name = some ⟨name, built.handlers.length⟩) ∧
    ∀ name recased body,
      IsDispatchName name →
      inSmallLetters recased = name →
      Locator.parse (recased ++ ":" ++ body) = .ok ⟨some name, body⟩ ∧
        ∀ (calls : Calls) world,
          (Script.fetch ⟨some name, body⟩ base).asks calls world =
            .resolve name true ::
              match calls.resolve name true world with
              | some (.ok (some handle), _) =>
                  [.call handle ⟨⟨some name, body⟩, base⟩]
              | _ => [] := by
  refine ⟨?_, fun _ => not_isDispatchName, ?_, ?_⟩
  · intro text locator isRead
    have isDispatchName {name : String} (scheme : locator.scheme = some name) :
        IsDispatchName name :=
      Locator.isDispatchName_of_parse isRead scheme
    refine ⟨fun calls => Script.run_fetch calls locator base,
      fun _ _ _ => Script.run_congr, ?_, ?_, ?_, ?_⟩
    · intro calls world name strict asked
      exact isDispatchName (Script.of_resolve_mem_asks_fetch asked).1
    · intro world handle request asked
      obtain ⟨same, name, middle, scheme, resolved⟩ :=
        Script.of_call_mem_asks_fetch asked
      exact ⟨same, name, middle, isDispatchName scheme, resolved,
        Calls.cached_of_around_resolve resolved⟩
    · intro depth world handle request sound asked
      obtain ⟨-, name, middle, scheme, resolved⟩ :=
        Script.of_call_mem_asks_fetch asked
      cases depth with
      | zero =>
          cases resolved
      | succ depth =>
          have stable := World.Sound.stable
          have middleSound : middle.Sound :=
            (stable.nested resolver (depth + 1)).resolve name true resolved sound
          rw [Calls.nested_succ] at resolved
          rw [middleSound.titled (Calls.cached_of_around_resolve resolved)]
          exact isDispatchName scheme
    · intro other others same through
      refine Calls.Through.get (through.serveWith · ·) (fun name scheme => ?_) base
      have isKnown := isDispatchName scheme
      exact through.resolveWith (fun directory => same directory name isKnown)
        (decide_eq_true isKnown) true
  · exact fun name strict world named =>
      ⟨fun handle found => Calls.around_resolve_of_cached found strict,
        fun binding handler built missed bound construction unpublished =>
          Calls.around_resolve_of_bound named missed bound construction
            unpublished strict⟩
  · exact fun name recased body isDispatchName same =>
      ⟨isDispatchName.parse same body,
        fun calls world => Script.asks_fetch rfl base calls world⟩

/-- What is bound to names of other forms is left out. -/
def Resolver.ofDispatchNames : Resolver :=
  fun directory name =>
    if IsDispatchName name then
      Resolver.ofTable directory name
    else
      .unbound

/-- Two types are bound, to a name in small letters and to the same in capitals. -/
def World.twoCases : World :=
  (((World.create .default).register "mem"
    (.plain "Small" .disposable)).2.register "MEM"
    (.plain "Capital" .disposable)).2

/-- Both names are resolved, but a locator reaches the one in small letters only. -/
theorem twoCases_in_reach :
    ∃ (world after : World) (locator : Locator),
      (Calls.nested .ofTable 1).resolve "MEM" true .twoCases =
        some (.ok (some ⟨"MEM", 0⟩), world) ∧
      (Calls.nested .ofTable 1).resolve "MEM" false world =
        some (.ok (some ⟨"MEM", 0⟩), after) ∧
      ¬IsDispatchName "MEM" ∧
      Locator.parse "Mem:Key" = .ok locator ∧
      (Script.fetch locator none).asks (Calls.nested .ofTable 1) .twoCases =
        [.resolve "mem" true, .call ⟨"mem", 0⟩ ⟨locator, none⟩] ∧
      IsDispatchName "mem" ∧
      (∃ name middle,
        IsDispatchName name ∧
          (Calls.nested .ofTable 1).resolve name true .twoCases =
            some (.ok (some ⟨"mem", 0⟩), middle)) ∧
      ((Calls.nested .ofDispatchNames 1).get locator none
          (World.twoCases.veiled fun name =>
            decide (IsDispatchName name))).map Prod.fst =
        some (.ok (.string "Key")) := by
  obtain ⟨forward, foreign, resolves, converse⟩ :=
    names_in_reach .ofTable (Calls.nested .ofTable 0) none
  -- What is bound to the name in capitals is built and stays published.
  obtain ⟨-, reached⟩ := resolves "MEM" true .twoCases (by decide)
  obtain ⟨world, resolved, -, published⟩ :=
    reached ⟨1, .plain "Capital" .disposable⟩ .disposable _ rfl rfl rfl rfl
  obtain ⟨again, -⟩ := resolves "MEM" false world (by decide)
  obtain ⟨after, resolvedAgain⟩ := again _ published
  -- A locator with this name in any case goes past it.
  obtain ⟨isRead, asks⟩ := converse "mem" "Mem" "Key" (by decide) (by decide)
  obtain ⟨-, -, -, onlyItsHandler, bearsName, through⟩ := forward _ _ isRead
  have asked :
      (Script.fetch ⟨some "mem", "Key"⟩ none).asks
        (Calls.nested .ofTable 1) .twoCases =
        [.resolve "mem" true, .call ⟨"mem", 0⟩ ⟨⟨some "mem", "Key"⟩, none⟩] :=
    asks (Calls.nested .ofTable 1) .twoCases
  have called :
      .call ⟨"mem", 0⟩ ⟨⟨some "mem", "Key"⟩, none⟩ ∈
        (Script.fetch ⟨some "mem", "Key"⟩ none).asks (Calls.nested .ofTable 1)
            .twoCases := by
    rw [asked]
    exact List.mem_cons_of_mem _ List.mem_cons_self
  obtain ⟨-, name, middle, isDispatchName, answered, -⟩ :=
    onlyItsHandler .twoCases _ _ called
  have history :
      Operation.performAll (Calls.nested .ofTable 1)
          [.register "mem" (.plain "Small" .disposable),
            .register "MEM" (.plain "Capital" .disposable)]
          (World.create .default) =
        some (_, .twoCases) := rfl
  -- So it does where the name in capitals is not bound at all.
  have hidden :=
    through .ofDispatchNames (Calls.nested .ofDispatchNames 0)
      (fun directory name isDispatchName => if_pos isDispatchName)
      ⟨fun _ _ => .tooDeep, fun _ _ => .tooDeep⟩ .twoCases
  refine ⟨world, after, _, resolved, resolvedAgain,
    foreign "MEM" (.inr ⟨'M', by decide, .inl (by decide)⟩), isRead, asked,
    bearsName 1 .twoCases _ _ (sound_of_history history) called,
    ⟨name, middle, isDispatchName, answered⟩, ?_⟩
  rw [Calls.nested_succ, hidden]
  rfl

end

end Dispatch
