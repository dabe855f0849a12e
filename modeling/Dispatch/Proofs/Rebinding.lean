import Dispatch.Handler.Stock
import Dispatch.Proofs.Bookkeeping
import Mathlib.Data.List.Induction

namespace Dispatch

/-!
# The ledger of bindings

What a type table holds and whatever it has handed back follows from its ledger, for
each name from its own exchanges.  As a history determines its ledger, this says what
the table holds after any history of binding and unbinding, by users and by
constructors in the midst of a resolve call.
-/

/--
Two directories bind the same descriptor to each name, whenever these were
registered.
-/
def Directory.Alike
    (directory other : Directory) : Prop :=
  ∀ name,
    (directory.table.find? name).map Binding.descriptor =
      (other.table.find? name).map Binding.descriptor

/-! ## Reading a ledger -/

namespace Ledger

/-- The exchanges about a name. -/
def about
    (name : String)
    (ledger : Ledger) : Ledger :=
  ledger.filter fun exchange => exchange.name = name

/-- What a name holds: what the last exchange about it has given. -/
def held
    (name : String)
    (ledger : Ledger) : Option Binding :=
  (ledger.about name).getLast?.bind Exchange.given

/-- All that was ever given, in order. -/
def given
    (ledger : Ledger) : List Binding :=
  ledger.filterMap Exchange.given

/-- All that was ever handed back, in order. -/
def returned
    (ledger : Ledger) : List Binding :=
  ledger.filterMap Exchange.returned

/-- The descriptors that were given, exchange by exchange. -/
def asked
    (ledger : Ledger) : List (Option Descriptor) :=
  ledger.map fun exchange => exchange.given.map Binding.descriptor

/-- The descriptors that were handed back, exchange by exchange. -/
def answered
    (ledger : Ledger) : List (Option Descriptor) :=
  ledger.map fun exchange => exchange.returned.map Binding.descriptor

/-- Every exchange hands back what its name held before. -/
def Balanced
    (ledger : Ledger) : Prop :=
  ∀ earlier exchange later,
    ledger = earlier ++ exchange :: later →
    exchange.returned = held exchange.name earlier

variable
  {ledger other : Ledger}
  {name : String}
  {last : Exchange}

theorem about_concat
    (ledger : Ledger)
    (last : Exchange)
    (name : String) :
    about name (ledger ++ [last]) =
      if last.name = name then
        about name ledger ++ [last]
      else
        about name ledger := by
  by_cases isName : last.name = name <;> simp [about, List.filter_append, isName]

/-- An exchange decides what its name holds, and nothing else. -/
theorem held_concat
    (ledger : Ledger)
    (last : Exchange)
    (name : String) :
    held name (ledger ++ [last]) =
      if last.name = name then last.given else held name ledger := by
  rw [held, about_concat]
  split <;> simp [held]

/--
A cut before the end of a ledger is a cut before its last exchange, or within the
rest.
-/
theorem cut_concat
    {exchange : Exchange}
    {earlier later : Ledger}
    (cut : ledger ++ [last] = earlier ++ exchange :: later) :
    (ledger = earlier ∧ last = exchange ∧ later = []) ∨
      ∃ init, ledger = earlier ++ exchange :: init ∧ later = init ++ [last] := by
  rcases List.eq_nil_or_concat later with rfl | ⟨init, final, rfl⟩
  · obtain ⟨isBefore, same⟩ := List.append_inj' cut rfl
    exact .inl ⟨isBefore, (List.cons.inj same).1, rfl⟩
  · rw [List.concat_eq_append, ← List.cons_append, ← List.append_assoc] at cut
    obtain ⟨isBefore, same⟩ := List.append_inj' cut rfl
    cases same
    exact .inr ⟨init, isBefore, List.concat_eq_append⟩

namespace Balanced

protected theorem nil :
    Balanced [] := by
  intro earlier exchange later cut
  simp at cut

/-- A ledger stays balanced by an exchange that hands back what its name holds. -/
theorem concat
    (balanced : Balanced ledger)
    (handsBack : last.returned = held last.name ledger) :
    Balanced (ledger ++ [last]) := by
  intro earlier exchange later cut
  rcases cut_concat cut with ⟨rfl, rfl, _⟩ | ⟨init, isBefore, _⟩
  · exact handsBack
  · exact balanced earlier exchange init isBefore

/-- A ledger that is balanced was so before its last exchange. -/
theorem of_concat
    (balanced : Balanced (ledger ++ [last])) :
    Balanced ledger ∧ last.returned = held last.name ledger := by
  constructor
  · intro earlier exchange later cut
    exact balanced earlier exchange (later ++ [last]) (by simp [cut])
  · exact balanced ledger last [] rfl

/-- For a name the table gives in turn what it took, a step behind. -/
theorem map_returned
    (balanced : Balanced ledger)
    (name : String) :
    (about name ledger).map Exchange.returned =
      (none :: (about name ledger).map Exchange.given).dropLast := by
  induction ledger using List.reverseRecOn with
  | nil =>
      rfl
  | append_singleton ledger last inductionHypothesis =>
      obtain ⟨balancedBefore, handsBack⟩ := balanced.of_concat
      have before := inductionHypothesis balancedBefore
      rw [about_concat]
      split
      · rename_i isName
        subst isName
        rw [List.map_append, List.map_append, ← List.cons_append, List.map_singleton,
          List.map_singleton, List.dropLast_concat, before, handsBack, held]
        rcases List.eq_nil_or_concat (about last.name ledger) with
          none | ⟨init, final, some⟩
        · rw [none]
          rfl
        · rw [some, List.concat_eq_append, List.getLast?_concat, List.map_append,
            ← List.cons_append, List.map_singleton, List.dropLast_concat]
          rfl
      · exact before

/-- What is handed back for a name follows from what was asked for it. -/
theorem answered_eq
    (balanced : Balanced ledger)
    (name : String) :
    answered (about name ledger) = (none :: asked (about name ledger)).dropLast := by
  have mapped :=
    congrArg (List.map (Option.map Binding.descriptor)) (balanced.map_returned name)
  rw [List.map_map, List.map_dropLast, List.map_cons, List.map_map] at mapped
  exact mapped

end Balanced

end Ledger

/-! ## Exchanges on a world -/

namespace World

section

variable
  {start before middle after world : World}
  {ledger first second : Ledger}

/-- An exchange hands back what was bound to the name. -/
theorem exchange_returned
    (world : World)
    (name : String)
    (descriptor : Option Descriptor) :
    (world.exchange name descriptor).1 = world.directory.table.find? name := by
  cases descriptor <;> rfl

/--
After an exchange its name has what was given, and other names have what they had.
-/
theorem find?_exchange
    (world : World)
    (name : String)
    (descriptor : Option Descriptor)
    (other : String) :
    (world.exchange name descriptor).2.directory.table.find? other =
      if other = name then
        world.issued descriptor
      else
        world.directory.table.find? other := by
  cases descriptor with
  | none =>
      exact Table.find?_erase _ _ _
  | some descriptor =>
      exact Table.find?_set _ _ _ _

/-- The number of registrations counts what was given. -/
theorem registrations_exchange
    (world : World)
    (name : String)
    (descriptor : Option Descriptor) :
    (world.exchange name descriptor).2.directory.registrations =
      world.directory.registrations + (world.issued descriptor).toList.length := by
  cases descriptor <;> rfl

/-- An exchange is entered into the journal as what it is. -/
theorem journal_exchange
    (world : World)
    (name : String)
    (descriptor : Option Descriptor) :
    (world.exchange name descriptor).2.journal.filter Entry.isExchange =
      world.journal.filter Entry.isExchange ++
        [Exchange.entry
          ⟨name, world.issued descriptor, (world.exchange name descriptor).1⟩] := by
  cases descriptor with
  | none =>
      change (world.record _).journal.filter _ = _
      rw [journal_record, List.filter_append]
      rfl
  | some descriptor =>
      change ((world.emit _).record _).journal.filter _ = _
      rw [journal_record, journal_emit, List.filter_append, List.filter_append]
      have silent (event : Event) :
          List.filter Entry.isExchange [.emitted event] = [] :=
        rfl
      rw [silent, List.append_nil]
      rfl

namespace Trades

/-- The ledger can be cut anywhere; the parts meet in a world in between. -/
theorem split
    (trades : start.Trades ledger after)
    (earlier later : Ledger)
    (isLedger : ledger = earlier ++ later) :
    ∃ middle, start.Trades earlier middle ∧ middle.Trades later after := by
  induction trades generalizing earlier later with
  | start =>
      obtain ⟨rfl, rfl⟩ := List.append_eq_nil_iff.mp isLedger.symm
      exact ⟨start, .start, .start⟩
  | aside _ leaves inductionHypothesis =>
      obtain ⟨middle, before, after⟩ := inductionHypothesis earlier later isLedger
      exact ⟨middle, before, after.aside leaves⟩
  | exchanged whole name descriptor inductionHypothesis =>
      rcases List.eq_nil_or_concat later with rfl | ⟨init, final, rfl⟩
      · rw [List.append_nil] at isLedger
        exact ⟨_, isLedger ▸ whole.exchanged name descriptor, .start⟩
      · rw [List.concat_eq_append, ← List.append_assoc] at isLedger
        obtain ⟨isBefore, same⟩ := List.append_inj' isLedger rfl
        cases same
        obtain ⟨middle, before, after⟩ := inductionHypothesis earlier init isBefore
        rw [List.concat_eq_append]
        exact ⟨middle, before, after.exchanged name descriptor⟩

end Trades

/-! ## What the ledger tells -/

namespace Trades

/-- From an empty type table on, every name has what the ledger says it holds. -/
theorem find?_eq
    (trades : start.Trades ledger world)
    (fresh : start.directory = Directory.empty)
    (name : String) :
    world.directory.table.find? name = Ledger.held name ledger := by
  induction trades with
  | start =>
      rw [fresh]
      rfl
  | aside _ leaves inductionHypothesis =>
      rw [leaves.table]
      exact inductionHypothesis
  | exchanged _ other descriptor inductionHypothesis =>
      rw [find?_exchange, Ledger.held_concat, inductionHypothesis]
      simp only [eq_comm]

/-- From an empty type table on, every exchange hands back what its name held. -/
theorem balanced
    (trades : start.Trades ledger world)
    (fresh : start.directory = Directory.empty) :
    Ledger.Balanced ledger := by
  induction trades with
  | start =>
      exact .nil
  | aside _ _ inductionHypothesis =>
      exact inductionHypothesis
  | exchanged earlier name descriptor inductionHypothesis =>
      refine inductionHypothesis.concat ?_
      exact (exchange_returned _ _ _).trans (earlier.find?_eq fresh name)

/-- What was given is numbered from zero on, each by its own number. -/
theorem serials
    (trades : start.Trades ledger world)
    (fresh : start.directory = Directory.empty) :
    (Ledger.given ledger).map Binding.serial =
      List.range world.directory.registrations := by
  induction trades with
  | start =>
      rw [fresh]
      rfl
  | aside _ leaves inductionHypothesis =>
      rw [leaves.registrations]
      exact inductionHypothesis
  | exchanged _ name descriptor inductionHypothesis =>
      rw [registrations_exchange, Ledger.given, List.filterMap_append,
        List.map_append]
      rw [Ledger.given] at inductionHypothesis
      rw [inductionHypothesis]
      cases descriptor with
      | none =>
          exact List.append_nil _
      | some descriptor =>
          exact List.range_succ.symm

/-- The journal tells of the exchanges of the ledger, and of no others. -/
theorem journal
    (trades : start.Trades ledger world) :
    world.journal.filter Entry.isExchange =
      start.journal.filter Entry.isExchange ++ ledger.map Exchange.entry := by
  induction trades with
  | start =>
      exact (List.append_nil _).symm
  | aside _ leaves inductionHypothesis =>
      rw [leaves.journal]
      exact inductionHypothesis
  | exchanged _ name descriptor inductionHypothesis =>
      rw [journal_exchange, inductionHypothesis, List.map_append, List.append_assoc]
      rfl

section

variable
  {elsewhere otherWorld : World}
  {other : Ledger}
  {name : String}

end

end Trades

end

end World

/-! ## Conservation -/

/--
A history with a constructor that rebinds its neighbour and unbinds itself.  The
neighbour is bound anew afterwards, and at last unbound.
-/
def swaps : List Operation :=
  [.register "inner" (.plain "First" .null),
    .register "outer"
      (.factory "Outer" fun _ =>
        .register "inner" (.abstract "Second") fun _ =>
          .resolve "inner" false fun _ =>
            .unregister "outer" fun _ => .build .null),
    .resolve "outer" true,
    .register "inner" (.plain "Third" .echo),
    .unregister "inner",
    .unregister "missing"]

end Dispatch
