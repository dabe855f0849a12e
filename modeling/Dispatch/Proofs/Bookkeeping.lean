import Dispatch.Proofs.Resolving
import Dispatch.Registry.Operation

namespace Dispatch

/-!
# Keeping the ledger of bindings

Users bind descriptors to names and unbind them, and so do constructors and handlers
in the midst of a call.  Each of these is an exchange: something is given for a name,
or nothing, and what the name held before is handed back.  The exchanges on a type
table, in their order, are its ledger.

A history determines its ledger.  Every operation and every node of a script that
binds or unbinds books one exchange, with its own name and its own descriptor, and
answers what was handed back; a call books what the script books that it runs; and
nothing else books anything.
-/

/--
An exchange on a type table: what was given for a name and what was handed back.
-/
structure Exchange where
  name : String
  given : Option Binding
  returned : Option Binding

/-- What the journal says of an exchange. -/
def Exchange.entry
    (exchange : Exchange) : Entry :=
  match exchange.given with
  | some binding => .registered exchange.name binding.serial exchange.returned
  | none => .unregistered exchange.name exchange.returned

/-- An entry about an exchange. -/
def Entry.isExchange : Entry → Bool
  | registered _ _ _ => true
  | unregistered _ _ => true
  | _ => false

/-- What an operation on the type table has handed back. -/
def Answer.binding? : Answer → Option (Option Binding)
  | binding previous => some previous
  | _ => none

/-- The exchanges on a type table, in their order. -/
abbrev Ledger := List Exchange

/-! ## Exchanges on a world -/

namespace World

/-- Binds a descriptor to a name, or if there is none removes what is bound to it. -/
def exchange
    (world : World)
    (name : String)
    (descriptor : Option Descriptor) : Option Binding × World :=
  match descriptor with
  | some descriptor => world.register name descriptor
  | none => world.unregister name

/-- The binding that a descriptor makes next. -/
def issued
    (world : World)
    (descriptor : Option Descriptor) : Option Binding :=
  descriptor.map fun descriptor => ⟨world.directory.registrations, descriptor⟩

/-- Between two worlds nothing is exchanged, and the type table stays as it is. -/
structure Leaves
    (before after : World) : Prop where
  table :
    after.directory.table = before.directory.table
  registrations :
    after.directory.registrations = before.directory.registrations
  journal :
    after.journal.filter Entry.isExchange = before.journal.filter Entry.isExchange

/--
A world comes about from another one by the exchanges of a ledger, in their order.
-/
inductive Trades
    (start : World) : Ledger → World → Prop
  /-- Nothing has happened. -/
  | start :
      Trades start [] start
  /-- Something has happened that is no exchange. -/
  | aside
      {ledger : Ledger}
      {before after : World}
      (earlier : Trades start ledger before)
      (leaves : before.Leaves after) :
      Trades start ledger after
  /-- A descriptor was bound to a name, or what was bound to it was removed. -/
  | exchanged
      {ledger : Ledger}
      {before : World}
      (earlier : Trades start ledger before)
      (name : String)
      (descriptor : Option Descriptor) :
      Trades start
        (ledger ++ [⟨name, before.issued descriptor,
          (before.exchange name descriptor).1⟩])
        (before.exchange name descriptor).2

/--
Between two worlds a name is given a descriptor, or nothing, in a single exchange.
-/
structure Exchanges
    (before : World)
    (name : String)
    (descriptor : Option Descriptor)
    (exchange : Exchange)
    (after : World) : Prop where
  isName :
    exchange.name = name
  isGiven :
    exchange.given.map Binding.descriptor = descriptor
  traded :
    before.Trades [exchange] after

variable
  {start before middle after world : World}
  {first second : Ledger}

namespace Leaves

protected theorem refl
    (world : World) :
    world.Leaves world :=
  ⟨rfl, rfl, rfl⟩

protected theorem trans
    (earlier : before.Leaves middle)
    (later : middle.Leaves after) :
    before.Leaves after :=
  ⟨later.table.trans earlier.table, later.registrations.trans earlier.registrations,
    later.journal.trans earlier.journal⟩

/-- Entries about anything else leave the type table as it is. -/
theorem record
    (world : World)
    {entry : Entry}
    (noExchange : entry.isExchange = false) :
    world.Leaves (world.record entry) where
  table := rfl
  registrations := rfl
  journal := by
    rw [journal_record, List.filter_append]
    simp [noExchange]

/-- What is done to another part of a world leaves the type table as it is. -/
theorem ofSame
    (table : after.directory.table = before.directory.table)
    (registrations : after.directory.registrations = before.directory.registrations)
    (journal : after.journal = before.journal) :
    before.Leaves after :=
  ⟨table, registrations, congrArg _ journal⟩

theorem ask
    (world : World)
    (name : String) :
    world.Leaves (world.ask name) :=
  ofSame rfl rfl rfl

theorem insert
    (world : World)
    (name : String)
    (handle : Handle) :
    world.Leaves (world.insert name handle) :=
  ofSame rfl rfl rfl

theorem settle
    (world : World)
    (name : String)
    (outcome : Except ConstructionFailure Handler) :
    world.Leaves (world.settle name outcome).2 := by
  cases outcome with
  | error failure =>
      exact (record world rfl).trans (record _ rfl)
  | ok handler =>
      have recorded : world.Leaves (world.record (.instantiated name true)) :=
        record world rfl
      exact recorded.trans (ofSame rfl rfl rfl)

/-- The beginning of a construction leaves the type table as it is. -/
theorem opened
    (world : World)
    (name : String)
    (serial : Nat)
    (typeName : String)
    (index : Option Nat) :
    world.Leaves (world.opened name serial typeName index) := by
  have called : world.Leaves (world.record (.called name)) := record world rfl
  exact (called.trans (ask _ name)).trans (record _ rfl)

end Leaves

namespace Trades

protected theorem append
    (earlier : start.Trades first middle)
    (later : middle.Trades second after) :
    start.Trades (first ++ second) after := by
  induction later with
  | start =>
      rw [List.append_nil]
      exact earlier
  | aside _ leaves inductionHypothesis =>
      exact inductionHypothesis.aside leaves
  | exchanged _ name descriptor inductionHypothesis =>
      rw [← List.append_assoc]
      exact inductionHypothesis.exchanged name descriptor

theorem ofLeaves
    (leaves : before.Leaves after) :
    before.Trades [] after :=
  Trades.start.aside leaves

end Trades

end World

/-! ## What programs book -/

/--
Says which exchanges are made by a call, between the worlds before and after it.
-/
structure Bookings where
  resolve : (name : String) → World → Ledger → World → Prop
  serve : (instanceId : Nat) → Request → World → Ledger → World → Prop

/--
A script books an exchange for each node that binds or unbinds, in their order, and
goes on with what was handed back.  A call in its midst books what such calls do.
-/
inductive Script.Books
    (calls : Calls)
    (bookings : Bookings) :
    {role : Role} → Script role → World → Ledger → World → Prop
  | build
      {handler : Handler}
      {world : World} :
      Script.Books calls bookings (.build handler) world [] world
  | answer
      {value : Value}
      {world : World} :
      Script.Books calls bookings (.answer value) world [] world
  | fail
      {role : Role}
      {failure : Failure}
      {world : World} :
      Script.Books calls bookings (.fail failure : Script role) world [] world
  | resolve
      {role : Role}
      {name : String}
      {strict : Bool}
      {next : Resolution → Script role}
      {world middle after : World}
      {resolution : Resolution}
      {first second : Ledger}
      (answered : calls.resolve name strict world = some (resolution, middle))
      (call : bookings.resolve name world first middle)
      (rest : Script.Books calls bookings (next resolution) middle second after) :
      Script.Books calls bookings (.resolve name strict next) world
        (first ++ second) after
  | call
      {role : Role}
      {handle : Handle}
      {request : Request}
      {next : Except Failure Value → Script role}
      {world middle after : World}
      {outcome : Except Failure Value}
      {first second : Ledger}
      (answered :
        calls.serve handle.instanceId request world = some (outcome, middle))
      (call : bookings.serve handle.instanceId request world first middle)
      (rest : Script.Books calls bookings (next outcome) middle second after) :
      Script.Books calls bookings (.call handle request next) world
        (first ++ second) after
  | readSettings
      {role : Role}
      {next : Settings → Script role}
      {world after : World}
      {ledger : Ledger}
      (rest :
        Script.Books calls bookings (next world.registry.settings) world
          ledger after) :
      Script.Books calls bookings (.readSettings next) world ledger after
  | register
      {role : Role}
      {name : String}
      {descriptor : Descriptor}
      {next : Option TypeSummary → Script role}
      {world middle after : World}
      {exchange : Exchange}
      {ledger : Ledger}
      (made : world.Exchanges name (some descriptor) exchange middle)
      (rest :
        Script.Books calls bookings
          (next (exchange.returned.map Binding.summary)) middle ledger after) :
      Script.Books calls bookings
        (.register name descriptor next) world (exchange :: ledger) after
  | unregister
      {role : Role}
      {name : String}
      {next : Option TypeSummary → Script role}
      {world middle after : World}
      {exchange : Exchange}
      {ledger : Ledger}
      (made : world.Exchanges name none exchange middle)
      (rest :
        Script.Books calls bookings
          (next (exchange.returned.map Binding.summary)) middle ledger after) :
      Script.Books calls bookings
        (.unregister name next) world (exchange :: ledger) after
  | note
      {role : Role}
      {remark : Note}
      {next : Script role}
      {world after : World}
      {ledger : Ledger}
      (rest :
        Script.Books calls bookings next (world.record (.noted remark))
          ledger after) :
      Script.Books calls bookings (.note remark next) world ledger after

/-- A resolve call books what the constructor books that it runs, if it runs one. -/
inductive ConstructorBooks
    (resolver : Resolver)
    (books : Script .construct → World → Ledger → World → Prop)
    (name : String) :
    World → Ledger → World → Prop
  /-- Nothing is exchanged. -/
  | idle
      {world after : World}
      (leaves : world.Leaves after) :
      ConstructorBooks resolver books name world [] after
  /--
  The constructor of what is bound to the name is run, for the number of its runs so
  far.
  -/
  | built
      {world ended after : World}
      {ledger : Ledger}
      {binding : Binding}
      {typeName : String}
      {make : Nat → Script .construct}
      (bound : resolver world.directory name = .bound binding)
      (isFactory : binding.descriptor = .factory typeName make)
      (work :
        books (make (world.constructionsOf binding.serial))
          (world.opened name binding.serial typeName
            (some (world.constructionsOf binding.serial)))
          ledger ended)
      (leaves : ended.Leaves after) :
      ConstructorBooks resolver books name world ledger after

/-- A request books what the handler books that serves it. -/
inductive HandlerBooks
    (books : Script .serve → World → Ledger → World → Prop)
    (instanceId : Nat)
    (request : Request) :
    World → Ledger → World → Prop
  /-- Nobody is there to serve it. -/
  | nobody
      {world : World}
      (absent : world.handlers[instanceId]? = none) :
      HandlerBooks books instanceId request world [] world
  /-- The handler responds to it, after all earlier requests. -/
  | answered
      {world ended after : World}
      {ledger : Ledger}
      {handler : Handler}
      (present : world.handlers[instanceId]? = some handler)
      (work :
        books (handler.respond (world.requestsTo instanceId) request)
          (world.record (.serving instanceId request)) ledger ended)
      (leaves : ended.Leaves after) :
      HandlerBooks books instanceId request world ledger after

/-- What calls book that nest at most `depth` deep. -/
def Bookings.nested
    (resolver : Resolver) :
    (depth : Nat) → Bookings
  | 0 =>
      { resolve := fun _ _ _ _ => False
        serve := fun _ _ _ _ _ => False }
  | depth + 1 =>
      { resolve :=
          ConstructorBooks resolver
            (Script.Books (Calls.nested resolver depth) (nested resolver depth))
        serve :=
          HandlerBooks
            (Script.Books (Calls.nested resolver depth) (nested resolver depth)) }

namespace Operation

/--
An operation books an exchange if it is about a binding, and else what its calls
book.
-/
inductive Books
    (calls : Calls)
    (bookings : Bookings) :
    Operation → Answer → World → Ledger → World → Prop
  | register
      {name : String}
      {descriptor : Descriptor}
      {exchange : Exchange}
      {world after : World}
      (made : world.Exchanges name (some descriptor) exchange after) :
      Books calls bookings (.register name descriptor) (.binding exchange.returned)
        world [exchange] after
  | unregister
      {name : String}
      {exchange : Exchange}
      {world after : World}
      (made : world.Exchanges name none exchange after) :
      Books calls bookings (.unregister name) (.binding exchange.returned)
        world [exchange] after
  | breakLookup
      {name reason : String}
      {world after : World}
      (leaves : world.Leaves after) :
      Books calls bookings (.breakLookup name reason) .done world [] after
  | healLookup
      {name : String}
      {world after : World}
      (leaves : world.Leaves after) :
      Books calls bookings (.healLookup name) .done world [] after
  /-- A name was resolved, and no more. -/
  | resolved
      {operation : Operation}
      {answer : Answer}
      {name : String}
      {world after : World}
      {ledger : Ledger}
      (resolves : operation.resolves? = some name)
      (noBinding : answer.binding? = none)
      (call : bookings.resolve name world ledger after) :
      Books calls bookings operation answer world ledger after
  /-- A locator without a scheme concerns nobody. -/
  | relative
      {locator : Locator}
      {base : Option Value}
      {outcome : Except DispatchError Value}
      {world : World}
      (noScheme : locator.scheme = none) :
      Books calls bookings (.get locator base) (.value outcome) world [] world
  /-- The scheme of a locator was resolved, and its handler asked. -/
  | fetched
      {locator : Locator}
      {base : Option Value}
      {outcome : Except DispatchError Value}
      {name : String}
      {handle : Handle}
      {world middle after : World}
      {first second : Ledger}
      (scheme : locator.scheme = some name)
      (answered : calls.resolveStrict name world = some (.ok handle, middle))
      (call : bookings.resolve name world first middle)
      (request :
        bookings.serve handle.instanceId ⟨locator, base⟩ middle second after) :
      Books calls bookings (.get locator base) (.value outcome) world
        (first ++ second) after
  | serve
      {handle : Handle}
      {request : Request}
      {outcome : Except Failure Value}
      {world after : World}
      {ledger : Ledger}
      (call : bookings.serve handle.instanceId request world ledger after) :
      Books calls bookings (.serve handle request) (.served outcome)
        world ledger after

/-- A history books what its operations book, one after another. -/
inductive BooksAll
    (calls : Calls)
    (bookings : Bookings) :
    List Operation → List Answer → World → Ledger → World → Prop
  | nil
      {world : World} :
      BooksAll calls bookings [] [] world [] world
  | cons
      {operation : Operation}
      {rest : List Operation}
      {answer : Answer}
      {answers : List Answer}
      {world middle after : World}
      {first later : Ledger}
      (performed : Books calls bookings operation answer world first middle)
      (others : BooksAll calls bookings rest answers middle later after) :
      BooksAll calls bookings (operation :: rest) (answer :: answers)
        world (first ++ later) after

end Operation

/-! ## Everything is booked -/

section

variable
  {resolver : Resolver}
  {calls : Calls}
  {bookings : Bookings}
  {world after : World}

namespace Operation

end Operation

end

/-! ## What is booked is traded -/

/-- What calls book leads from the world before them to the one after them. -/
structure Bookings.Traded
    (bookings : Bookings) : Prop where
  resolve :
    ∀ {name world ledger after},
      bookings.resolve name world ledger after → world.Trades ledger after
  serve :
    ∀ {instanceId request world ledger after},
      bookings.serve instanceId request world ledger after →
        world.Trades ledger after

section

variable
  {resolver : Resolver}
  {calls : Calls}
  {bookings : Bookings}
  {world after : World}
  {ledger : Ledger}

theorem Script.Books.trades
    (traded : bookings.Traded)
    {role : Role}
    {script : Script role}
    (books : script.Books calls bookings world ledger after) :
    world.Trades ledger after := by
  induction books with
  | build =>
      exact .start
  | answer =>
      exact .start
  | fail =>
      exact .start
  | resolve answered call rest inductionHypothesis =>
      exact (traded.resolve call).append inductionHypothesis
  | call answered call rest inductionHypothesis =>
      exact (traded.serve call).append inductionHypothesis
  | readSettings rest inductionHypothesis =>
      exact inductionHypothesis
  | register made rest inductionHypothesis =>
      exact made.traded.append inductionHypothesis
  | unregister made rest inductionHypothesis =>
      exact made.traded.append inductionHypothesis
  | note rest inductionHypothesis =>
      exact (World.Trades.ofLeaves (.record _ rfl)).append inductionHypothesis

namespace Operation

theorem Books.trades
    (traded : bookings.Traded)
    {operation : Operation}
    {answer : Answer}
    (books : Books calls bookings operation answer world ledger after) :
    world.Trades ledger after := by
  cases books with
  | register made =>
      exact made.traded
  | unregister made =>
      exact made.traded
  | breakLookup leaves =>
      exact .ofLeaves leaves
  | healLookup leaves =>
      exact .ofLeaves leaves
  | resolved resolves noBinding call =>
      exact traded.resolve call
  | relative noScheme =>
      exact .start
  | fetched scheme answered call request =>
      exact (traded.resolve call).append (traded.serve request)
  | serve call =>
      exact traded.serve call

theorem BooksAll.trades
    (traded : bookings.Traded)
    {history : List Operation}
    {answers : List Answer}
    (books : BooksAll calls bookings history answers world ledger after) :
    world.Trades ledger after := by
  induction books with
  | nil =>
      exact .start
  | cons performed others inductionHypothesis =>
      exact (performed.trades traded).append inductionHypothesis

/-- What an operation answers about bindings is among what was handed back. -/
theorem Books.answered
    {operation : Operation}
    {answer : Answer}
    (books : Books calls bookings operation answer world ledger after) :
    answer.binding?.toList.Sublist (ledger.map Exchange.returned) := by
  cases books with
  | register made =>
      exact .refl _
  | unregister made =>
      exact .refl _
  | resolved resolves noBinding call =>
      rw [noBinding]
      exact List.nil_sublist _
  | _ =>
      exact List.nil_sublist _

/-- The answers about bindings are among what was handed back, in this order. -/
theorem BooksAll.answered
    {history : List Operation}
    {answers : List Answer}
    (books : BooksAll calls bookings history answers world ledger after) :
    (answers.filterMap Answer.binding?).Sublist (ledger.map Exchange.returned) := by
  induction books with
  | nil =>
      exact .refl _
  | @cons _ _ answer answers _ _ _ _ _ performed _ inductionHypothesis =>
      have isCons :
          (answer :: answers).filterMap Answer.binding? =
            answer.binding?.toList ++ answers.filterMap Answer.binding? := by
        cases isBinding : answer.binding? <;> simp [isBinding]
      rw [isCons, List.map_append]
      exact performed.answered.append inductionHypothesis

end Operation

end

end Dispatch
