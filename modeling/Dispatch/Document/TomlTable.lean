import Dispatch.Value

namespace Dispatch.Toml

/-!
# Tables of a TOML document

Headers, dotted keys and key-value lines build one tree, and each name may be
defined once.  A table that exists only because a header or a dotted key led
through it may be added to; a table with a header of its own may not be
defined again.
-/

/-- How a table came to be. -/
inductive TableKind
  /-- A header led through it. -/
  | implicit
  /-- A dotted key led through it. -/
  | dotted
  /-- It has a header of its own. -/
  | defined
deriving Repr, DecidableEq

/-- What a name stands for. -/
inductive Node
  | value (value : Value)
  | table (kind : TableKind) (entries : List (String × Node))
  | tables (elements : List (List (String × Node)))

/-- The names of a table. -/
abbrev Entries := Association Node

mutual

/-- The value that a node stands for. -/
def Node.toValue : Node → Value
  | .value value => value
  | .table _ entries => .object (membersOf entries)
  | .tables elements => .array (objectsOf elements)

/-- The members that entries stand for. -/
def membersOf :
    List (String × Node) → List (String × Value)
  | [] => []
  | (name, node) :: rest => (name, node.toValue) :: membersOf rest

/-- The objects that lists of entries stand for. -/
def objectsOf :
    List (List (String × Node)) → List Value
  | [] => []
  | entries :: rest => .object (membersOf entries) :: objectsOf rest

end

/--
Changes the table at the end of a path, making the tables on the way that do not
exist.  A list of tables is entered at its last one.  A dotted key must not lead
through a table that has a header.
-/
def descend
    (isDotted : Bool)
    (change : TableKind → Entries → Option Entries) :
    List String → TableKind → Entries → Option Entries
  | [], kind, entries =>
      change kind entries
  | name :: rest, _, entries =>
      match Association.find? name entries with
      | none =>
          let kind := if isDotted then TableKind.dotted else .implicit
          (descend isDotted change rest kind []).map fun inside =>
            Association.set name (.table kind inside) entries
      | some (.table kind inside) =>
          if isDotted ∧ kind = .defined then
            none
          else
            (descend isDotted change rest kind inside).map fun inside =>
              Association.set name (.table kind inside) entries
      | some (.tables elements) =>
          match elements.getLast? with
          | none =>
              none
          | some last =>
              (descend isDotted change rest .defined last).map fun last =>
                Association.set name
                  (.tables (elements.dropLast ++ [last]))
                  entries
      | some (.value _) =>
          none

/-- Adds a name that is not there yet. -/
def addNew
    (name : String)
    (node : Node)
    (entries : Entries) : Option Entries :=
  match Association.find? name entries with
  | none => some (Association.set name node entries)
  | some _ => none

/-- Gives the end of a dotted key a value, starting from a table. -/
def assignKey
    (key : List String)
    (value : Value)
    (entries : Entries) : Option Entries :=
  match key.getLast? with
  | none =>
      none
  | some name =>
      let path := key.dropLast
      descend true
        (fun kind inside =>
          if path.isEmpty ∨ kind = .dotted then
            addNew name (.value value) inside
          else
            none)
        path .defined entries

/--
Defines the table of a header.  One that only led further so far moves behind
the names that are there.
-/
def defineTable
    (key : List String)
    (entries : Entries) : Option Entries :=
  match key.getLast? with
  | none =>
      none
  | some name =>
      descend false
        (fun _ inside =>
          match Association.find? name inside with
          | none =>
              some (Association.set name (.table .defined []) inside)
          | some (.table .implicit found) =>
              some
                (Association.set name (.table .defined found)
                  (Association.erase name inside))
          | some _ =>
              none)
        key.dropLast .defined entries

/-- Adds a table to the list of tables of a header. -/
def appendTable
    (key : List String)
    (entries : Entries) : Option Entries :=
  match key.getLast? with
  | none =>
      none
  | some name =>
      descend false
        (fun _ inside =>
          match Association.find? name inside with
          | none =>
              some (Association.set name (.tables [[]]) inside)
          | some (.tables elements) =>
              some (Association.set name (.tables (elements ++ [[]])) inside)
          | some _ =>
              none)
        key.dropLast .defined entries

/-- Gives a key a value in the table of the current header. -/
def assignUnder
    (header key : List String)
    (value : Value)
    (entries : Entries) : Option Entries :=
  descend false
    (fun _ inside => assignKey key value inside)
    header .defined entries

end Dispatch.Toml
