import Dispatch.Association
import Dispatch.Decimal.Literal
import Dispatch.Value

namespace Dispatch.Settings

/-!
# Trees of settings

The sources of settings are merged into one tree.  Its leaves and lists know the
source that they come from; a table collects entries of several sources and has
none.

A leaf or a list replaces what stood under its key.  A table is merged entry by
entry into what stood there, so a table without entries changes nothing that
exists.
-/

/-- A single value. -/
inductive Scalar
  | null
  | boolean (value : Bool)
  | integer (value : Int)
  | float (value : Decimal.Binary64)
  | string (value : String)
deriving Repr, DecidableEq

/-- An integer outside 64 bits is a floating-point number. -/
def Scalar.ofInteger
    (value : Int) : Scalar :=
  if Decimal.fitsInt64 value then
    .integer value
  else
    .float (Decimal.Binary64.ofFraction (decide (value < 0)) value.natAbs 1)

/-- A tree of settings; the origin names the source of a leaf or a list. -/
inductive Tree
  | scalar (value : Scalar) (origin : Option String)
  | list (elements : List Tree) (origin : Option String)
  | table (entries : List (String × Tree))
deriving Repr, Inhabited

namespace Tree

/-- A leaf without a value and without a source. -/
def absent : Tree :=
  scalar .null none

/-- The entries of a table; anything else has none. -/
def entries : Tree → Association Tree
  | table entries => entries
  | _ => []

/--
The elements of a list and its source; anything else counts as a new empty list.
-/
def asList : Tree → List Tree × Option String
  | list elements origin => (elements, origin)
  | _ => ([], none)

/-- The entry of a table. -/
def find?
    (key : String)
    (tree : Tree) : Option Tree :=
  Association.find? key tree.entries

/-- Replaces an entry; what is no table becomes one. -/
def setEntry
    (key : String)
    (value tree : Tree) : Tree :=
  table (Association.set key value tree.entries)

mutual

/-- Puts a tree under a key of a table; what is no table becomes one. -/
def assign
    (key : String) :
    (value tree : Tree) → Tree
  | table incoming, tree =>
      setEntry key (assignAll incoming ((tree.find? key).getD (table []))) tree
  | scalar value origin, tree =>
      setEntry key (scalar value origin) tree
  | list elements origin, tree =>
      setEntry key (list elements origin) tree

/-- Puts trees under their keys, one after another. -/
def assignAll :
    List (String × Tree) → Tree → Tree
  | [], tree =>
      tree
  | (key, value) :: rest, tree =>
      assignAll rest (assign key value tree)

end

mutual

/-- The tree of a value from one source. -/
def ofValue
    (origin : String) :
    Value → Tree
  | .null => scalar .null (some origin)
  | .boolean value => scalar (.boolean value) (some origin)
  | .integer value => scalar (Scalar.ofInteger value) (some origin)
  | .float value => scalar (.float value) (some origin)
  | .string value => scalar (.string value) (some origin)
  | .array elements => list (ofValues origin elements) (some origin)
  | .object members => table (ofMembers origin members)

/-- The trees of a list of values from one source. -/
def ofValues
    (origin : String) :
    List Value → List Tree
  | [] => []
  | value :: rest => ofValue origin value :: ofValues origin rest

/-- The entries of the members of an object from one source. -/
def ofMembers
    (origin : String) :
    List (String × Value) → List (String × Tree)
  | [] => []
  | (name, value) :: rest => (name, ofValue origin value) :: ofMembers origin rest

end

/-- An entry that has been set is found; other entries stay. -/
theorem find?_setEntry
    (key other : String)
    (value tree : Tree) :
    (setEntry key value tree).find? other =
      if other = key then some value else tree.find? other :=
  Association.find?_set key other value tree.entries

/-- Putting a tree under a key leaves other keys alone. -/
theorem find?_assign_of_ne
    {key other : String}
    (different : other ≠ key)
    (value tree : Tree) :
    (assign key value tree).find? other = tree.find? other := by
  cases value <;> simp [assign, find?_setEntry, different]

end Tree

end Dispatch.Settings
