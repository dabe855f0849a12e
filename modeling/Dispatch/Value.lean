import Dispatch.Association
import Dispatch.Decimal.Binary64

namespace Dispatch

/-!
# Values

What a locator resolves to and what serves as its base: a tree of nulls,
booleans, numbers, strings, arrays and objects.  An object is an association
list of its members.
-/

/-- A structured value. -/
inductive Value
  | null
  | boolean (value : Bool)
  | integer (value : Int)
  | float (value : Decimal.Binary64)
  | string (value : String)
  | array (elements : List Value)
  | object (members : List (String × Value))
deriving Repr, Inhabited

namespace Value

/-- The member of an object that has the given name. -/
def member?
    (name : String) : Value → Option Value
  | object members => Association.find? name members
  | _ => none

/-- The string or nothing as a value. -/
def ofString? : Option String → Value
  | some text => string text
  | none => null

end Value

end Dispatch
