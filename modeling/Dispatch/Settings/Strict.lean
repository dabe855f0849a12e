import Dispatch.Settings.Basic
import Dispatch.Settings.Mismatch
import Dispatch.Value

namespace Dispatch.Settings

/-!
# Settings from a single value

The strict reader takes settings from an object, by the names of its members,
or from an array, by position.  What is absent has its default; nothing is
converted from one type to another, and a null is no boolean and no string.  The
members of an object have no order of their own, and are met in that of their names.
-/

/-- The kind of a value, with what messages show of it. -/
def Found.ofValue : Value → Found
  | .null => .null
  | .boolean value => .boolean value
  | .integer value => .integer value
  | .float value => .float value
  | .string value => .string value
  | .array _ => .sequence
  | .object _ => .map

/-- Why the strict reader refuses a value. -/
inductive StrictError
  | wrongType (found : Found) (expected : Expected)
  | wrongLength (length : Nat)
deriving Repr, DecidableEq

/-- The text of a refusal. -/
def StrictError.message : StrictError → String
  | wrongType found expected =>
      "invalid type: " ++ found.strictText ++ ", expected " ++ expected.text
  | wrongLength length =>
      "invalid length " ++ toString length ++ ", expected fewer elements in array"

/-- An absent boolean has its default. -/
def strictBoolean
    (absent : Bool) :
    Option Value → Except StrictError Bool
  | none => .ok absent
  | some (.boolean value) => .ok value
  | some other => .error (.wrongType (Found.ofValue other) .boolean)

/-- An absent string has its default. -/
def strictString
    (absent : String) :
    Option Value → Except StrictError String
  | none => .ok absent
  | some (.string value) => .ok value
  | some other => .error (.wrongType (Found.ofValue other) .string)

/-- The settings with the elements of an array, which are met in their order. -/
def ofElements
    (elements : List Value) : Except StrictError Settings := do
  let strict ← strictBoolean default.strict elements[0]?
  let logLevel ← strictString default.logLevel elements[1]?
  let logJson ← strictBoolean default.logJson elements[2]?
  return ⟨strict, logLevel, logJson⟩

/--
The settings with the members of an object, which are met in the order of their
names.
-/
def ofMembers
    (members : List (String × Value)) : Except StrictError Settings := do
  let logJson ← strictBoolean default.logJson (Association.find? "log_json" members)
  let logLevel ← strictString default.logLevel
    (Association.find? "log_level" members)
  let strict ← strictBoolean default.strict (Association.find? "strict" members)
  return ⟨strict, logLevel, logJson⟩

/-- Reads settings from a value. -/
def ofValue : Value → Except StrictError Settings
  | .object members =>
      ofMembers members
  | .array elements => do
      let settings ← ofElements elements
      if 3 < elements.length then
        .error (.wrongLength elements.length)
      else
        return settings
  | other =>
      .error (.wrongType (Found.ofValue other) .settings)

end Dispatch.Settings
