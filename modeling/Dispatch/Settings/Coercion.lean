import Dispatch.Settings.Basic
import Dispatch.Settings.Mismatch
import Dispatch.Settings.Tree
import Dispatch.Text.LowerCase

namespace Dispatch.Settings

/-!
# Settings from a tree

Layered settings are lenient about types.  A boolean may be written as a number
other than zero or as one of a few words, and a string may be any single value.
Nulls, lists and tables are neither.
-/

/-- The words for true. -/
def trueWords : List String :=
  ["1", "true", "on", "yes"]

/-- The words for false. -/
def falseWords : List String :=
  ["0", "false", "off", "no"]

/-- A tree of a wrong type; only leaves and lists know where they come from. -/
def Mismatch.ofTree
    (key : String)
    (expected : Expected) : Tree → Mismatch
  | .scalar value origin =>
      let found : Found :=
        match value with
        | .null => .null
        | .boolean value => .boolean value
        | .integer value => .integer value
        | .float value => .float value
        | .string value => .string value
      ⟨found, expected, some key, origin⟩
  | .list _ origin => ⟨.sequence, expected, some key, origin⟩
  | .table _ => ⟨.map, expected, some key, none⟩

/-- The boolean that a tree stands for. -/
def toBoolean
    (key : String) :
    Tree → Except Mismatch Bool
  | .scalar (.boolean value) _ => .ok value
  | .scalar (.integer value) _ => .ok (value != 0)
  | .scalar (.float value) _ => .ok !value.isZero
  | .scalar (.string value) origin =>
      let lowered := Text.lowerCase value
      if lowered ∈ trueWords then
        .ok true
      else if lowered ∈ falseWords then
        .ok false
      else
        .error (Mismatch.ofTree key .boolean (.scalar (.string lowered) origin))
  | other => .error (Mismatch.ofTree key .boolean other)

/-- The string that a tree stands for. -/
def toText
    (key : String) :
    Tree → Except Mismatch String
  | .scalar (.string value) _ => .ok value
  | .scalar (.boolean value) _ => .ok (toString value)
  | .scalar (.integer value) _ => .ok (toString value)
  | .scalar (.float value) _ => .ok value.plain
  | other => .error (Mismatch.ofTree key .string other)

/-- The part of the settings under a key, or its default. -/
def part
    {α : Type}
    (key : String)
    (absent : α)
    (convert : String → Tree → Except Mismatch α)
    (tree : Tree) : Except Mismatch α :=
  match tree.find? key with
  | some value => convert key value
  | none => .ok absent

/-- The settings that a tree holds. -/
def ofTree
    (tree : Tree) : Except Mismatch Settings := do
  let strict ← part "strict" default.strict toBoolean tree
  let logLevel ← part "log_level" default.logLevel toText tree
  let logJson ← part "log_json" default.logJson toBoolean tree
  return ⟨strict, logLevel, logJson⟩

/-- The tree of given settings, which come from no source. -/
def toTree
    (settings : Settings) : List (String × Tree) :=
  [("strict", .scalar (.boolean settings.strict) none),
    ("log_level", .scalar (.string settings.logLevel) none),
    ("log_json", .scalar (.boolean settings.logJson) none)]

end Dispatch.Settings
