import Dispatch.Decimal.Literal
import Dispatch.Settings.Tree
import Dispatch.Text.LowerCase

namespace Dispatch.Settings

/-!
# Settings from environment variables

A variable counts if its name, in lower case, begins with `scheme_registry_`;
the rest of the name is the key.  Its text becomes a boolean, an integer or a
floating-point number if it is written as one, and stays a string otherwise.
-/

/-- Environment variables with their texts. -/
abbrev Variables := List (String × String)

/-- What names of variables begin with, in lower case. -/
def variableStart : String := "scheme_registry_"

/-- The name of this source in messages. -/
def environmentOrigin : String := "the environment"

/-- The key that a variable sets, if it counts. -/
def keyOfVariable?
    (name : String) : Option String :=
  let lowered := (Text.lowerCase name).toList
  if variableStart.toList.isPrefixOf lowered then
    some (String.ofList (lowered.drop variableStart.length))
  else
    none

/-- The value that a text of a variable is written as. -/
def Scalar.ofText
    (text : String) : Scalar :=
  let lowered := Text.lowerCase text
  if lowered = "true" then
    .boolean true
  else if lowered = "false" then
    .boolean false
  else
    match Decimal.integerLiteral? text.toList with
    | some value => .integer value
    | none =>
        match Decimal.floatLiteral? text.toList with
        | some value => .float value
        | none => .string text

/-- The keys that variables set. -/
def ofVariables
    (environment : Variables) : List (String × Tree) :=
  environment.filterMap fun (name, text) =>
    (keyOfVariable? name).map fun key =>
      (key, .scalar (Scalar.ofText text) (some environmentOrigin))

end Dispatch.Settings
