import Dispatch.Decimal.Shortest
import Dispatch.Text.Quoted

namespace Dispatch.Settings

/-!
# Values of a wrong type

Two readers of settings refuse values, each with its own words for what it
found: the strict one for single values, and the layered one, which also says
under which key and in which source.
-/

/-- What stood where another type was expected. -/
inductive Found
  | null
  | boolean (value : Bool)
  | integer (value : Int)
  | float (value : Decimal.Binary64)
  | string (value : String)
  | sequence
  | map
deriving Repr, DecidableEq

/-- What was expected. -/
inductive Expected
  | boolean
  | string
  | map
  | settings
deriving Repr, DecidableEq

/-- The words for what was expected. -/
def Expected.text : Expected → String
  | boolean => "a boolean"
  | string => "a string"
  | map => "a map"
  | settings => "struct RegistryConfig"

/-- The words of the strict reader. -/
def Found.strictText : Found → String
  | null => "null"
  | boolean value => "boolean `" ++ toString value ++ "`"
  | integer value => "integer `" ++ toString value ++ "`"
  | float value => "floating point `" ++ value.compact ++ "`"
  | string value => "string " ++ Text.quoted value
  | sequence => "sequence"
  | map => "map"

/-- The words of the layered reader. -/
def Found.layeredText : Found → String
  | null => "unit value"
  | boolean value => "boolean `" ++ toString value ++ "`"
  | integer value => "64-bit integer `" ++ toString value ++ "`"
  | float value => "floating point `" ++ value.plain ++ "`"
  | string value => "string " ++ Text.quoted value
  | sequence => "sequence"
  | map => "map"

/-- A value of a wrong type, with its key and its source where they are known. -/
structure Mismatch where
  found : Found
  expected : Expected
  key : Option String
  origin : Option String
deriving Repr, DecidableEq

/-- The text of a mismatch. -/
def Mismatch.message
    (mismatch : Mismatch) : String :=
  let key :=
    match mismatch.key with
    | some name => " for key `" ++ name ++ "`"
    | none => ""
  let origin :=
    match mismatch.origin with
    | some source => " in " ++ source
    | none => ""
  "invalid type: " ++ mismatch.found.layeredText ++
    ", expected " ++ mismatch.expected.text ++ key ++ origin

/-- Why settings could not be loaded. -/
inductive LoadError
  /-- A setting has a value that cannot be turned into its type. -/
  | wrongType (mismatch : Mismatch)
  /-- A file is no document of its format. -/
  | malformed (path : String)
  /-- A file is a document but not one of named values. -/
  | notATable (path : String) (found : Found)
deriving Repr, DecidableEq

/-- The text of a load error; a format's own complaint is not part of it. -/
def LoadError.message : LoadError → String
  | wrongType mismatch => mismatch.message
  | malformed path => "malformed document in " ++ path
  | notATable path found =>
      (Mismatch.mk found .map none (some path)).message ++ " in " ++ path

end Dispatch.Settings
