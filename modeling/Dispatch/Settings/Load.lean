import Dispatch.Document.Ini
import Dispatch.Document.Toml
import Dispatch.Settings.Coercion
import Dispatch.Settings.Environment
import Dispatch.Settings.Files
import Dispatch.Settings.KeyPath

namespace Dispatch.Settings

/-!
# Loading settings

Settings come from three layers: the defaults, a file that may be missing, and
environment variables.  The value that a later layer gives to a key counts.
Types are looked at only after all layers are merged, so a value of a wrong type
is harmless if a later layer overrides it.
-/

/-- Reads the text of a settings file. -/
def Format.parse : Format → String → Option Value
  | toml => Toml.parse
  | json => Json.parse
  | ini => Ini.parse

/-- The keys that a document from a file sets, or why it sets none. -/
def ofDocument
    (path : String) :
    Option Value → Except LoadError (List (String × Tree))
  | none => .error (.malformed path)
  | some (.object members) => .ok (Tree.ofMembers path members)
  | some (.null) => .error (.notATable path .null)
  | some (.boolean value) => .error (.notATable path (.boolean value))
  | some (.integer value) =>
      match Scalar.ofInteger value with
      | .float value => .error (.notATable path (.float value))
      | _ => .error (.notATable path (.integer value))
  | some (.float value) => .error (.notATable path (.float value))
  | some (.string value) => .error (.notATable path (.string value))
  | some (.array _) => .error (.notATable path .sequence)

/-- The keys that a selected file sets.  A file whose bytes are no text sets none. -/
def ofSelected
    (selected : Selected) : Except LoadError (List (String × Tree)) :=
  match String.fromUTF8? selected.content with
  | none => .ok []
  | some text => ofDocument selected.path (selected.format.parse text)

/-- The keys that the file of a path sets.  No path and no file set none. -/
def ofPath
    (files : FileTree)
    (path : Option String) : Except LoadError (List (String × Tree)) :=
  match path.bind (select? files) with
  | none => .ok []
  | some selected => ofSelected selected

/-- The tree that the layers are merged into. -/
def layered
    (file environment : List (String × Tree)) : Tree :=
  Tree.merge environment
    (Tree.merge file
      (Tree.merge (toTree default) (.table [])))

/-- The settings that the layers make up. -/
def ofLayers
    (file environment : List (String × Tree)) : Except LoadError Settings :=
  (ofTree (layered file environment)).mapError .wrongType

/-- Loads settings from a file and from variables. -/
def loadFrom
    (files : FileTree)
    (path : Option String)
    (environment : Variables) : Except LoadError Settings := do
  let file ← ofPath files path
  ofLayers file (ofVariables environment)

/--
Loads settings from a file and from the variables that are given, or else from
those of the process.
-/
def load
    (files : FileTree)
    (path : Option String)
    (given : Option Variables)
    (process : Variables) : Except LoadError Settings :=
  loadFrom files path (given.getD process)

end Dispatch.Settings
