import Dispatch.Text.Quoted

namespace Dispatch

/-!
# Settings of a registry
-/

/--
What a registry is configured with: whether `find` treats an unknown scheme as
an error, and the filter and the format of log lines.
-/
structure Settings where
  strict : Bool
  logLevel : String
  logJson : Bool
deriving Repr, DecidableEq

namespace Settings

/-- Strict, with plain log lines from level `info` up. -/
def default : Settings where
  strict := true
  logLevel := "info"
  logJson := false

instance : Inhabited Settings :=
  ⟨default⟩

/-- The settings with their names, for diagnostics. -/
def describe
    (settings : Settings) : String :=
  "RegistryConfig \x7b strict: " ++ toString settings.strict ++
    ", log_level: " ++ Text.quoted settings.logLevel ++
    ", log_json: " ++ toString settings.logJson ++ " \x7d"

end Settings

end Dispatch
