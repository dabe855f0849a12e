import Dispatch.Failure
import Dispatch.Locator
import Dispatch.Settings.Mismatch

namespace Dispatch

/-!
# Errors of dispatch

The errors that callers see.  Why a scheme could not be built is not among
them: every such reason is the one error `unresolved`.
-/

/-- An error that reaches a caller. -/
inductive DispatchError
  | unresolved (schemeName : String)
  | relative (locator : String)
  | handlerFailed (schemeName : String) (locator : String) (cause : Failure)
  | invalidLocator (cause : LocatorError)
  | configuration (cause : Settings.LoadError)
deriving Repr, DecidableEq

namespace DispatchError

/-- The text of an error. -/
def message : DispatchError → String
  | unresolved schemeName => "Unknown scheme: " ++ schemeName
  | relative locator => "Locator has no scheme: " ++ locator
  | handlerFailed schemeName locator cause =>
      "Scheme '" ++ schemeName ++ "' failed to resolve " ++ locator ++
        ": " ++ cause.message
  | invalidLocator cause => "Invalid locator: " ++ cause.message
  | configuration cause => "Configuration error: " ++ cause.message

/-- The scheme that an error is about. -/
def schemeName? : DispatchError → Option String
  | unresolved schemeName => some schemeName
  | handlerFailed schemeName _ _ => some schemeName
  | _ => none

/-- The messages behind an error, outermost first. -/
def sources : DispatchError → List String
  | handlerFailed _ _ cause => cause.chain
  | invalidLocator cause => [cause.message]
  | configuration cause => [cause.message]
  | _ => []

/-- The error as a failure of whoever ran into it. -/
def toFailure
    (error : DispatchError) : Failure :=
  ⟨error.message, error.sources⟩

end DispatchError

/-! ## Forms for diagnostics -/

/-- An error that carries no chain, with its kind and its parts. -/
def DispatchError.describe : DispatchError → String
  | unresolved schemeName =>
      "UnresolvedScheme \x7b scheme_name: " ++ Text.quoted schemeName ++ " \x7d"
  | relative locator =>
      "RelativeLocator \x7b locator: " ++ Text.quoted locator ++ " \x7d"
  | invalidLocator cause => "InvalidLocator(" ++ cause.describe ++ ")"
  | error => error.message

/-- A lookup failure with its parts. -/
def LookupFailure.describe
    (failure : LookupFailure) : String :=
  "LookupError \x7b scheme_name: " ++ Text.quoted failure.schemeName ++
    ", reason: " ++ Text.quoted failure.reason ++ " \x7d"

/-- A construction failure that carries no chain, with its kind and its parts. -/
def ConstructionFailure.describe : ConstructionFailure → String
  | abstract typeName =>
      "Abstract \x7b type_name: " ++ Text.quoted typeName ++ " \x7d"
  | failure => failure.message

end Dispatch
