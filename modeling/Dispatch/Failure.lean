namespace Dispatch

/-!
# Failures of handlers and constructors

A failure is a chain of messages: what went wrong, why, why that, and so on.
The outermost message is what a reader sees first.
-/

/-- A failure with the chain of its causes, outermost first. -/
structure Failure where
  message : String
  causes : List String
deriving Repr, DecidableEq, Inhabited

namespace Failure

/-- The failure with the given chain; an empty chain is one empty message. -/
def ofChain : List String → Failure
  | [] => ⟨"", []⟩
  | message :: causes => ⟨message, causes⟩

/-- All messages of a failure, outermost first. -/
def chain
    (failure : Failure) : List String :=
  failure.message :: failure.causes

/-- A failure without further causes. -/
def single
    (message : String) : Failure :=
  ⟨message, []⟩

end Failure

/-- A resolver that cannot say what is bound to a scheme name. -/
structure LookupFailure where
  schemeName : String
  reason : String
deriving Repr, DecidableEq

/-- The text of a lookup failure. -/
def LookupFailure.message
    (failure : LookupFailure) : String :=
  "Handler type lookup failed for '" ++ failure.schemeName ++ "': " ++ failure.reason

/-- A handler that cannot be built from its descriptor. -/
inductive ConstructionFailure
  | abstract (typeName : String)
  | failed (typeName : String) (cause : Failure)
deriving Repr, DecidableEq

namespace ConstructionFailure

/-- The type that was to be built. -/
def typeName : ConstructionFailure → String
  | abstract typeName => typeName
  | failed typeName _ => typeName

/-- The text of a construction failure. -/
def message : ConstructionFailure → String
  | abstract typeName => typeName ++ " is abstract"
  | failed typeName cause => typeName ++ " failed to construct: " ++ cause.message

/-- The messages behind a construction failure. -/
def sources : ConstructionFailure → List String
  | abstract _ => []
  | failed _ cause => cause.chain

end ConstructionFailure

end Dispatch
