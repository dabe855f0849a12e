import Dispatch.Error
import Dispatch.Settings.Basic
import Dispatch.Value

namespace Dispatch

/-!
# Constructors and handlers as programs

Constructors and handlers are code that the registry runs, and that code may
call the registry again.  It is written down as a `Script`: a tree with one
node for each thing such code can do, whose branches say how it goes on for
each answer.  A script always ends, in a result or in a failure; how deep calls
nest is a matter of running it.

A handler answers a request knowing all requests it was given before, so any
state that it keeps is a function of them.  A factory knows how often it has
been run before.
-/

/-- What a script is run for: to build a handler or to answer a request. -/
inductive Role
  | construct
  | serve
deriving Repr, DecidableEq

/--
A published handler as its users hold it.  The number tells handlers apart, the
name is the one under which the handler was built.
-/
structure Handle where
  schemeName : String
  instanceId : Nat
deriving Repr, DecidableEq

namespace Handle

/-- The text form of a handle is its scheme name. -/
def text
    (handle : Handle) : String :=
  handle.schemeName

/-- A handle is displayed as its text form. -/
instance : ToString Handle where
  toString := text

/-- A handle with its name, for diagnostics. -/
def describe
    (handle : Handle) : String :=
  "Scheme \x7b scheme_name: " ++ Text.quoted handle.schemeName ++ ", .. \x7d"

end Handle

/--
What a handler is asked: a locator, and the value that relative parts refer to.
-/
structure Request where
  locator : Locator
  base : Option Value

/-- The answer to resolving a name: a handle, no handle, or an error. -/
abbrev Resolution := Except DispatchError (Option Handle)

/-- What can be seen of a descriptor without running it. -/
structure TypeSummary where
  typeName : String
  isAbstract : Bool
deriving Repr, DecidableEq

/-- A summary with its parts, for diagnostics. -/
def TypeSummary.describe
    (summary : TypeSummary) : String :=
  "HandlerType \x7b type_name: " ++ Text.quoted summary.typeName ++
    ", abstract: " ++ toString summary.isAbstract ++ " \x7d"

/-- A remark that a script leaves about something it has done. -/
inductive Note
  | resolved (name : String) (answer : Resolution)
  | fetched (answer : Except DispatchError Value)
  | registered (name : String) (previous : Option TypeSummary)
  | unregistered (name : String) (removed : Option TypeSummary)

mutual

/-- Code that the registry runs. -/
inductive Script : Role → Type
  /-- Ends with a built handler. -/
  | build (handler : Handler) : Script .construct
  /-- Ends with the value that was asked for. -/
  | answer (value : Value) : Script .serve
  /-- Ends with a failure. -/
  | fail {role : Role} (failure : Failure) : Script role
  /-- Resolves a name in the registry that runs the script. -/
  | resolve {role : Role} (name : String) (strict : Bool)
      (next : Resolution → Script role) : Script role
  /-- Passes a request to a handler. -/
  | call {role : Role} (handle : Handle) (request : Request)
      (next : Except Failure Value → Script role) : Script role
  /-- Reads the settings of the registry that runs the script. -/
  | readSettings {role : Role} (next : Settings → Script role) : Script role
  /-- Binds a descriptor to a name. -/
  | register {role : Role} (name : String) (descriptor : Descriptor)
      (next : Option TypeSummary → Script role) : Script role
  /-- Removes what is bound to a name. -/
  | unregister {role : Role} (name : String)
      (next : Option TypeSummary → Script role) : Script role
  /-- Leaves a remark. -/
  | note {role : Role} (remark : Note) (next : Script role) : Script role

/-- A handler, as its response to a request after all earlier ones. -/
inductive Handler
  | mk (respond : List Request → Request → Script .serve)

/-- What handlers of one type are built from. -/
inductive Descriptor
  /-- A type that has no constructor. -/
  | abstract (typeName : String)
  /-- A type whose constructor always gives the same fresh handler. -/
  | plain (typeName : String) (handler : Handler)
  /-- A type whose constructor knows how often it has been run before. -/
  | factory (typeName : String) (make : Nat → Script .construct)

end

/-- What a script of each role ends with. -/
def Role.Product : Role → Type
  | .construct => Handler
  | .serve => Value

/-- The response to a request after all earlier ones. -/
def Handler.respond : Handler → List Request → Request → Script .serve
  | mk respond => respond

namespace Descriptor

/-- The name of the type. -/
def typeName : Descriptor → String
  | abstract typeName => typeName
  | plain typeName _ => typeName
  | factory typeName _ => typeName

/-- The type has no constructor. -/
def isAbstract : Descriptor → Bool
  | abstract _ => true
  | _ => false

/-- What can be seen of the descriptor. -/
def summary
    (descriptor : Descriptor) : TypeSummary :=
  ⟨descriptor.typeName, descriptor.isAbstract⟩

end Descriptor

namespace Resolution

/-- Having no handle is an error only for a strict caller. -/
def ofHandle?
    (name : String)
    (strict : Bool) : Option Handle → Resolution
  | some handle => .ok (some handle)
  | none => if strict then .error (.unresolved name) else .ok none

/-- No handle at all is an error. -/
def required
    (name : String) : Resolution → Except DispatchError Handle
  | .ok (some handle) => .ok handle
  | .ok none => .error (.unresolved name)
  | .error error => .error error

/-- An error counts as no handle. -/
def orNone : Resolution → Option Handle
  | .ok handle => handle
  | .error _ => none

end Resolution

namespace Script

/-- Resolves a name and goes on with the handle, or with the error of having none. -/
def resolveStrict
    {role : Role}
    (name : String)
    (next : Except DispatchError Handle → Script role) : Script role :=
  .resolve name true fun answer => next (answer.required name)

/-- Resolves a name and goes on with the handle, if there is one. -/
def resolveOrNone
    {role : Role}
    (name : String)
    (next : Option Handle → Script role) : Script role :=
  .resolve name false fun answer => next answer.orNone

/-- Resolves a name as strictly as the registry is configured. -/
def find
    {role : Role}
    (name : String)
    (next : Resolution → Script role) : Script role :=
  .readSettings fun settings => .resolve name settings.strict next

/-- Resolves a locator to a value. -/
def get
    {role : Role}
    (locator : Locator)
    (base : Option Value)
    (next : Except DispatchError Value → Script role) : Script role :=
  match locator.scheme with
  | none =>
      next (.error (.relative locator.text))
  | some name =>
      .resolveStrict name fun answer =>
        match answer with
        | .error error =>
            next (.error error)
        | .ok handle =>
            .call handle ⟨locator, base⟩ fun outcome =>
              next (outcome.mapError fun cause =>
                .handlerFailed name locator.text cause)

end Script

end Dispatch
