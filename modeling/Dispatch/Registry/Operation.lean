import Dispatch.Registry.Run

namespace Dispatch

/-!
# Operations

What users of a registry do to it, to its type table and to its resolver, each
written down as a value.  A history is a list of operations; performing it in a
world gives the list of its answers and the world afterwards.
-/

/-- One thing that a user does. -/
inductive Operation
  /-- Resolves a name, as strictly as said. -/
  | resolve (name : String) (strict : Bool)
  /-- Resolves a name; having no handle is an error. -/
  | resolveStrict (name : String)
  /-- Resolves a name; having no handle is no error. -/
  | resolveOrNone (name : String)
  /-- Resolves a name as strictly as the registry is configured. -/
  | find (name : String)
  /-- Resolves a locator to a value. -/
  | get (locator : Locator) (base : Option Value)
  /-- Passes a request to a handler that was obtained earlier. -/
  | serve (handle : Handle) (request : Request)
  /-- Binds a descriptor to a name. -/
  | register (name : String) (descriptor : Descriptor)
  /-- Removes what is bound to a name. -/
  | unregister (name : String)
  /-- Arranges that lookups of a name fail. -/
  | breakLookup (name reason : String)
  /-- Lookups of a name work again. -/
  | healLookup (name : String)

/-- What an operation answers. -/
inductive Answer
  /-- A handle, no handle, or an error. -/
  | resolution (outcome : Resolution)
  /-- A handle or an error. -/
  | required (outcome : Except DispatchError Handle)
  /-- A handle or none. -/
  | optional (handle : Option Handle)
  /-- What a locator resolves to. -/
  | value (outcome : Except DispatchError Value)
  /-- What a handler answers. -/
  | served (outcome : Except Failure Value)
  /-- What was bound to a name before. -/
  | binding (previous : Option Binding)
  /-- Nothing but that it has been done. -/
  | done

namespace Answer

/-- The handle that an answer gives, if it is about one. -/
def handle? : Answer → Option Handle
  | resolution (.ok handle) => handle
  | required (.ok handle) => some handle
  | optional handle => handle
  | _ => none

end Answer

namespace Operation

/-- The name that an operation resolves, if it resolves one. -/
def resolves? : Operation → Option String
  | resolve name _ => some name
  | resolveStrict name => some name
  | resolveOrNone name => some name
  | find name => some name
  | get locator _ => locator.scheme
  | _ => none

/-- Performs an operation. -/
def perform
    (operation : Operation)
    (calls : Calls) : Run Answer :=
  match operation with
  | resolve name strict =>
      .resolution <$> calls.resolve name strict
  | resolveStrict name =>
      .required <$> calls.resolveStrict name
  | resolveOrNone name =>
      .optional <$> calls.resolveOrNone name
  | find name =>
      .resolution <$> calls.find name
  | get locator base =>
      .value <$> calls.get locator base
  | serve handle request =>
      .served <$> calls.serve handle.instanceId request
  | register name descriptor =>
      .binding <$> Run.step fun world => world.register name descriptor
  | unregister name =>
      .binding <$> Run.step fun world => world.unregister name
  | breakLookup name reason =>
      Run.step fun world => (.done, world.breakLookup name reason)
  | healLookup name =>
      Run.step fun world => (.done, world.healLookup name)

/-- Performs the operations of a history one after another. -/
def performAll
    (calls : Calls) :
    List Operation → Run (List Answer)
  | [] =>
      pure []
  | operation :: rest => do
      let answer ← operation.perform calls
      let answers ← performAll calls rest
      return answer :: answers

end Operation

end Dispatch
