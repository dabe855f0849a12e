import Dispatch.Registry.Script

namespace Dispatch

/-!
# Stock handlers

Handlers and factories for everyday use: handlers that repeat, raise, count or
look up what they are asked for, and factories that fail a number of times or
call the registry before they build.
-/

namespace Handler

/-- A handler whose response depends on the request alone. -/
def ofRequest
    (respond : Request → Script .serve) : Handler :=
  .mk fun _ request => respond request

/-- Answers null. -/
def null : Handler :=
  ofRequest fun _ => .answer .null

/-- Answers what it was asked for. -/
def echo : Handler :=
  ofRequest fun request =>
    .answer (.object
      [("handler", .string "echo"),
        ("scheme", Value.ofString? request.locator.scheme),
        ("body", .string request.locator.body),
        ("has_base", .boolean request.base.isSome),
        ("base", request.base.getD .null)])

/-- Answers the body in capitals. -/
def shout : Handler :=
  ofRequest fun request =>
    .answer (.object
      [("handler", .string "shout"),
        ("body", .string (Text.upperAscii request.locator.body))])

/-- Answers how many requests it has been given, this one included. -/
def tally : Handler :=
  .mk fun earlier _ => .answer (.integer (earlier.length + 1 : Nat))

/-- Answers the number it was built with. -/
def tagged
    (index : Nat) : Handler :=
  ofRequest fun request =>
    .answer (.object
      [("handler", .string "tagged"),
        ("index", .integer index),
        ("body", .string request.locator.body)])

/-- Fails with the body in its message. -/
def unable : Handler :=
  ofRequest fun request =>
    .fail (Failure.single ("cannot resolve " ++ request.locator.body))

/-- Fails with the same failure every time. -/
def failing
    (failure : Failure) : Handler :=
  ofRequest fun _ => .fail failure

/-- The key of a body that refers to the base. -/
def relativeKey?
    (body : String) : Option String :=
  match body.toList with
  | '.' :: '/' :: key => some (String.ofList key)
  | _ => none

/-- Looks a body up in a store, or in the base if it starts with `./`. -/
def store
    (entries : Association Value) : Handler :=
  ofRequest fun request =>
    let body := request.locator.body
    match relativeKey? body with
    | some key =>
        match request.base with
        | none =>
            .fail (Failure.single ("relative key " ++ key ++ " without base"))
        | some base =>
            match base.member? key with
            | some value => .answer value
            | none => .fail (Failure.single ("key " ++ key ++ " not in base"))
    | none =>
        match Association.find? body entries with
        | some value => .answer value
        | none => .fail (Failure.single ("no entry for " ++ body))

/-- Passes every request on to another handler. -/
def forwarding
    (handle : Handle) : Handler :=
  ofRequest fun request =>
    .call handle request fun
      | .ok value => .answer value
      | .error failure => .fail failure

end Handler

/-- A call that a factory makes before it builds. -/
inductive Effect
  | resolve (name : String) (strict : Bool)
  | get (locator : String)
  | register (name : String) (descriptor : Descriptor)
  | unregister (name : String)

/-- Makes the call, leaves a remark on how it ended, and goes on. -/
def Effect.before
    (effect : Effect)
    (next : Script .construct) : Script .construct :=
  match effect with
  | .resolve name strict =>
      .resolve name strict fun answer =>
        .note (.resolved name answer) next
  | .get text =>
      match Locator.parse text with
      | .error cause =>
          .note (.fetched (.error (.invalidLocator cause))) next
      | .ok locator =>
          Script.get locator none fun answer =>
            .note (.fetched answer) next
  | .register name descriptor =>
      .register name descriptor fun previous =>
        .note (.registered name previous) next
  | .unregister name =>
      .unregister name fun removed =>
        .note (.unregistered name removed) next

/--
A construction that first obtains an inner scheme and then builds a handler that
forwards to it.  A strict one fails with the error of having none, the other
one with a message of its own.
-/
def Script.forwardingTo
    (name : String)
    (strict : Bool) : Script .construct :=
  if strict then
    .resolveStrict name fun
      | .ok handle => .build (.forwarding handle)
      | .error error => .fail error.toFailure
  else
    .resolveOrNone name fun
      | some handle => .build (.forwarding handle)
      | none => .fail (Failure.single ("no inner " ++ name))

/-- A factory with effects on its first runs, and with failures on its first runs. -/
structure Blueprint where
  effects : List Effect
  effectsLimit : Nat
  failFirst : Nat
  failure : Failure
  product : Nat → Script .construct

/-- The script of the run with the given number. -/
def Blueprint.make
    (blueprint : Blueprint)
    (index : Nat) : Script .construct :=
  let outcome :=
    if index < blueprint.failFirst then
      .fail blueprint.failure
    else
      blueprint.product index
  if index < blueprint.effectsLimit then
    blueprint.effects.foldr Effect.before outcome
  else
    outcome

end Dispatch
