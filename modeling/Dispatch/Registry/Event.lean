import Dispatch.Failure

namespace Dispatch

/-!
# Diagnostic events

What a registry, its type table and the logger report about themselves.  An
event is a fact of its own; its level, its target, its message and its fields
follow from it.
-/

/-- The severity of an event, most severe first. -/
inductive Level
  | error
  | warn
  | info
  | debug
  | trace
deriving Repr, DecidableEq

/-- The position of a level: the more severe, the smaller. -/
def Level.rank : Level → Nat
  | error => 1
  | warn => 2
  | info => 3
  | debug => 4
  | trace => 5

/-- The name of a level. -/
def Level.name : Level → String
  | error => "ERROR"
  | warn => "WARN"
  | info => "INFO"
  | debug => "DEBUG"
  | trace => "TRACE"

/-- A named part of an event, with the way plain lines show it. -/
inductive EventField
  /-- A boolean. -/
  | flag (value : Bool)
  /-- A text shown as it is. -/
  | bare (value : String)
  /-- A text shown in quotes. -/
  | quoted (value : String)
deriving Repr, DecidableEq

/-- A diagnostic event. -/
inductive Event
  /-- A registry was created. -/
  | creating (strict : Bool)
  /-- A descriptor was bound to a scheme name. -/
  | binding (schemeName typeName : String)
  /-- A resolve call found its scheme in the cache. -/
  | cacheHit (schemeName : String)
  /-- A resolve call found no descriptor bound to its name. -/
  | unbound (schemeName : String)
  /-- A resolve call could not learn what is bound to its name. -/
  | lookupFailed (schemeName : String) (failure : LookupFailure)
  /-- A resolve call could not build a handler from the descriptor. -/
  | constructionFailed (schemeName : String) (failure : ConstructionFailure)
  /--
  A resolve call dropped its handler because another one was published meanwhile.
  -/
  | duplicateDiscarded (schemeName : String)
  /-- An operation on a registry was logged. -/
  | operation (name schemeName status : String) (details : Option String)
  /-- The logger found that another one receives the events. -/
  | loggerAlreadyInstalled
  /-- The logger was set up. -/
  | loggingInitialised (logLevel : String) (json : Bool)
deriving Repr, DecidableEq

namespace Event

/-- A handler was put into the cache. -/
@[match_pattern] def published
    (schemeName : String) : Event :=
  operation "publish" schemeName "published" none

/-- The severity of an event. -/
def level : Event → Level
  | lookupFailed _ _ => .warn
  | constructionFailed _ _ => .warn
  | operation _ _ _ _ => .info
  | loggingInitialised _ _ => .info
  | _ => .debug

/-- The component that reports the event. -/
def target : Event → String
  | binding _ _ => "scheme_registry::registry::handler_type"
  | operation _ _ _ _ => "scheme_registry::logging"
  | loggerAlreadyInstalled => "scheme_registry::logging"
  | loggingInitialised _ _ => "scheme_registry::logging"
  | _ => "scheme_registry::registry::scheme_registry"

/-- The fixed text of an event. -/
def message : Event → String
  | creating _ => "Creating SchemeRegistry"
  | binding _ _ => "Binding scheme handler type"
  | cacheHit _ => "Returning cached scheme handler"
  | unbound _ => "No handler type bound to scheme"
  | lookupFailed _ _ => "Handler type lookup failed"
  | constructionFailed _ _ => "Scheme handler construction failed"
  | duplicateDiscarded _ => "Discarding duplicate scheme handler, already published"
  | operation _ _ _ _ => "REGISTRY_OPERATION"
  | loggerAlreadyInstalled =>
      "Global tracing subscriber already initialized - continuing"
  | loggingInitialised _ _ => "Structured logging initialized"

/-- The named parts of an event, in the order in which lines show them. -/
def fields : Event → List (String × EventField)
  | creating strict => [("strict", .flag strict)]
  | binding schemeName typeName =>
      [("scheme_name", .bare schemeName), ("type_name", .bare typeName)]
  | cacheHit schemeName => [("scheme_name", .quoted schemeName)]
  | unbound schemeName => [("scheme_name", .quoted schemeName)]
  | lookupFailed schemeName failure =>
      [("scheme_name", .quoted schemeName), ("error", .bare failure.message)]
  | constructionFailed schemeName failure =>
      [("scheme_name", .quoted schemeName), ("error", .bare failure.message)]
  | duplicateDiscarded schemeName => [("scheme_name", .quoted schemeName)]
  | operation name schemeName status details =>
      [("operation", .bare name), ("scheme_name", .bare schemeName),
        ("status", .bare status)] ++
        (details.toList.map fun text => ("details", .quoted text))
  | loggerAlreadyInstalled => []
  | loggingInitialised logLevel json =>
      [("log_level", .bare logLevel), ("json", .flag json)]

/-- An operation is logged with its time, which follows the fields. -/
def isTimed : Event → Bool
  | operation _ _ _ _ => true
  | _ => false

/--
The names of all parts of an event: its text, its fields, and those that lines
leave out because they are empty or hold the time.
-/
def fieldNames
    (event : Event) : List String :=
  match event with
  | operation _ _ _ _ =>
      ["message", "operation", "scheme_name", "status", "details", "timestamp"]
  | _ => "message" :: event.fields.map Prod.fst

end Event

end Dispatch
