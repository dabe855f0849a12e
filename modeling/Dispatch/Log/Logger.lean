import Dispatch.Log.Filter
import Dispatch.Log.Line
import Dispatch.Settings.Basic

namespace Dispatch.Log

/-!
# The logger of a process

The logger is set up once; later requests to set it up do nothing.  It takes its
filter from the environment if there is a valid one, and from the settings
otherwise.  Where the process already has a receiver of events, that one stays
and the logger writes nothing.
-/

/-- What writes events as lines. -/
structure Logger where
  filter : Filter
  json : Bool
deriving Repr, DecidableEq

namespace Logger

/-- The filter of the environment, or else that of the settings. -/
def filterFor
    (environment : Option String)
    (settings : Settings) : Filter :=
  (environment.bind Filter.parse?).getD (Filter.parseValid settings.logLevel)

/-- The logger that settings ask for. -/
def create
    (environment : Option String)
    (settings : Settings) : Logger :=
  ⟨filterFor environment settings, settings.logJson⟩

/-- The events that are let through. -/
def kept
    (logger : Logger)
    (events : List Event) : List Event :=
  events.filter logger.filter.passes

/-- The lines that are written for events. -/
def write
    (logger : Logger)
    (events : List Event) : List Line :=
  (logger.kept events).flatMap (Line.ofEvent logger.json)

end Logger

/-- The state of logging in a process. -/
structure Logging where
  environment : Option String
  hasOtherReceiver : Bool
  isSetUp : Bool
  logger : Option Logger
deriving Repr, DecidableEq

namespace Logging

/-- Logging before it is set up. -/
def start
    (environment : Option String)
    (hasOtherReceiver : Bool) : Logging :=
  ⟨environment, hasOtherReceiver, false, none⟩

/-- Sets logging up, unless that has been done; answers the events of doing so. -/
def initialise
    (logging : Logging)
    (settings : Settings) : Logging × List Event :=
  if logging.isSetUp then
    (logging, [])
  else
    let done := Event.loggingInitialised settings.logLevel settings.logJson
    if logging.hasOtherReceiver then
      ({ logging with isSetUp := true }, [.loggerAlreadyInstalled, done])
    else
      ({ logging with
          isSetUp := true
          logger := some (Logger.create logging.environment settings) },
        [done])

/-- Sets logging up several times; answers the events of doing so. -/
def initialiseAll
    (logging : Logging) :
    List Settings → Logging × List Event
  | [] =>
      (logging, [])
  | settings :: rest =>
      let (next, events) := logging.initialise settings
      let (last, more) := next.initialiseAll rest
      (last, events ++ more)

/-- The lines that are written for events. -/
def write
    (logging : Logging)
    (events : List Event) : List Line :=
  match logging.logger with
  | some logger => logger.write events
  | none => []

/-- Once logging is set up, a request to do so changes nothing. -/
theorem initialise_of_isSetUp
    {logging : Logging}
    (isSetUp : logging.isSetUp = true)
    (settings : Settings) :
    logging.initialise settings = (logging, []) := by
  rw [initialise, if_pos isSetUp]

/-- Neither does any number of requests. -/
theorem initialiseAll_of_isSetUp
    {logging : Logging}
    (isSetUp : logging.isSetUp = true)
    (requests : List Settings) :
    logging.initialiseAll requests = (logging, []) := by
  induction requests with
  | nil =>
      rfl
  | cons settings rest inductionHypothesis =>
      simp [initialiseAll, initialise_of_isSetUp isSetUp, inductionHypothesis]

/-- Every request leaves logging set up. -/
theorem isSetUp_initialise
    (logging : Logging)
    (settings : Settings) :
    (logging.initialise settings).1.isSetUp = true := by
  rw [initialise]
  split
  · assumption
  · split <;> rfl

/-- Of several requests to set logging up only the first has an effect. -/
theorem initialiseAll_cons
    (logging : Logging)
    (settings : Settings)
    (rest : List Settings) :
    logging.initialiseAll (settings :: rest) = logging.initialise settings := by
  simp [initialiseAll,
    initialiseAll_of_isSetUp (isSetUp_initialise logging settings)]

end Logging

end Dispatch.Log
