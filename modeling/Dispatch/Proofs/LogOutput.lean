import Mathlib
import Dispatch.Log.Logger

namespace Dispatch.Log

/-!
# What decides the log output

A process asks for logging any number of times, and afterwards a registry reports
events.  Of the requests only the first one counts.  Which events are printed is
decided by one filter: that of the environment if it is a valid one, whatever the
settings say, and otherwise that of the log level, whatever the environment says.
The format plays no part in it.

An event counts as printed if writing it leaves lines, so what is said of printed
events is said of the output.
-/

namespace Logging

/-- Writing the event leaves lines. -/
def prints
    (logging : Logging)
    (event : Event) : Bool :=
  !(logging.write [event]).isEmpty

/-- The events that leave lines, in the order in which they were reported. -/
def printed
    (logging : Logging)
    (events : List Event) : List Event :=
  events.filter logging.prints

/--
Logging after requests to set it up, in a process that has no other receiver of
events.
-/
def requested
    (environment : Option String)
    (requests : List Settings) : Logging :=
  ((start environment false).initialiseAll requests).1

end Logging

/-- The environment holds a text in which every directive is valid. -/
def Prescribes
    (environment : Option String)
    (filter : Filter) : Prop :=
  ∃ text, environment = some text ∧ Filter.parse? text = some filter

/-- The environment holds no text, or one with a directive that is not valid. -/
def PrescribesNothing
    (environment : Option String) : Prop :=
  ∀ text, environment = some text → Filter.parse? text = none

/-! ## Lines of an event -/

/--
Every event leaves a line in either format, also one whose fields hold line breaks
only.
-/
theorem Line.ofEvent_ne_nil
    (json : Bool)
    (event : Event) :
    Line.ofEvent json event ≠ [] := by
  cases json with
  | true =>
      simp [Line.ofEvent]
  | false =>
      simp [Line.ofEvent, plainLines, linesOf, List.splitOn_ne_nil]

namespace Logger

/-- The lines of an event that is let through, and none of any other. -/
theorem write_singleton
    (logger : Logger)
    (event : Event) :
    logger.write [event] =
      if logger.filter.passes event then Line.ofEvent logger.json event else [] := by
  cases passes : logger.filter.passes event <;> simp [write, kept, passes]

variable {environment : Option String} {filter : Filter}

/-- A valid filter of the environment is the one that counts. -/
theorem filterFor_of_prescribes
    (prescribes : Prescribes environment filter)
    (settings : Settings) :
    filterFor environment settings = filter := by
  obtain ⟨text, rfl, isValid⟩ := prescribes
  simp [filterFor, isValid]

/-- Where the environment has none, the log level is read. -/
theorem filterFor_of_prescribesNothing
    (nothing : PrescribesNothing environment)
    (settings : Settings) :
    filterFor environment settings = Filter.parseValid settings.logLevel := by
  cases environment with
  | none =>
      rfl
  | some text =>
      simp [filterFor, nothing text rfl]

end Logger

/-! ## Printed events -/

namespace Logging

/-- The first request fixes filter and format. -/
theorem requested_cons
    (environment : Option String)
    (first : Settings)
    (later : List Settings) :
    requested environment (first :: later) =
      ⟨environment, false, true, some (Logger.create environment first)⟩ := by
  rw [requested, initialiseAll_cons]
  rfl

/-- An event is printed exactly if the filter lets it through. -/
theorem prints_requested
    (environment : Option String)
    (first : Settings)
    (later : List Settings) :
    (requested environment (first :: later)).prints =
      (Logger.filterFor environment first).passes := by
  funext event
  simp only [requested_cons, prints, write, Logger.write_singleton, Logger.create]
  cases (Logger.filterFor environment first).passes event <;>
    simp [Line.ofEvent_ne_nil]

/-- So the filter decides about a sequence of events. -/
theorem printed_requested
    (environment : Option String)
    (first : Settings)
    (later : List Settings)
    (events : List Event) :
    (requested environment (first :: later)).printed events =
      events.filter (Logger.filterFor environment first).passes := by
  rw [printed, prints_requested]

variable {environment : Option String} {filter : Filter}

/-- A valid filter of the environment decides, whatever the settings. -/
theorem printed_of_prescribes
    (prescribes : Prescribes environment filter)
    (first : Settings)
    (later : List Settings)
    (events : List Event) :
    (requested environment (first :: later)).printed events =
      events.filter filter.passes := by
  rw [printed_requested, Logger.filterFor_of_prescribes prescribes]

/-- Otherwise the level of the first request decides, whatever the environment. -/
theorem printed_of_prescribesNothing
    (nothing : PrescribesNothing environment)
    (first : Settings)
    (later : List Settings)
    (events : List Event) :
    (requested environment (first :: later)).printed events =
      events.filter (Filter.parseValid first.logLevel).passes := by
  rw [printed_requested, Logger.filterFor_of_prescribesNothing nothing]

/--
The output is made up of the lines of the printed events, one event after the other.
-/
theorem write_requested
    (environment : Option String)
    (first : Settings)
    (later : List Settings)
    (events : List Event) :
    (requested environment (first :: later)).write events =
      ((requested environment (first :: later)).printed events).flatMap
        (Line.ofEvent first.logJson) := by
  rw [printed_requested, requested_cons]
  rfl

/--
What decides the log output of a process in which logging was requested at least
once, before a sequence of events.

* Requests after the first one change nothing, neither the state of logging nor
  what is reported about setting it up; the output is made up of the lines of the
  printed events, in the format that the first request asked for.
* If the environment holds a valid filter, that one decides what is printed, and
  with any other settings in the first request the same is printed.
* If it holds none, the log level of the first request decides, and the same is
  printed for any other environment without a valid filter and any other settings
  with that level.
* Asking for the other format does not change what is printed.
* What is printed is a subsequence of what was reported.
-/
theorem first_request_decides
    (environment : Option String)
    (first : Settings)
    (later : List Settings)
    (events : List Event) :
    let logging := requested environment (first :: later)
    (∀ others,
      (start environment false).initialiseAll (first :: others) =
        (start environment false).initialiseAll (first :: later)) ∧
    logging.write events =
      (logging.printed events).flatMap (Line.ofEvent first.logJson) ∧
    (∀ filter,
      Prescribes environment filter →
      logging.printed events = events.filter filter.passes ∧
      ∀ other others,
        (requested environment (other :: others)).printed events =
          logging.printed events) ∧
    (PrescribesNothing environment →
      logging.printed events =
        events.filter (Filter.parseValid first.logLevel).passes ∧
      ∀ otherEnvironment other others,
        PrescribesNothing otherEnvironment →
        other.logLevel = first.logLevel →
        (requested otherEnvironment (other :: others)).printed events =
          logging.printed events) ∧
    (∀ json others,
      (requested environment
        ({ first with logJson := json } :: others)).printed events =
        logging.printed events) ∧
    (logging.printed events).Sublist events := by
  intro logging
  refine ⟨?_, write_requested environment first later events, ?_, ?_, ?_,
    List.filter_sublist⟩
  · intro others
    rw [initialiseAll_cons, initialiseAll_cons]
  · intro filter prescribes
    have decided := printed_of_prescribes prescribes first later events
    refine ⟨decided, fun other others => ?_⟩
    rw [printed_of_prescribes prescribes, decided]
  · intro nothing
    have decided := printed_of_prescribesNothing nothing first later events
    refine ⟨decided, fun otherEnvironment other others otherNothing sameLevel => ?_⟩
    rw [printed_of_prescribesNothing otherNothing, sameLevel, decided]
  · intro json others
    rw [printed_requested, printed_requested]
    rfl

/-- A scheme is published and found, and another one cannot be looked up. -/
def briefing : List Event :=
  [.published "mem", .cacheHit "mem", .lookupFailed "disk" ⟨"disk", "gone"⟩]

/-- A level with a part that is no directive, and the object format. -/
def patchy : Settings :=
  ⟨true, "info,[", true⟩

theorem prescribes_warn :
    Prescribes (some "warn") [⟨none, none, none, some .warn⟩] :=
  ⟨_, rfl, by decide +kernel⟩

theorem prescribesNothing_loud :
    PrescribesNothing (some "scheme_registry=trace,x=loud") := by
  rintro text ⟨⟩
  decide +kernel

/--
A valid environment stands against any settings.  One bad directive makes the whole
environment count for nothing, while of the settings only the bad part is dropped;
a second request, the other format and a missing environment make no difference.
-/
theorem briefing_decided :
    Prescribes (some "warn") [⟨none, none, none, some .warn⟩] ∧
    PrescribesNothing (some "scheme_registry=trace,x=loud") ∧
    PrescribesNothing none ∧
    (requested (some "warn") [patchy]).printed briefing =
      [.lookupFailed "disk" ⟨"disk", "gone"⟩] ∧
    (requested (some "warn") [.default, patchy]).printed briefing =
      [.lookupFailed "disk" ⟨"disk", "gone"⟩] ∧
    (requested (some "scheme_registry=trace,x=loud")
      [patchy, .default]).printed briefing =
      [.published "mem", .lookupFailed "disk" ⟨"disk", "gone"⟩] ∧
    (requested none [⟨false, "info,[", false⟩]).printed briefing =
      [.published "mem", .lookupFailed "disk" ⟨"disk", "gone"⟩] := by
  have noEnvironment : PrescribesNothing none :=
    fun _ isText => nomatch isText
  obtain ⟨-, -, valid, -, -, -⟩ :=
    first_request_decides (some "warn") patchy [] briefing
  obtain ⟨-, -, -, invalid, -, -⟩ :=
    first_request_decides (some "scheme_registry=trace,x=loud") patchy
      [.default] briefing
  obtain ⟨byEnvironment, whateverSettings⟩ := valid _ prescribes_warn
  obtain ⟨byLevel, whateverEnvironment⟩ := invalid prescribesNothing_loud
  have onlyWarning :
      briefing.filter (Filter.passes [⟨none, none, none, some .warn⟩]) =
      [.lookupFailed "disk" ⟨"disk", "gone"⟩] := by
    decide +kernel
  have fromInfo : briefing.filter (Filter.parseValid patchy.logLevel).passes =
      [.published "mem", .lookupFailed "disk" ⟨"disk", "gone"⟩] := by
    decide +kernel
  rw [onlyWarning] at byEnvironment
  rw [fromInfo] at byLevel
  have without :=
    whateverEnvironment none ⟨false, "info,[", false⟩ [] noEnvironment rfl
  exact ⟨prescribes_warn, prescribesNothing_loud, noEnvironment, byEnvironment,
    (whateverSettings .default [patchy]).trans byEnvironment, byLevel,
    without.trans byLevel⟩

end Logging

end Dispatch.Log
