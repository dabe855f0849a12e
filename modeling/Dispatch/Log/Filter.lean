import Dispatch.Log.Directive

namespace Dispatch.Log

/-!
# Filters of log output

A filter is a list of directives.  Of those that apply to an event the most
specific one decides whether it is let through, and of equally specific ones the
last.  An event that none applies to is dropped.
-/

/-- A filter. -/
abbrev Filter := List Directive

/-! ## Texts of filters -/

/-- The parts of a filter text between commas that are not empty. -/
def parts
    (text : String) : List (List Char) :=
  (text.toList.splitOn ',').filter fun part => !part.isEmpty

/-- A filter without directives lets errors through. -/
def orErrors
    (directives : List Directive) : Filter :=
  if directives.isEmpty then [⟨none, none, none, some .error⟩] else directives

/-- The filter of a text in which every directive is valid. -/
def Filter.parse?
    (text : String) : Option Filter :=
  ((parts text).mapM Directive.ofCharacters?).map orErrors

/-- The filter of the valid directives of a text. -/
def Filter.parseValid
    (text : String) : Filter :=
  orErrors ((parts text).filterMap Directive.ofCharacters?)

/-! ## Decisions -/

/-- The directive that decides about an event. -/
def Filter.deciding?
    (filter : Filter)
    (event : Event) : Option Directive :=
  (filter.filter fun directive => directive.applies event).foldl
    (fun best directive =>
      match best with
      | none => some directive
      | some other => if other.yieldsTo directive then some directive else best)
    none

/-- An event is let through. -/
def Filter.passes
    (filter : Filter)
    (event : Event) : Bool :=
  match filter.deciding? event with
  | some directive => admits directive.threshold event.level
  | none => false

end Dispatch.Log
