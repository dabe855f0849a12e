import Dispatch.Registry.Event
import Dispatch.Text.Quoted
import Dispatch.Value

namespace Dispatch.Log

/-!
# Log lines

An event is written as plain text or as an object.  Plain text takes one line
unless a field holds line breaks.  Lines are given without what differs between
runs, which is the time in front of the text, and without colours.
-/

/-- A line of log output. -/
inductive Line
  | plain (text : String)
  | object (value : Value)

/-- A field in a plain line. -/
def fieldText
    (name : String) :
    EventField → String
  | .flag value => name ++ "=" ++ toString value
  | .bare value => name ++ "=" ++ value
  | .quoted value => name ++ "=" ++ Text.quoted value

/-- A field in an object. -/
def fieldValue : EventField → Value
  | .flag value => .boolean value
  | .bare value => .string value
  | .quoted value => .string value

/-! ## Plain lines -/

/--
The text of an event, in front of which its time stands.  A second time may
follow; only the name of its field is given.
-/
def plainText
    (event : Event) : String :=
  String.intercalate " "
    ([event.level.name, event.target ++ ":", event.message] ++
      (event.fields.map fun (name, field) => fieldText name field) ++
      if event.isTimed then ["timestamp="] else [])

/--
Leaves codes that set colours out: an escape character, a bracket, numbers with
semicolons, and an `m`.  The part of a code that has been read is `held`, in
reverse.
-/
def withoutColours
    (held : List Char) : List Char → List Char
  | [] =>
      held.reverse
  | character :: rest =>
      let continues :=
        match held with
        | [] => false
        | [_] => character == '['
        | _ => character.isDigit || character == ';'
      if continues then
        withoutColours (character :: held) rest
      else if character = 'm' ∧ 2 ≤ held.length then
        withoutColours [] rest
      else if character = '\x1b' then
        held.reverse ++ withoutColours ['\x1b'] rest
      else
        held.reverse ++ character :: withoutColours [] rest

/-- A word names a thread or a time. -/
def namesOccasion
    (word : List Char) : Bool :=
  "ThreadId(".toList.isPrefixOf word || "timestamp=".toList.isPrefixOf word

/--
The words of a line, which spaces separate.  What stands before the first space
is the time of the event and no word, even where a line continues a field.
-/
def wordsOf
    (line : List Char) : List (List Char) :=
  ((line.splitOn ' ').drop 1).filter fun word =>
    !word.isEmpty && !namesOccasion word

/-- The lines of a text; a return before a line break belongs to the break. -/
def linesOf
    (text : List Char) : List (List Char) :=
  (text.splitOn '\n').map fun line =>
    if line.getLast? = some '\r' then line.dropLast else line

/-- The plain lines of an event, with single spaces between words. -/
def plainLines
    (event : Event) : List String :=
  (linesOf (' ' :: (plainText event).toList)).map fun line =>
    String.intercalate " " ((wordsOf (withoutColours [] line)).map String.ofList)

example : wordsOf " a  b".toList = ["a".toList, "b".toList] ∧
    wordsOf "a b".toList = ["b".toList] ∧ wordsOf "a".toList = [] := by
  decide +kernel

example : withoutColours [] "\x1b[1;31ma\x1b[mb".toList = "ab".toList ∧
    withoutColours [] "\x1b[1\x1bm".toList = "\x1b[1\x1bm".toList := by
  decide +kernel

/-! ## Objects -/

/-- The object of an event. -/
def objectOf
    (event : Event) : Value :=
  .object
    [("level", .string event.level.name),
      ("target", .string event.target),
      ("fields",
        .object
          (("message", .string event.message) ::
            event.fields.map fun (name, field) => (name, fieldValue field)))]

/-- The lines of an event in either format. -/
def Line.ofEvent
    (json : Bool)
    (event : Event) : List Line :=
  if json then [.object (objectOf event)] else (plainLines event).map Line.plain

end Dispatch.Log
