import Dispatch.Document.Json
import Dispatch.Text.CodeRanges

namespace Dispatch.Ini

/-!
# Reading INI files

A document of lines `key = value` or `key : value`, some of them below a
`[section]` line, and of comments that begin in the first column of a line.
Every value is a string.  The keys before the first section are members of the
document, and each section is an object.

A backslash escapes in keys, sections and values; a value may begin with a part
in quotes, in which line ends are ordinary characters.  A key reaches up to the next
`=` or `:`, over line ends if need be.
-/

/-- A character, and whether it is the first one of its line. -/
abbrev Placed := Char × Bool

/-- Marks the first character of every line. -/
def place
    (first : Bool) :
    List Char → List Placed
  | [] => []
  | character :: rest => (character, first) :: place (character == '\n') rest

/--
The character that a backslash and one other character stand for; a line end stands
for nothing.
-/
def simpleEscape : Char → List Char
  | '0' => ['\x00']
  | 'a' => ['\x07']
  | 'b' => ['\x08']
  | 't' => ['\t']
  | 'r' => ['\r']
  | 'n' => ['\n']
  | '\n' => []
  | other => [other]

/--
The character of four places: hexadecimal digits, of which a plus may take the
first.
-/
def codeEscape?
    (places : List Char) : Option Char := do
  let digits :=
    match places with
    | '+' :: rest => rest
    | _ => places
  let code ← Json.hexValue? digits
  if Json.isSurrogate code then none else some (Char.ofNat code)

/--
Reads up to one of the given characters, which is left; `found` is reversed.
Whether the end of the text will do as well is for the caller to say.
-/
def textUntil
    (stops : List Char)
    (endStops : Bool)
    (found : List Char) :
    List Placed → Option (List Char × List Placed)
  | [] =>
      if endStops then some (found.reverse, []) else none
  | ('\\', first) :: rest =>
      if '\\' ∈ stops then
        some (found.reverse, ('\\', first) :: rest)
      else
        match rest with
        | ('x', _) :: (a, _) :: (b, _) :: (c, _) :: (d, _) :: rest' =>
            match codeEscape? [a, b, c, d] with
            | some character =>
                textUntil stops endStops (character :: found) rest'
            | none =>
                none
        | ('x', _) :: _ =>
            none
        | (escaped, _) :: rest' =>
            textUntil stops endStops (simpleEscape escaped ++ found) rest'
        | [] =>
            none
  | (character, first) :: rest =>
      if character ∈ stops then
        some (found.reverse, (character, first) :: rest)
      else
        textUntil stops endStops (character :: found) rest

/-- Drops blanks within a line. -/
def dropInlineBlanks
    (input : List Placed) : List Placed :=
  input.dropWhile fun (character, _) =>
    Text.isWhiteSpace character && character != '\n' && character != '\r'

/-- A text without white space around it. -/
def trimmed
    (characters : List Char) : String :=
  String.ofList (Text.trimWhiteSpace characters)

/-- Reads the rest of a line. -/
def restOfLine
    (input : List Placed) : Option (List Char × List Placed) :=
  textUntil ['\n', '\r'] true [] input

/-- Reads a part in quotes, if the text begins with one. -/
def quotedPart
    (input : List Placed) : Option (List Char × List Placed) :=
  match input with
  | [] =>
      some ([], [])
  | (quote, _) :: rest =>
      if quote = '"' ∨ quote = '\'' then
        (textUntil [quote] false [] rest).map fun (inside, afterInside) =>
          (inside, afterInside.drop 1)
      else
        some ([], input)

/--
Reads a value: a part in quotes, if it begins with one, then the rest of the
line.  White space around the whole is dropped, also inside the quotes.
-/
def value
    (input : List Placed) : Option (String × List Placed) := do
  let (inside, afterInside) ← quotedPart (dropInlineBlanks input)
  let (line, afterLine) ← restOfLine afterInside
  return (trimmed (inside ++ line), afterLine)

/-- The state of reading: members found, and the current section with its members. -/
structure Progress where
  members : Association Value
  current : Option (String × Association Value)
  key : String

namespace Progress

/-- Adds the current section to the members. -/
def close
    (progress : Progress) : Association Value :=
  match progress.current with
  | some (name, inside) => Association.set name (.object inside) progress.members
  | none => progress.members

/-- Begins a section; one of the same name is replaced. -/
def enter
    (progress : Progress)
    (name : String) : Progress :=
  ⟨progress.close, some (name, []), progress.key⟩

/-- Gives the current key its value. -/
def store
    (progress : Progress)
    (text : String) : Progress :=
  match progress.current with
  | some (name, inside) =>
      ⟨progress.members,
        some (name, Association.set progress.key (.string text) inside), ""⟩
  | none =>
      ⟨Association.set progress.key (.string text) progress.members, none, ""⟩

end Progress

/-- Reads a document up to its end.  `limit` bounds the number of its parts. -/
def read
    (progress : Progress) :
    (limit : Nat) → List Placed → Option Progress
  | 0, _ =>
      none
  | limit + 1, input =>
      match input.dropWhile fun (character, _) => Text.isWhiteSpace character with
      | [] =>
          some progress
      | (character, first) :: rest =>
          if character = ';' ∨ character = '#' then
            if first then
              read progress limit (rest.dropWhile fun (other, _) => other != '\n')
            else
              none
          else if character = '[' then do
            let (name, afterName) ← textUntil [']'] false [] rest
            read (progress.enter (trimmed name)) limit (afterName.drop 1)
          else if character = '=' ∨ character = ':' then
            if progress.key.isEmpty then
              none
            else do
              let (text, afterText) ← value rest
              read (progress.store text) limit afterText
          else do
            let (name, afterName) ←
              textUntil ['=', ':'] false [] ((character, first) :: rest)
            read { progress with key := trimmed name } limit afterName

/-- Reads a document. -/
def parse
    (text : String) : Option Value :=
  let characters := text.toList
  (read ⟨[], none, ""⟩ (characters.length + 1) (place true characters)).map
    fun progress => .object progress.close

end Dispatch.Ini
