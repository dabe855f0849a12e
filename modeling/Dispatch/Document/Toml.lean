import Dispatch.Document.TomlScalar
import Dispatch.Document.TomlTable

namespace Dispatch.Toml

/-!
# Reading TOML

A reader of one TOML document into a `Value`.  A byte order mark may precede
the document.  Arrays and inline tables may nest 79 deep, and a dotted key may
have 79 parts.
-/

/-- The number of arrays and inline tables that may stand inside one another. -/
def nestingLimit : Nat := 79

/-- The number of parts of a dotted key. -/
def keyLimit : Nat := 79

/-! ## Keys -/

/-- Characters of keys without quotes. -/
def isKeyCharacter
    (character : Char) : Bool :=
  character.isAlphanum || character == '_' || character == '-'

/-- Reads one part of a key. -/
def keyPart
    (characters : List Char) : Option (String × List Char) :=
  match characters with
  | '"' :: rest => do
      let (name, afterName) ← lineString '"' [] (rest.length + 1) rest
      return (String.ofList name, afterName)
  | '\'' :: rest => do
      let (name, afterName) ← lineString '\'' [] (rest.length + 1) rest
      return (String.ofList name, afterName)
  | _ =>
      let name := characters.takeWhile isKeyCharacter
      if name.isEmpty then
        none
      else
        some (String.ofList name, characters.dropWhile isKeyCharacter)

/--
Reads a key of the given number of parts at most, with blanks around its parts.
-/
def keyParts :
    (limit : Nat) → List Char → Option (List String × List Char)
  | 0, _ =>
      none
  | limit + 1, characters => do
      let (name, afterName) ← keyPart (dropBlanks characters)
      match dropBlanks afterName with
      | '.' :: rest =>
          let (names, afterNames) ← keyParts limit rest
          return (name :: names, afterNames)
      | rest =>
          return ([name], rest)

/-- Reads a key. -/
def key
    (characters : List Char) : Option (List String × List Char) :=
  keyParts keyLimit characters

/-! ## Values -/

/--
Reads the elements of an array after its bracket.  `limit` bounds their number.
-/
def elements
    (element : List Char → Option (Value × List Char)) :
    (limit : Nat) → List Char → Option (List Value × List Char)
  | 0, _ =>
      none
  | limit + 1, characters =>
      match dropSpace characters with
      | ']' :: rest =>
          some ([], rest)
      | start => do
          let (first, afterFirst) ← element start
          match dropSpace afterFirst with
          | ',' :: rest =>
              let (others, afterOthers) ← elements element limit rest
              return (first :: others, afterOthers)
          | ']' :: rest =>
              return ([first], rest)
          | _ =>
              none

/-- Reads a key and the value that is assigned to it. -/
def assignment
    (element : List Char → Option (Value × List Char))
    (characters : List Char) : Option ((List String × Value) × List Char) := do
  let (names, afterKey) ← key characters
  match afterKey with
  | '=' :: rest =>
      let (value, afterValue) ← element (dropBlanks rest)
      return ((names, value), afterValue)
  | _ =>
      none

/-- Reads the assignments of an inline table that has some. -/
def inlineEntries
    (element : List Char → Option (Value × List Char))
    (entries : Entries) :
    (limit : Nat) → List Char → Option (Entries × List Char)
  | 0, _ =>
      none
  | limit + 1, characters => do
      let ((names, value), afterValue) ← assignment element characters
      let extended ← assignKey names value entries
      match dropBlanks afterValue with
      | ',' :: rest =>
          inlineEntries element extended limit rest
      | '\x7d' :: rest =>
          return (extended, rest)
      | _ =>
          none

/-- Reads a value in which arrays and inline tables nest at most `depth` deep. -/
def value
    (depth : Nat)
    (characters : List Char) : Option (Value × List Char) :=
  match characters with
  | '"' :: rest =>
      (string '"' rest).map fun (text, rest') => (.string text, rest')
  | '\'' :: rest =>
      (string '\'' rest).map fun (text, rest') => (.string text, rest')
  | '[' :: rest =>
      match depth with
      | 0 =>
          none
      | depth + 1 =>
          (elements (value depth) (rest.length + 1) rest).map
            fun (found, rest') => (.array found, rest')
  | '\x7b' :: rest =>
      match depth with
      | 0 =>
          none
      | depth + 1 =>
          match dropBlanks rest with
          | '\x7d' :: rest' =>
              some (.object [], rest')
          | start =>
              (inlineEntries (value depth) [] (start.length + 1) start).map
                fun (found, rest') => (.object (membersOf found), rest')
  | _ =>
      bareValue characters

/-! ## Documents -/

/-- What has been read of a document: all tables, and the header in force. -/
structure Progress where
  entries : Entries
  header : List String

/-- Reads a header after its first bracket. -/
def header
    (progress : Progress)
    (characters : List Char) : Option (Progress × List Char) :=
  match characters with
  | '[' :: rest => do
      let (names, afterKey) ← key rest
      match afterKey with
      | ']' :: ']' :: afterHeader =>
          let entries ← appendTable names progress.entries
          return (⟨entries, names⟩, afterHeader)
      | _ =>
          none
  | _ => do
      let (names, afterKey) ← key characters
      match afterKey with
      | ']' :: afterHeader =>
          let entries ← defineTable names progress.entries
          return (⟨entries, names⟩, afterHeader)
      | _ =>
          none

/-- Reads what one line holds. -/
def line
    (progress : Progress)
    (characters : List Char) : Option (Progress × List Char) :=
  match dropBlanks characters with
  | [] =>
      some (progress, [])
  | '[' :: rest =>
      header progress rest
  | first :: rest =>
      if first = '#' ∨ first = '\n' ∨ first = '\r' then
        some (progress, first :: rest)
      else do
        let ((names, found), afterValue) ←
          assignment (value nestingLimit) (first :: rest)
        let entries ← assignUnder progress.header names found progress.entries
        return (⟨entries, progress.header⟩, afterValue)

/-- Reads the lines of a document.  `limit` bounds their number. -/
def lines :
    (limit : Nat) → Progress → List Char → Option Progress
  | 0, _, _ =>
      none
  | _, progress, [] =>
      some progress
  | limit + 1, progress, characters => do
      let (read, afterLine) ← line progress characters
      lines limit read (← endOfLine? afterLine)

/-- Reads a document. -/
def parse
    (text : String) : Option Value :=
  let characters :=
    match text.toList with
    | '\ufeff' :: rest => rest
    | all => all
  (lines (characters.length + 1) ⟨[], []⟩ characters).bind fun progress =>
    withMoments? (.object (membersOf progress.entries))

end Dispatch.Toml
