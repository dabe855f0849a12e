import Dispatch.Document.Json
import Dispatch.Log.Pattern.Options

namespace Dispatch.Log.Pattern

/-!
# Escapes in patterns

A backslash begins the name of a character, of a set of characters or of a
position.
-/

/-- What an escape stands for. -/
inductive Escaped
  /-- A character of its own. -/
  | single (character : Char)
  /-- A set of characters. -/
  | set
  /-- A position. -/
  | position
deriving Repr, DecidableEq

/-- The number of hexadecimal digits after the letter of an escape. -/
def codeLength? : Char → Option Nat
  | 'x' => some 2
  | 'u' => some 4
  | 'U' => some 8
  | _ => none

/-- Reads the given number of hexadecimal digits. -/
def codeDigits?
    (options : Options) :
    (count : Nat) → List Char → Option (List Char × List Char)
  | 0, characters =>
      some ([], characters)
  | count + 1, characters => do
      match options.skip characters with
      | [] => none
      | digit :: rest =>
          let (digits, afterDigits) ← codeDigits? options count rest
          return (digit :: digits, afterDigits)

/-- The character of a code point in hexadecimal digits. -/
def codeCharacter?
    (digits : List Char) : Option Char := do
  let code ← Json.hexValue? digits
  if Json.isSurrogate code ∨ 0x110000 ≤ code then none else some (Char.ofNat code)

/-- Letters of the escapes for control characters. -/
def controlLetters : List (Char × Char) :=
  [('a', '\x07'), ('f', '\x0c'), ('n', '\n'), ('r', '\r'), ('t', '\t'),
    ('v', '\x0b')]

/--
Reads an escape of one letter.  Sets of words, digits and blanks, and the borders
of words, are those of ASCII; the complement of such a set is not.
-/
def letterEscape?
    (options : Options)
    (letter : Char) : Option Escaped :=
  match controlLetters.lookup letter with
  | some character =>
      some (.single character)
  | none =>
      if letter ∈ ['d', 's', 'w'] then
        if options.isUnicode then none else some .set
      else if letter ∈ ['b', 'B', '<', '>'] then
        if options.isUnicode then none else some .position
      else if letter ∈ ['A', 'z'] then
        some .position
      else if letter.isAlphanum ∨ 0x80 ≤ letter.toNat then
        none
      else
        some (.single letter)

/--
Reads an escape after its backslash.  Two digits are a byte where characters are
those of ASCII, and it has to be one of them.
-/
def escape?
    (options : Options) :
    List Char → Option (Escaped × List Char)
  | [] =>
      none
  | letter :: rest =>
      match codeLength? letter with
      | some count => do
          let (digits, afterDigits) ← codeDigits? options count rest
          let character ← codeCharacter? digits
          if options.isUnicode ∨ count ≠ 2 ∨ character.toNat < 0x80 then
            some (.single character, afterDigits)
          else
            none
      | none =>
          (letterEscape? options letter).map fun escaped => (escaped, rest)

example : escape? .standard "x41b".toList = some (.single 'A', ['b']) ∧
    escape? .standard "w".toList = none ∧
    escape? { Options.standard with isUnicode := false } "w".toList =
      some (.set, []) := by
  decide +kernel

end Dispatch.Log.Pattern
