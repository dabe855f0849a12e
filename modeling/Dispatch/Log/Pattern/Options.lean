import Dispatch.Text.CodeRanges

namespace Dispatch.Log.Pattern

/-!
# Options of patterns

Options in parentheses change how the rest of a group is read.  Three of them
decide whether a pattern is well-formed.  By default a pattern is about Unicode
characters, for which nothing is known about letter case or about words, digits
and blanks, so what depends on these is not available.  Without `u` it is about
ASCII characters, and sets may not reach beyond them.
-/

/-- The options in force. -/
structure Options where
  /-- `i`: letters match in either case. -/
  ignoresCase : Bool
  /-- `u`: characters are those of Unicode. -/
  isUnicode : Bool
  /-- `x`: blanks and comments play no part. -/
  skipsBlanks : Bool
deriving Repr, DecidableEq

namespace Options

/-- The options at the start of a pattern. -/
def standard : Options where
  ignoresCase := false
  isUnicode := true
  skipsBlanks := false

/-- Changes options: those after a minus are turned off and others on. -/
def change
    (isOn : Bool)
    (options : Options) : List Char → Options
  | [] => options
  | letter :: rest =>
      match letter with
      | '-' => change false options rest
      | 'i' => change isOn { options with ignoresCase := isOn } rest
      | 'u' => change isOn { options with isUnicode := isOn } rest
      | 'x' => change isOn { options with skipsBlanks := isOn } rest
      | _ => change isOn options rest

example : standard.change true "x-u".toList = ⟨false, false, true⟩ := by decide

/-- A character may stand for itself outside a set. -/
def allowsLiteral
    (options : Options) : Bool :=
  !(options.isUnicode && options.ignoresCase)

/-- A character may be a member of a set. -/
def allowsMember
    (options : Options)
    (character : Char) : Bool :=
  options.allowsLiteral && (options.isUnicode || decide (character.toNat < 0x80))

end Options

/-! ## Blanks -/

/--
Drops blanks and comments, which run from a number sign to the end of the line.
-/
def dropBlanks
    (inComment : Bool) : List Char → List Char
  | [] => []
  | character :: rest =>
      if inComment then
        dropBlanks (character != '\n') rest
      else if Text.isWhiteSpace character then
        dropBlanks false rest
      else if character = '#' then
        dropBlanks true rest
      else
        character :: rest

/-- Drops what plays no part under the options. -/
def Options.skip
    (options : Options)
    (characters : List Char) : List Char :=
  if options.skipsBlanks then dropBlanks false characters else characters

/--
The character that decides whether a hyphen makes a range: the next one, or if
blanks play no part the next after blanks and one number sign.
-/
def Options.glance?
    (options : Options)
    (characters : List Char) : Option Char :=
  if options.skipsBlanks then
    match Text.dropWhiteSpace characters with
    | '#' :: rest => (Text.dropWhiteSpace rest).head?
    | rest => rest.head?
  else
    characters.head?

end Dispatch.Log.Pattern
