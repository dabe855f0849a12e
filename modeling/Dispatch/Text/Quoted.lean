import Dispatch.Text.PrintableTable

namespace Dispatch.Text

/-!
# Quoted text

The form in which messages show a text: between double quotes, with the quote,
the backslash and the common control characters written as a backslash and one
character.  Characters that would not show, and characters that would combine
with the one before them, are written by their code point.
-/

/-- The code point of a character in lower-case hexadecimal digits, in braces. -/
def codePointForm
    (character : Char) : List Char :=
  '\\' :: 'u' :: '\x7b' :: Nat.toDigits 16 character.toNat ++ ['\x7d']

/-- A character shows as it is. -/
def isVisible
    (character : Char) : Bool :=
  if character.toNat < 0x80 then
    decide (0x20 ≤ character.toNat) && decide (character.toNat < 0x7f)
  else
    !inRanges combiningRanges character &&
      !inRanges unprintableRanges character

/-- The form of one character inside quotes. -/
def quoteCharacter : Char → List Char
  | '"' => ['\\', '"']
  | '\\' => ['\\', '\\']
  | '\n' => ['\\', 'n']
  | '\r' => ['\\', 'r']
  | '\t' => ['\\', 't']
  | '\x00' => ['\\', '0']
  | character =>
      if isVisible character then [character] else codePointForm character

/-- A text between double quotes. -/
def quoted
    (text : String) : String :=
  String.ofList ('"' :: text.toList.flatMap quoteCharacter ++ ['"'])

end Dispatch.Text
