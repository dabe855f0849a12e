namespace Dispatch.Text

/-!
# Byte positions

Positions in a text count the bytes of UTF-8, of which a character takes one to
four.
-/

/-- The number of bytes of characters. -/
def byteLength : List Char → Nat
  | [] => 0
  | character :: rest => character.utf8Size + byteLength rest

/-- The characters that begin within the given number of bytes. -/
def takeBytes : Nat → List Char → List Char
  | _, [] => []
  | 0, _ => []
  | count + 1, character :: rest =>
      character :: takeBytes (count + 1 - character.utf8Size) rest

/-- The characters that begin after the given number of bytes. -/
def dropBytes : Nat → List Char → List Char
  | _, [] => []
  | 0, characters => characters
  | count + 1, character :: rest =>
      dropBytes (count + 1 - character.utf8Size) rest

end Dispatch.Text
