import Dispatch.Text.CaseTable

namespace Dispatch.Text

/-!
# Lower case

Two mappings to lower case.  `lowerAscii` changes the 26 ASCII letters only and
keeps every position.  `lowerCase` is the full mapping of the Unicode standard:
each character on its own, except that the dotted capital I becomes two
characters and that a capital sigma takes its final form at the end of a word.
-/

/-- Lowers the ASCII letters of a text and nothing else. -/
def lowerAscii
    (text : String) : String :=
  String.ofList (text.toList.map Char.toLower)

/-- Raises the ASCII letters of a text and nothing else. -/
def upperAscii
    (text : String) : String :=
  String.ofList (text.toList.map Char.toUpper)

/-- A code point belongs to the run. -/
def CaseRun.contains
    (run : CaseRun)
    (code : Nat) : Bool :=
  decide (run.first ≤ code) && decide (code ≤ run.last) &&
    decide ((code - run.first) % run.stride = 0)

/-- The lower case of a character that has a single-character one. -/
def lowerCharacter
    (character : Char) : Char :=
  if character.toNat < 0x80 then
    character.toLower
  else
    match caseRuns.find? fun run => run.contains character.toNat with
    | some run =>
        Char.ofNat ((character.toNat : Int) + run.offset).toNat
    | none =>
        character

/-- The first character that is not skipped is a cased one. -/
def facesCased
    (characters : List Char) : Bool :=
  match characters.dropWhile (inRanges caseIgnorableRanges) with
  | [] =>
      false
  | character :: _ =>
      inRanges casedRanges character

/--
The lower case of one character between its neighbours; those before it are
given nearest first.
-/
def lowerInContext
    (before : List Char)
    (character : Char)
    (after : List Char) : List Char :=
  if character = 'Σ' then
    if facesCased before && !facesCased after then ['ς'] else ['σ']
  else if character = 'İ' then
    ['i', '\u0307']
  else
    [lowerCharacter character]

/-- Lowers the characters that follow `before`, which is given nearest first. -/
def lowerAfter
    (before : List Char) :
    List Char → List Char
  | [] =>
      []
  | character :: after =>
      lowerInContext before character after ++
        lowerAfter (character :: before) after

/-- The lower case of a text. -/
def lowerCase
    (text : String) : String :=
  String.ofList (lowerAfter [] text.toList)

/-- A character below the first run is lowered as in ASCII. -/
theorem lowerCharacter_of_ascii
    {character : Char}
    (ascii : character.toNat < 0x80) :
    lowerCharacter character = character.toLower := by
  simp [lowerCharacter, ascii]

/-- In ASCII the context plays no part. -/
theorem lowerInContext_of_ascii
    {character : Char}
    (ascii : character.toNat < 0x80)
    (before after : List Char) :
    lowerInContext before character after = [character.toLower] := by
  have notSigma : character ≠ 'Σ' := by
    rintro rfl
    revert ascii
    decide
  have notDotted : character ≠ 'İ' := by
    rintro rfl
    revert ascii
    decide
  simp [lowerInContext, notSigma, notDotted, lowerCharacter_of_ascii ascii]

end Dispatch.Text
