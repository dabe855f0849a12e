import Dispatch.Document.Json
import Dispatch.Document.TomlMoment

namespace Dispatch.Toml

/-!
# Single values in TOML

Strings of the four kinds, booleans, numbers, and dates and times.

A value that is no string is a run of characters without blanks; only a date
may be followed by a blank and a time.
-/

/-! ## Blanks, line ends and comments -/

/-- Spaces and tabs. -/
def isBlank
    (character : Char) : Bool :=
  character == ' ' || character == '\t'

/-- Drops spaces and tabs. -/
def dropBlanks
    (characters : List Char) : List Char :=
  characters.dropWhile isBlank

/-- Characters that a line may hold outside strings of several lines. -/
def isLineCharacter
    (character : Char) : Bool :=
  character == '\t' ||
    decide (0x20 ≤ character.toNat) && character.toNat != 0x7f

/-- Drops one line end. -/
def dropLineEnd? : List Char → Option (List Char)
  | '\n' :: rest => some rest
  | '\r' :: '\n' :: rest => some rest
  | _ => none

/-- Drops a comment, if one begins here. -/
def dropComment : List Char → List Char
  | '#' :: rest => rest.dropWhile isLineCharacter
  | characters => characters

/-- Drops blanks, comments and line ends.  `limit` bounds the number of lines. -/
def dropLines :
    (limit : Nat) → List Char → List Char
  | 0, characters =>
      characters
  | limit + 1, characters =>
      let rest := dropComment (dropBlanks characters)
      match dropLineEnd? rest with
      | some next => dropLines limit next
      | none => rest

/-- Drops blanks, comments and line ends. -/
def dropSpace
    (characters : List Char) : List Char :=
  dropLines characters.length characters

/-- The end of a line: blanks, a comment, then a line end or the end of the text. -/
def endOfLine?
    (characters : List Char) : Option (List Char) :=
  match dropComment (dropBlanks characters) with
  | [] => some []
  | rest => dropLineEnd? rest

/-! ## Strings -/

/-- The character that a backslash and one other character stand for. -/
def simpleEscape? : Char → Option Char
  | 'b' => some '\x08'
  | 't' => some '\t'
  | 'n' => some '\n'
  | 'f' => some '\x0c'
  | 'r' => some '\r'
  | '"' => some '"'
  | '\\' => some '\\'
  | _ => none

/-- The character with the given code point in hexadecimal digits. -/
def codeEscape?
    (digits : List Char) : Option Char := do
  let code ← Json.hexValue? digits
  if Json.isSurrogate code ∨ 0x110000 ≤ code then none else some (Char.ofNat code)

/-- Reads an escape after its backslash. -/
def escape : List Char → Option (Char × List Char)
  | 'u' :: a :: b :: c :: d :: rest =>
      (codeEscape? [a, b, c, d]).map fun character => (character, rest)
  | 'U' :: a :: b :: c :: d :: e :: f :: g :: h :: rest =>
      (codeEscape? [a, b, c, d, e, f, g, h]).map fun character => (character, rest)
  | character :: rest =>
      (simpleEscape? character).map fun meant => (meant, rest)
  | [] =>
      none

/--
Reads the rest of a string of one line after its opening quote; `found` is
reversed.  Only a string in double quotes has escapes.
-/
def lineString
    (quote : Char)
    (found : List Char) :
    (limit : Nat) → List Char → Option (List Char × List Char)
  | 0, _ =>
      none
  | _, [] =>
      none
  | limit + 1, character :: rest =>
      if character = quote then
        some (found.reverse, rest)
      else if character = '\\' ∧ quote = '"' then do
        let (meant, afterEscape) ← escape rest
        lineString quote (meant :: found) limit afterEscape
      else if isLineCharacter character then
        lineString quote (character :: found) limit rest
      else
        none

/--
A backslash at the end of a line drops that line end and all blanks and line
ends that follow.
-/
def continuation?
    (characters : List Char) : Option (List Char) :=
  (dropLineEnd? (dropBlanks characters)).map fun rest =>
    dropBlankLines rest.length rest
where
  /-- Drops blanks and line ends. -/
  dropBlankLines :
      (limit : Nat) → List Char → List Char
    | 0, rest => rest
    | limit + 1, rest =>
        let next := dropBlanks rest
        match dropLineEnd? next with
        | some afterEnd => dropBlankLines limit afterEnd
        | none => next

/--
Reads the rest of a string of several lines after its opening quotes; `found`
is reversed.  One or two quotes belong to the text, also right before the
closing three.
-/
def linesString
    (quote : Char)
    (found : List Char) :
    (limit : Nat) → List Char → Option (List Char × List Char)
  | 0, _ =>
      none
  | _, [] =>
      none
  | limit + 1, character :: rest =>
      if character = quote then
        let count := (rest.takeWhile (· == quote)).length + 1
        let afterQuotes := rest.dropWhile (· == quote)
        if count < 3 then
          linesString quote (List.replicate count quote ++ found) limit afterQuotes
        else if count ≤ 5 then
          some ((List.replicate (count - 3) quote ++ found).reverse, afterQuotes)
        else
          none
      else if character = '\\' ∧ quote = '"' then
        match continuation? rest with
        | some afterLines =>
            linesString quote found limit afterLines
        | none => do
            let (meant, afterEscape) ← escape rest
            linesString quote (meant :: found) limit afterEscape
      else if isLineCharacter character then
        linesString quote (character :: found) limit rest
      else
        match dropLineEnd? (character :: rest) with
        | some afterEnd => linesString quote ('\n' :: found) limit afterEnd
        | none => none

/-- Reads a string after its first quote. -/
def string
    (quote : Char)
    (rest : List Char) : Option (String × List Char) :=
  let read :=
    match rest with
    | second :: third :: inside =>
        if second = quote ∧ third = quote then
          let start := (dropLineEnd? inside).getD inside
          linesString quote [] (start.length + 1) start
        else
          lineString quote [] (rest.length + 1) rest
    | _ =>
        lineString quote [] (rest.length + 1) rest
  read.map fun (text, afterText) => (String.ofList text, afterText)

/-! ## Numbers -/

/-- The digits of a run in which single underscores may stand between digits. -/
def digitRun?
    (isDigit : Char → Bool)
    (characters : List Char) : Option (List Char) :=
  match characters with
  | [] => none
  | first :: rest => if isDigit first then (more rest).map (first :: ·) else none
where
  /-- The digits after the first one. -/
  more : List Char → Option (List Char)
    | [] => some []
    | '_' :: digit :: rest =>
        if isDigit digit then (more rest).map (digit :: ·) else none
    | digit :: rest =>
        if isDigit digit then (more rest).map (digit :: ·) else none

/-- A run of decimal digits without a zero in front of others. -/
def decimalRun?
    (characters : List Char) : Option (List Char) :=
  (digitRun? Char.isDigit characters).filter fun digits =>
    digits.length == 1 || digits.head? != some '0'

/-- The value of digits in a base. -/
def valueInBase
    (base : Nat)
    (digits : List Char) : Nat :=
  digits.foldl
    (fun value digit => base * value + (Json.hexDigit? digit).getD 0)
    0

/-- The digit counts in the base. -/
def isDigitOf
    (base : Nat)
    (character : Char) : Bool :=
  (Json.hexDigit? character).any fun value => decide (value < base)

/-- An unsigned integer in a base other than ten. -/
def basedInteger?
    (base : Nat)
    (characters : List Char) : Option Int :=
  ((digitRun? (isDigitOf base) characters).map fun digits =>
    ((valueInBase base digits : Nat) : Int)).filter Decimal.fitsInt64

/-- An integer. -/
def integer? : List Char → Option Int
  | '0' :: 'x' :: rest => basedInteger? 16 rest
  | '0' :: 'o' :: rest => basedInteger? 8 rest
  | '0' :: 'b' :: rest => basedInteger? 2 rest
  | characters => do
      let (negative, unsigned) := Decimal.splitSign characters
      let digits ← decimalRun? unsigned
      let value : Int := Decimal.digitsValue digits
      let signed := if negative then -value else value
      if Decimal.fitsInt64 signed then some signed else none

/-- The power of ten of an exponent after its mark. -/
def exponent?
    (characters : List Char) : Option Int := do
  let (negative, unsigned) := Decimal.splitSign characters
  let digits ← digitRun? Char.isDigit unsigned
  let value : Int := Decimal.digitsValue digits
  return if negative then -value else value

/-- The mark of an exponent. -/
def isExponentMark
    (character : Char) : Bool :=
  character == 'e' || character == 'E'

/--
A floating-point number: a whole part, then a fraction, an exponent or both; or
one of the words `inf` and `nan`.  No digits may stand for positive infinity.
-/
def float?
    (characters : List Char) : Option Decimal.Binary64 :=
  let (negative, unsigned) := Decimal.splitSign characters
  if unsigned = "inf".toList then
    some (.infinite negative)
  else if unsigned = "nan".toList then
    some .nan
  else do
    let mantissa := unsigned.takeWhile fun character => !isExponentMark character
    let marked := unsigned.drop mantissa.length
    let whole ← decimalRun? (mantissa.takeWhile (· != '.'))
    let fraction ←
      match mantissa.dropWhile (· != '.') with
      | [] => some none
      | _ :: digits => (digitRun? Char.isDigit digits).map some
    let power ←
      match marked with
      | [] => some none
      | _ :: rest => (exponent? rest).map some
    if fraction.isNone ∧ power.isNone then
      none
    else
      let places := fraction.getD []
      let number :=
        Decimal.Binary64.ofDecimal negative
          (Decimal.digitsValue (whole ++ places))
          (power.getD 0 - places.length)
      if number = .infinite false then none else some number

/-! ## Values without quotes -/

/-- Characters of values without quotes. -/
def isTokenCharacter
    (character : Char) : Bool :=
  character.isAlphanum || character == '+' || character == '-' ||
    character == '_' || character == '.' || character == ':'

/-- The value of a token. -/
def tokenValue?
    (token : List Char) : Option Value :=
  if token = "true".toList then
    some (.boolean true)
  else if token = "false".toList then
    some (.boolean false)
  else
    match integer? token with
    | some value => some (.integer value)
    | none =>
        match float? token with
        | some value => some (.float value)
        | none => (moment? token).map markedMoment

/-- A date with a time after a blank. -/
def spacedMoment?
    (token rest : List Char) : Option (List Char × List Char) :=
  match date token, rest with
  | some (_, []), ' ' :: afterBlank =>
      let time := afterBlank.takeWhile isTokenCharacter
      (moment? (token ++ ' ' :: time)).map fun text =>
        (text, afterBlank.dropWhile isTokenCharacter)
  | _, _ =>
      none

/-- Reads a value without quotes. -/
def bareValue
    (characters : List Char) : Option (Value × List Char) :=
  let token := characters.takeWhile isTokenCharacter
  let rest := characters.dropWhile isTokenCharacter
  match spacedMoment? token rest with
  | some (text, afterText) => some (markedMoment text, afterText)
  | none => (tokenValue? token).map fun value => (value, rest)

end Dispatch.Toml
