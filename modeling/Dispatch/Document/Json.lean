import Dispatch.Value

namespace Dispatch.Json

/-!
# Reading JSON

A strict reader of one JSON document into a `Value`: no comments, no trailing
commas, no byte order mark.  The last of several members of one name counts.
Containers may nest 127 deep.

A number without fraction and exponent is an integer while it fits in 64 bits;
every other number is a floating-point one, and it must be finite.
-/

/-- White space between tokens. -/
def isBlank
    (character : Char) : Bool :=
  character == ' ' || character == '\n' || character == '\t' || character == '\r'

/-- Drops white space at the front. -/
def dropBlanks
    (characters : List Char) : List Char :=
  characters.dropWhile isBlank

/-! ## Strings -/

/-- The value of a hexadecimal digit of either case. -/
def hexDigit?
    (character : Char) : Option Nat :=
  if character.isDigit then
    some (character.toNat - '0'.toNat)
  else if 'a' ≤ character ∧ character ≤ 'f' then
    some (character.toNat - 'a'.toNat + 10)
  else if 'A' ≤ character ∧ character ≤ 'F' then
    some (character.toNat - 'A'.toNat + 10)
  else
    none

/-- The value of hexadecimal digits, most significant first. -/
def hexValue?
    (digits : List Char) : Option Nat :=
  digits.foldlM
    (fun value digit => (hexDigit? digit).map fun unit => 16 * value + unit)
    0

/-- The character that a pair of units in the surrogate ranges stands for. -/
def pairedCharacter?
    (high low : Nat) : Option Char :=
  if 0xd800 ≤ high ∧ high < 0xdc00 ∧ 0xdc00 ≤ low ∧ low < 0xe000 then
    some (Char.ofNat (0x10000 + (high - 0xd800) * 0x400 + (low - 0xdc00)))
  else
    none

/-- A unit outside the surrogate ranges is a character of its own. -/
def isSurrogate
    (unit : Nat) : Bool :=
  decide (0xd800 ≤ unit) && decide (unit < 0xe000)

/-- The character that a backslash and one other character stand for. -/
def simpleEscape? : Char → Option Char
  | '"' => some '"'
  | '\\' => some '\\'
  | '/' => some '/'
  | 'b' => some '\x08'
  | 'f' => some '\x0c'
  | 'n' => some '\n'
  | 'r' => some '\r'
  | 't' => some '\t'
  | _ => none

/-- Reads the rest of a string after its opening quote; `found` is reversed. -/
def stringTail
    (found : List Char) :
    List Char → Option (String × List Char)
  | [] =>
      none
  | '"' :: rest =>
      some (String.ofList found.reverse, rest)
  | '\\' :: 'u' :: a :: b :: c :: d :: rest =>
      match hexValue? [a, b, c, d] with
      | none =>
          none
      | some unit =>
          if isSurrogate unit then
            match rest with
            | '\\' :: 'u' :: e :: f :: g :: h :: rest' =>
                match (hexValue? [e, f, g, h]).bind (pairedCharacter? unit) with
                | some character => stringTail (character :: found) rest'
                | none => none
            | _ =>
                none
          else
            stringTail (Char.ofNat unit :: found) rest
  | '\\' :: escaped :: rest =>
      match simpleEscape? escaped with
      | some character => stringTail (character :: found) rest
      | none => none
  | character :: rest =>
      if character.toNat < 0x20 then
        none
      else
        stringTail (character :: found) rest

/-! ## Numbers -/

/-- The greatest number that is kept digit by digit. -/
def digitLimit : Nat := Nat.pow 2 64 - 1

/--
The leading part of a number's digits that fits in 64 bits, times a power of
ten that accounts for the position of the point.
-/
structure Leading where
  digits : Nat
  power : Int
deriving Repr, DecidableEq

/-- One more digit, unless it no longer fits. -/
def appendDigit?
    (value : Nat)
    (digit : Char) : Option Nat :=
  let extended := 10 * value + (digit.toNat - '0'.toNat)
  if extended ≤ digitLimit then some extended else none

/-- Takes up the digits before the point; those that no longer fit only count. -/
def takeWhole
    (value : Nat) :
    List Char → Leading
  | [] =>
      ⟨value, 0⟩
  | digit :: rest =>
      match appendDigit? value digit with
      | some extended => takeWhole extended rest
      | none => ⟨value, (rest.length + 1 : Nat)⟩

/-- Takes up the digits after the point; those that no longer fit are dropped. -/
def takeFraction
    (leading : Leading) :
    List Char → Leading
  | [] =>
      leading
  | digit :: rest =>
      match appendDigit? leading.digits digit with
      | some extended => takeFraction ⟨extended, leading.power - 1⟩ rest
      | none => leading

/-- Divides by powers of ten that are themselves within the format. -/
def scaleDown
    (value : Decimal.Binary64) :
    (rounds places : Nat) → Decimal.Binary64
  | 0, _ =>
      value
  | rounds + 1, places =>
      if value.isZero then
        value
      else if places ≤ 308 then
        value.div (Decimal.Binary64.ofDecimal false 1 places)
      else
        scaleDown
          (value.div (Decimal.Binary64.ofDecimal false 1 308))
          rounds
          (places - 308)

/--
The number `digits * 10 ^ power`: the digits are rounded, then the power of ten,
then their product or quotient.  No result beyond the format is accepted.
Three rounds of division bring any digits of 64 bits to zero.
-/
def scaled?
    (leading : Leading) : Option Decimal.Binary64 :=
  let value := Decimal.Binary64.ofNat leading.digits
  if 0 ≤ leading.power then
    if value.isZero then
      some value
    else if 308 < leading.power then
      none
    else
      let product :=
        value.mul (Decimal.Binary64.ofDecimal false 1 leading.power)
      if product.isInfinite then none else some product
  else
    some (scaleDown value 4 (-leading.power).toNat)

/-- The digits of a number token. -/
structure NumberToken where
  negative : Bool
  whole : List Char
  fraction : Option (List Char)
  exponent : Option (Bool × List Char)
deriving Repr, DecidableEq

/--
The parts before the point: a zero alone, or digits that start with another one.
-/
def isWholePart : List Char → Bool
  | [] => false
  | ['0'] => true
  | first :: _ => first != '0'

/-- Reads the parts of a number. -/
def numberToken
    (characters : List Char) : Option (NumberToken × List Char) :=
  let (negative, unsigned) :=
    match characters with
    | '-' :: rest => (true, rest)
    | _ => (false, characters)
  let (whole, afterWhole) := unsigned.span Char.isDigit
  if !isWholePart whole then
    none
  else
    let (fraction, afterFraction) : Option (List Char) × List Char :=
      match afterWhole with
      | '.' :: rest =>
          let (digits, rest') := rest.span Char.isDigit
          (some digits, rest')
      | _ =>
          (none, afterWhole)
    let (exponent, afterExponent) : Option (Bool × List Char) × List Char :=
      match afterFraction with
      | mark :: rest =>
          if mark = 'e' ∨ mark = 'E' then
            let (minus, unsignedPart) :=
              match rest with
              | '-' :: rest' => (true, rest')
              | '+' :: rest' => (false, rest')
              | _ => (false, rest)
            let (digits, rest') := unsignedPart.span Char.isDigit
            (some (minus, digits), rest')
          else
            (none, afterFraction)
      | [] =>
          (none, [])
    if fraction = some [] || exponent.any fun part => part.2.isEmpty then
      none
    else
      some (⟨negative, whole, fraction, exponent⟩, afterExponent)

/-- The power of ten that an exponent part stands for. -/
def exponentValue : Option (Bool × List Char) → Int
  | none =>
      0
  | some (negative, digits) =>
      let value : Int :=
        digits.foldl (fun value digit => 10 * value + (digit.toNat - '0'.toNat)) 0
      if negative then -value else value

/-- The sign of a token on a number. -/
def withSign
    (negative : Bool)
    (number : Decimal.Binary64) : Decimal.Binary64 :=
  if negative then number.neg else number

/-- The floating-point number that a token stands for. -/
def NumberToken.float?
    (token : NumberToken) : Option Decimal.Binary64 :=
  let leading := takeFraction (takeWhole 0 token.whole) (token.fraction.getD [])
  (scaled? ⟨leading.digits, leading.power + exponentValue token.exponent⟩).map
    (withSign token.negative)

/-- The integer that a token stands for, if it is one and fits in 64 bits. -/
def NumberToken.integer?
    (token : NumberToken) : Option Int :=
  if token.fraction.isSome || token.exponent.isSome then
    none
  else
    let leading := takeWhole 0 token.whole
    if leading.power ≠ 0 then
      none
    else if !token.negative then
      some leading.digits
    else if 0 < leading.digits ∧ leading.digits ≤ Nat.pow 2 63 then
      some (-(leading.digits : Int))
    else
      none

/-- Reads a number. -/
def number
    (characters : List Char) : Option (Value × List Char) := do
  let (token, rest) ← numberToken characters
  match token.integer? with
  | some value => some (.integer value, rest)
  | none => token.float?.map fun value => (.float value, rest)

/-! ## Values -/

/-- Reads the given characters. -/
def literal
    (expected : List Char)
    (value : Value)
    (characters : List Char) : Option (Value × List Char) :=
  if expected.isPrefixOf characters then
    some (value, characters.drop expected.length)
  else
    none

/--
Reads elements up to the closing bracket.  `limit` bounds their number; the
length of the text is always enough.
-/
def elements
    (element : List Char → Option (Value × List Char)) :
    (limit : Nat) → List Char → Option (List Value × List Char)
  | 0, _ =>
      none
  | limit + 1, characters => do
      let (first, afterFirst) ← element characters
      match dropBlanks afterFirst with
      | ',' :: rest =>
          let (others, afterOthers) ← elements element limit rest
          some (first :: others, afterOthers)
      | ']' :: rest =>
          some ([first], rest)
      | _ =>
          none

/-- Reads a name, a colon and a value. -/
def member
    (element : List Char → Option (Value × List Char))
    (characters : List Char) : Option ((String × Value) × List Char) :=
  match dropBlanks characters with
  | '"' :: rest => do
      let (name, afterName) ← stringTail [] rest
      match dropBlanks afterName with
      | ':' :: afterColon =>
          let (value, afterValue) ← element afterColon
          some ((name, value), afterValue)
      | _ =>
          none
  | _ =>
      none

/-- Reads members up to the closing brace, with the members before them. -/
def members
    (element : List Char → Option (Value × List Char))
    (earlier : List (String × Value)) :
    (limit : Nat) → List Char → Option (List (String × Value) × List Char)
  | 0, _ =>
      none
  | limit + 1, characters => do
      let ((name, value), afterFirst) ← member element characters
      let known := Association.set name value earlier
      match dropBlanks afterFirst with
      | ',' :: rest =>
          members element known limit rest
      | '\x7d' :: rest =>
          some (known, rest)
      | _ =>
          none

/-- Reads a value in which containers nest at most `depth` deep. -/
def value
    (depth : Nat)
    (characters : List Char) : Option (Value × List Char) :=
  match dropBlanks characters with
  | '"' :: rest =>
      (stringTail [] rest).map fun (text, rest') => (.string text, rest')
  | '[' :: rest =>
      match depth with
      | 0 =>
          none
      | depth + 1 =>
          match dropBlanks rest with
          | ']' :: rest' =>
              some (.array [], rest')
          | start =>
              (elements (value depth) (start.length + 1) start).map
                fun (found, rest') => (.array found, rest')
  | '\x7b' :: rest =>
      match depth with
      | 0 =>
          none
      | depth + 1 =>
          match dropBlanks rest with
          | '\x7d' :: rest' =>
              some (.object [], rest')
          | start =>
              (members (value depth) [] (start.length + 1) start).map
                fun (found, rest') => (.object found, rest')
  | 't' :: rest =>
      literal "true".toList (.boolean true) ('t' :: rest)
  | 'f' :: rest =>
      literal "false".toList (.boolean false) ('f' :: rest)
  | 'n' :: rest =>
      literal "null".toList .null ('n' :: rest)
  | other =>
      number other

/-- The number of containers that may stand inside one another. -/
def nestingLimit : Nat := 127

/-- Reads a whole document. -/
def parse
    (text : String) : Option Value := do
  let (found, rest) ← value nestingLimit text.toList
  if (dropBlanks rest).isEmpty then some found else none

end Dispatch.Json
