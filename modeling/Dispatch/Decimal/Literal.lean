import Dispatch.Decimal.Binary64

namespace Dispatch.Decimal

/-!
# Number literals

The texts that count as an integer of 64 bits or as a floating-point number.
Both allow one sign in front and nothing around them.  A floating-point literal
has digits, a point with digits on at least one side, or both, then an optional
exponent; the words `inf`, `infinity` and `nan` count in any case.
-/

/-- The value of decimal digits, most significant first. -/
def digitsValue
    (digits : List Char) : Nat :=
  digits.foldl (fun value digit => 10 * value + (digit.toNat - '0'.toNat)) 0

/-- One or more decimal digits and nothing else. -/
def areDigits
    (characters : List Char) : Bool :=
  !characters.isEmpty && characters.all Char.isDigit

/-- Takes one sign off the front; the flag is true for a minus. -/
def splitSign : List Char → Bool × List Char
  | '-' :: rest => (true, rest)
  | '+' :: rest => (false, rest)
  | characters => (false, characters)

/-- The value of a signed whole number, without limits. -/
def wholeNumber?
    (characters : List Char) : Option Int :=
  let (negative, digits) := splitSign characters
  if areDigits digits then
    let value : Int := digitsValue digits
    some (if negative then -value else value)
  else
    none

/-- The integer fits in 64 bits with a sign. -/
def fitsInt64
    (value : Int) : Bool :=
  decide (-(Int.pow 2 63) ≤ value) && decide (value < Int.pow 2 63)

/-- An integer literal within 64 bits. -/
def integerLiteral?
    (characters : List Char) : Option Int :=
  (wholeNumber? characters).filter fitsInt64

/--
The power of ten that an exponent part stands for; no exponent part stands for none.
-/
def exponentPart? : List Char → Option Int
  | [] => some 0
  | mark :: rest =>
      if mark = 'e' ∨ mark = 'E' then
        wholeNumber? rest
      else
        none

/-- An unsigned number with digits, a point or both, then an optional exponent. -/
def unsignedLiteral?
    (negative : Bool)
    (characters : List Char) : Option Binary64 :=
  let (whole, afterWhole) := characters.span Char.isDigit
  let (fraction, afterFraction) :=
    match afterWhole with
    | '.' :: rest => rest.span Char.isDigit
    | _ => ([], afterWhole)
  if whole.isEmpty && fraction.isEmpty then
    none
  else
    (exponentPart? afterFraction).map fun power =>
      Binary64.ofDecimal negative
        (digitsValue (whole ++ fraction))
        (power - fraction.length)

/-- A floating-point literal. -/
def floatLiteral?
    (characters : List Char) : Option Binary64 :=
  let (negative, unsigned) := splitSign characters
  let word := String.ofList (unsigned.map Char.toLower)
  if word = "inf" ∨ word = "infinity" then
    some (Binary64.infinite negative)
  else if word = "nan" then
    some Binary64.nan
  else
    unsignedLiteral? negative unsigned

example : integerLiteral? "+007".toList = some 7 := by decide
example : integerLiteral? "1_000".toList = none := by decide
example : (floatLiteral? ".5".toList).isSome ∧ (floatLiteral? "5.".toList).isSome ∧
    floatLiteral? ".".toList = none ∧ floatLiteral? "1e".toList = none := by
  decide +kernel

end Dispatch.Decimal
