namespace Dispatch.Decimal

/-!
# Binary floating-point numbers of 64 bits

A finite number is a sign, a significand below `2 ^ 53` and a power of two not
below `2 ^ -1074`.  Every operation is an exact computation on fractions
followed by one rounding to the nearest number, a tie going to the even
significand, and a result too large for the format becomes infinite.
-/

/--
A floating-point number; the value of a finite one is `±significand * 2 ^ exponent`.
-/
inductive Binary64
  | nan
  | infinite (negative : Bool)
  | finite (negative : Bool) (significand : Nat) (exponent : Int)
deriving Repr, DecidableEq, Inhabited

/-- `numerator / denominator` to the nearest integer, a tie to the even one. -/
def roundHalfEven
    (numerator denominator : Nat) : Nat :=
  let quotient := numerator / denominator
  let twice := 2 * (numerator % denominator)
  if twice < denominator then
    quotient
  else if denominator < twice then
    quotient + 1
  else if quotient % 2 = 0 then
    quotient
  else
    quotient + 1

/-- `2 ^ power` as a fraction: its numerator. -/
def powerNumerator
    (base : Nat)
    (power : Int) : Nat :=
  base.pow power.toNat

/-- `2 ^ power` as a fraction: its denominator. -/
def powerDenominator
    (base : Nat)
    (power : Int) : Nat :=
  base.pow (-power).toNat

namespace Binary64

/-- The zero of either sign. -/
def zero
    (negative : Bool) : Binary64 :=
  finite negative 0 (-1074)

/-- The least power of two that any number of the format uses. -/
def leastExponent : Int := -1074

/-- The greatest power of two that any number of the format uses. -/
def greatestExponent : Int := 971

/--
The power of two at which `numerator / denominator` has a significand of 53
bits, or the least one of the format.
-/
def exponentOf
    (numerator denominator : Nat) : Int :=
  let near : Int := (numerator.log2 : Int) - (denominator.log2 : Int) - 52
  let quotient :=
    numerator * powerDenominator 2 near / (denominator * powerNumerator 2 near)
  let exact := if Nat.pow 2 52 ≤ quotient then near else near - 1
  max exact leastExponent

/-- The number nearest to `±numerator / denominator`, for a positive denominator. -/
def ofFraction
    (negative : Bool)
    (numerator denominator : Nat) : Binary64 :=
  if numerator = 0 then
    zero negative
  else
    let exponent := exponentOf numerator denominator
    let rounded :=
      roundHalfEven
        (numerator * powerDenominator 2 exponent)
        (denominator * powerNumerator 2 exponent)
    let carried : Bool := rounded = Nat.pow 2 53
    let significand := if carried then Nat.pow 2 52 else rounded
    let power := if carried then exponent + 1 else exponent
    if greatestExponent < power then
      infinite negative
    else
      finite negative significand power

/-- The number nearest to a natural number. -/
def ofNat
    (value : Nat) : Binary64 :=
  ofFraction false value 1

/--
The number nearest to `±digits * 10 ^ power`.  Values of more than 310 or fewer
than -330 decimal places are out of range whatever their digits, and are decided
without computing the power.
-/
def ofDecimal
    (negative : Bool)
    (digits : Nat)
    (power : Int) : Binary64 :=
  if digits = 0 then
    zero negative
  else
    let places : Int := (Nat.toDigits 10 digits).length + power
    if 310 < places then
      infinite negative
    else if places < -330 then
      zero negative
    else
      ofFraction negative
        (digits * powerNumerator 10 power)
        (powerDenominator 10 power)

/-- The product, rounded once. -/
def mul : Binary64 → Binary64 → Binary64
  | finite negative significand exponent,
      finite negative' significand' exponent' =>
      ofFraction (negative != negative')
        (significand * significand' * powerNumerator 2 (exponent + exponent'))
        (powerDenominator 2 (exponent + exponent'))
  | nan, _ => nan
  | _, nan => nan
  | infinite negative, infinite negative' => infinite (negative != negative')
  | infinite negative, finite negative' significand _ =>
      if significand = 0 then nan else infinite (negative != negative')
  | finite negative significand _, infinite negative' =>
      if significand = 0 then nan else infinite (negative != negative')

/-- The quotient, rounded once. -/
def div : Binary64 → Binary64 → Binary64
  | finite negative significand exponent,
      finite negative' significand' exponent' =>
      if significand' = 0 then
        if significand = 0 then nan else infinite (negative != negative')
      else
        ofFraction (negative != negative')
          (significand * powerNumerator 2 (exponent - exponent'))
          (significand' * powerDenominator 2 (exponent - exponent'))
  | nan, _ => nan
  | _, nan => nan
  | infinite _, infinite _ => nan
  | infinite negative, finite negative' _ _ => infinite (negative != negative')
  | finite negative _ _, infinite negative' => zero (negative != negative')

/-- The same number with the opposite sign. -/
def neg : Binary64 → Binary64
  | nan => nan
  | infinite negative => infinite (!negative)
  | finite negative significand exponent => finite (!negative) significand exponent

/-- The number is a zero of either sign. -/
def isZero : Binary64 → Bool
  | finite _ significand _ => significand == 0
  | _ => false

/-- The number is an infinity of either sign. -/
def isInfinite : Binary64 → Bool
  | infinite _ => true
  | _ => false

end Binary64

end Dispatch.Decimal
