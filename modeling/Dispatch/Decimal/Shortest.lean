import Dispatch.Decimal.Binary64

namespace Dispatch.Decimal

/-!
# Shortest decimal form

A floating-point number is shown by the fewest decimal digits that read back as
it.  The numbers that read back as `significand * 2 ^ exponent` form an interval
around it, ends included when the significand is even.  Decimal grids are tried
from the coarsest: the first grid with a point in the interval has the digits,
and of two points the nearer is taken.  What an exact tie does is up to the form.

There are two forms.  The plain one never has an exponent.  The compact one has
one for very large and very small numbers, and shows by a point or an exponent
that the number is a floating-point one.
-/

/-- Which of two equally near decimal numbers is taken. -/
inductive Tie
  /-- The one further from zero. -/
  | upper
  /-- The one whose last digit is even. -/
  | even
deriving Repr, DecidableEq

/-- A positive decimal number `digits * 10 ^ power`. -/
structure Scaled where
  digits : Nat
  power : Int
deriving Repr, DecidableEq

/--
The interval of values that round to a positive number, over a common denominator.
-/
structure RoundingInterval where
  lower : Nat
  value : Nat
  upper : Nat
  denominator : Nat
  closed : Bool
deriving Repr, DecidableEq

namespace RoundingInterval

/--
The interval around `significand * 2 ^ exponent`.  Below a power of two the
neighbours are twice as dense, so there the lower end is half as far.
-/
def around
    (significand : Nat)
    (exponent : Int) : RoundingInterval :=
  let scale := powerNumerator 2 (exponent - 2)
  let narrow : Bool :=
    decide (significand = Nat.pow 2 52) && decide (Binary64.leastExponent < exponent)
  { lower := (4 * significand - if narrow then 1 else 2) * scale
    value := 4 * significand * scale
    upper := (4 * significand + 2) * scale
    denominator := powerDenominator 2 (exponent - 2)
    closed := significand % 2 == 0 }

/-- The decimal number lies in the interval. -/
def contains
    (interval : RoundingInterval)
    (candidate : Scaled) : Bool :=
  let point :=
    candidate.digits * powerNumerator 10 candidate.power * interval.denominator
  let unit := powerDenominator 10 candidate.power
  if interval.closed then
    decide (interval.lower * unit ≤ point) && decide (point ≤ interval.upper * unit)
  else
    decide (interval.lower * unit < point) && decide (point < interval.upper * unit)

/-- The upper of two neighbours on a grid is to be taken. -/
def takesUpper
    (tie : Tie)
    (quotient remainder denominator : Nat) : Bool :=
  if 2 * remainder = denominator then
    match tie with
    | .upper => true
    | .even => quotient % 2 == 1
  else
    decide (denominator < 2 * remainder)

/-- The point of the grid `10 ^ power` to show, if one lies in the interval. -/
def onGrid?
    (tie : Tie)
    (interval : RoundingInterval)
    (power : Int) : Option Scaled :=
  let numerator := interval.value * powerDenominator 10 power
  let denominator := interval.denominator * powerNumerator 10 power
  let below : Scaled := ⟨numerator / denominator, power⟩
  let above : Scaled := ⟨numerator / denominator + 1, power⟩
  match interval.contains below, interval.contains above with
  | true, true =>
      if takesUpper tie below.digits (numerator % denominator) denominator then
        some above
      else
        some below
  | true, false => some below
  | false, true => some above
  | false, false => none

/-- A power of ten above the whole interval. -/
def topPower
    (interval : RoundingInterval) : Int :=
  (Nat.toDigits 10 interval.upper).length -
    (Nat.toDigits 10 interval.denominator).length + 1

/-- The first point found on the grids from the coarsest down. -/
def shortest
    (tie : Tie)
    (interval : RoundingInterval) : Scaled :=
  let powers :=
    (List.range 20).map fun (step : Nat) => interval.topPower - (step : Int)
  (powers.findSome? (onGrid? tie interval)).getD ⟨interval.value, 0⟩

end RoundingInterval

/-- Positive decimals in plain notation. -/
def Scaled.plain
    (number : Scaled) : String :=
  let digits := Nat.toDigits 10 number.digits
  if 0 ≤ number.power then
    String.ofList (digits ++ List.replicate number.power.toNat '0')
  else
    let places := (-number.power).toNat
    let padded := List.replicate (places + 1 - digits.length) '0' ++ digits
    String.ofList
      (padded.take (padded.length - places) ++
        '.' :: padded.drop (padded.length - places))

/--
Positive decimals in compact notation: in plain notation from `10 ^ -5` up to
`10 ^ 16`, with `.0` if whole, and otherwise as one digit, the others after a
point, and an exponent with its sign.
-/
def Scaled.compact
    (number : Scaled) : String :=
  let digits := Nat.toDigits 10 number.digits
  let magnitude : Int := digits.length + number.power
  if -5 < magnitude ∧ magnitude ≤ 16 then
    if 0 ≤ number.power then number.plain ++ ".0" else number.plain
  else
    let rest := digits.drop 1
    let fraction := if rest.isEmpty then [] else '.' :: rest
    let mark := if 0 < magnitude then "e+" else "e"
    String.ofList (digits.take 1 ++ fraction) ++ mark ++ toString (magnitude - 1)

namespace Binary64

/-- The sign in front of a number. -/
def signText
    (negative : Bool) : String :=
  if negative then "-" else ""

/-- The fewest digits of a finite number other than zero. -/
def shortest
    (tie : Tie)
    (significand : Nat)
    (exponent : Int) : Scaled :=
  (RoundingInterval.around significand exponent).shortest tie

/-- A number in plain notation; a whole number has no point. -/
def plain : Binary64 → String
  | nan => "NaN"
  | infinite negative => signText negative ++ "inf"
  | finite negative significand exponent =>
      signText negative ++
        if significand = 0 then
          "0"
        else
          (shortest .upper significand exponent).plain

/-- A number in compact notation; no number looks like an integer. -/
def compact : Binary64 → String
  | nan => "NaN"
  | infinite negative => signText negative ++ "inf"
  | finite negative significand exponent =>
      signText negative ++
        if significand = 0 then
          "0.0"
        else
          (shortest .even significand exponent).compact

end Binary64

end Dispatch.Decimal
