import Dispatch.Decimal.Shortest
import Dispatch.Proofs.Rounding

namespace Dispatch.Decimal

/-!
# The shortest decimal that reads back

Decimals with a given power of ten form a grid.  Of the grids that have a point
among what rounds to a number, the coarsest is searched for; its point nearest to
the number is the decimal that is shown.  No decimal with fewer digits is rounded
to the same number, and twenty grids are enough to find one.
-/

/-- The value of a decimal. -/
def Scaled.value
    (number : Scaled) : ℚ :=
  number.digits * 10 ^ number.power

/-- The number of digits of a decimal. -/
def Scaled.length
    (number : Scaled) : Nat :=
  (Nat.toDigits 10 number.digits).length

/-- A decimal is read as a number. -/
def Scaled.Reads
    (number : Scaled)
    (significand : Nat)
    (exponent : Int) : Prop :=
  Binary64.ofDecimal false number.digits number.power =
    .finite false significand exponent

/-- How far a decimal is from a number. -/
def Scaled.distance
    (number : Scaled)
    (significand : Nat)
    (exponent : Int) : ℚ :=
  |number.value - significand * 2 ^ exponent|

/--
A decimal that is rounded to a number, and that is the nearest such on its grid.
-/
structure Scaled.IsBestOnGrid
    (shown : Scaled)
    (tie : Tie)
    (significand : Nat)
    (exponent : Int) : Prop where
  roundsTo :
    Binary64.RoundsTo shown.value significand exponent
  nearest :
    ∀ digits : Nat,
      Binary64.RoundsTo ((digits : ℚ) * 10 ^ shown.power) significand exponent →
      shown.distance significand exponent ≤
        Scaled.distance ⟨digits, shown.power⟩ significand exponent
  ties :
    tie = .upper →
    ∀ digits : Nat,
      Binary64.RoundsTo ((digits : ℚ) * 10 ^ shown.power) significand exponent →
      shown.digits < digits →
      shown.distance significand exponent <
        Scaled.distance ⟨digits, shown.power⟩ significand exponent

namespace RoundingInterval

open Binary64

variable
  {significand digits : Nat}
  {exponent power : Int}

/-- The ends of an interval as fractions. -/
structure Describes
    (interval : RoundingInterval)
    (significand : Nat)
    (exponent : Int) : Prop where
  positive :
    0 < interval.denominator
  lower :
    (interval.lower : ℚ) =
      (significand - margin significand exponent) * 2 ^ exponent *
        interval.denominator
  value :
    (interval.value : ℚ) = significand * 2 ^ exponent * interval.denominator
  upper :
    (interval.upper : ℚ) =
      (significand + 1 / 2) * 2 ^ exponent * interval.denominator
  closed :
    interval.closed = true ↔ significand % 2 = 0

theorem describes_around
    (positive : 0 < significand)
    (exponent : Int) :
    (around significand exponent).Describes significand exponent where
  positive := powerDenominator_pos (by decide) _
  closed := by
    simp [around]
  value := by
    simp only [around]
    rw [Nat.cast_mul, powerNumerator_eq (by decide), zpow_sub₀ (by norm_num)]
    push_cast
    ring
  upper := by
    simp only [around]
    rw [Nat.cast_mul, powerNumerator_eq (by decide), zpow_sub₀ (by norm_num)]
    push_cast
    ring
  lower := by
    have isMargin :
        margin significand exponent =
          if decide (significand = Nat.pow 2 52) &&
              decide (leastExponent < exponent) then
            1 / 4
          else
            1 / 2 := by
      simp only [margin, Bool.and_eq_true, decide_eq_true_eq]
      rfl
    rw [isMargin]
    simp only [around]
    generalize (decide (significand = Nat.pow 2 52) &&
      decide (leastExponent < exponent)) = narrow
    have enough : (if narrow then 1 else 2) ≤ 4 * significand := by
      split <;> omega
    rw [Nat.cast_mul, Nat.cast_sub enough, powerNumerator_eq (by decide),
      zpow_sub₀ (by norm_num)]
    cases narrow <;> simp only [↓reduceIte, Bool.false_eq_true] <;>
      push_cast <;> ring

variable
  {interval : RoundingInterval}

/-- A decimal is in the interval if it is rounded to the number. -/
theorem Describes.contains_iff
    (describes : interval.Describes significand exponent) :
    interval.contains ⟨digits, power⟩ = true ↔
      RoundsTo ((digits : ℚ) * 10 ^ power) significand exponent := by
  have denominator : (0 : ℚ) < interval.denominator :=
    Nat.cast_pos.mpr describes.positive
  have unit : (0 : ℚ) < powerDenominator 10 power :=
    Nat.cast_pos.mpr (powerDenominator_pos (by decide) power)
  have point :
      ((digits * powerNumerator 10 power * interval.denominator : Nat) : ℚ) =
        digits * 10 ^ power *
            (interval.denominator * powerDenominator 10 power) := by
    rw [Nat.cast_mul, Nat.cast_mul, powerNumerator_eq (by decide)]
    push_cast
    ring
  have lower :
      ((interval.lower * powerDenominator 10 power : Nat) : ℚ) =
        (significand - margin significand exponent) * 2 ^ exponent *
          (interval.denominator * powerDenominator 10 power) := by
    rw [Nat.cast_mul, describes.lower, mul_assoc]
  have upper :
      ((interval.upper * powerDenominator 10 power : Nat) : ℚ) =
        (significand + 1 / 2) * 2 ^ exponent *
          (interval.denominator * powerDenominator 10 power) := by
    rw [Nat.cast_mul, describes.upper, mul_assoc]
  have scale := mul_pos denominator unit
  rw [RoundsTo, ← Within.mul_iff scale, ← lower, ← upper, ← point]
  simp only [contains, ← describes.closed]
  unfold Within
  simp only [Nat.cast_lt, Nat.cast_inj]
  cases interval.closed <;> simp [Nat.le_iff_lt_or_eq]

variable
  {tie : Tie}

/-! ## Points of a grid -/

/--
On a grid a number lies between a point and the next, past it by a part of the way.
-/
structure LiesPast
    (number : ℚ)
    (power : Int)
    (quotient : Nat)
    (fraction : ℚ) : Prop where
  notNegative : 0 ≤ fraction
  proper : fraction < 1
  number_eq : number = (quotient + fraction) * 10 ^ power

namespace LiesPast

variable
  {number fraction : ℚ}
  {quotient : Nat}

/-- The next point is less than a step away. -/
theorem next
    (liesPast : LiesPast number power quotient fraction) :
    number < ((quotient + 1 : Nat) : ℚ) * 10 ^ power ∧
      ((quotient + 1 : Nat) : ℚ) * 10 ^ power ≤ number + 10 ^ power := by
  have grid : (0 : ℚ) < 10 ^ power := by positivity
  have past : 0 ≤ fraction * 10 ^ power := mul_nonneg liesPast.notNegative grid.le
  have notPast : fraction * 10 ^ power < 1 * 10 ^ power :=
    mul_lt_mul_of_pos_right liesPast.proper grid
  rw [liesPast.number_eq]
  push_cast
  constructor <;> linarith

/-- How far a point is away, in units of the grid. -/
theorem distance
    (liesPast : LiesPast number power quotient fraction)
    (digits : Nat) :
    |(digits : ℚ) * 10 ^ power - number| =
        |digits - (quotient + fraction)| * 10 ^ power := by
  have positive : (0 : ℚ) < 10 ^ power := by positivity
  rw [liesPast.number_eq, ← sub_mul, abs_mul, abs_of_pos positive]

/--
The point below is the nearest one if the number is at most half past it, or no
other is above.
-/
theorem below_nearest
    (liesPast : LiesPast number power quotient fraction)
    (near : digits ≤ quotient ∨ 2 * fraction ≤ 1) :
    |(quotient : ℚ) * 10 ^ power - number| ≤
        |(digits : ℚ) * 10 ^ power - number| := by
  rw [liesPast.distance, liesPast.distance]
  refine mul_le_mul_of_nonneg_right ?_ (by positivity)
  have := liesPast.notNegative
  have here : |(quotient : ℚ) - (quotient + fraction)| = fraction := by
    rw [sub_add_cancel_left, abs_neg, abs_of_nonneg this]
  rw [here]
  rcases le_or_gt digits quotient with isBelow | isAbove
  · have isBelow : (digits : ℚ) ≤ quotient := by exact_mod_cast isBelow
    rw [abs_sub_comm]
    exact le_abs.mpr (.inl (by linarith))
  · have isAbove : (quotient : ℚ) + 1 ≤ digits := by exact_mod_cast isAbove
    have half := near.resolve_left (not_le.mpr (by exact_mod_cast isAbove))
    exact le_abs.mpr (.inl (by linarith))

/--
The point above is the nearest one if the number is at least half way to it, or no
other is below.
-/
theorem above_nearest
    (liesPast : LiesPast number power quotient fraction)
    (near : quotient < digits ∨ 1 ≤ 2 * fraction) :
    |((quotient + 1 : Nat) : ℚ) * 10 ^ power - number| ≤
      |(digits : ℚ) * 10 ^ power - number| := by
  rw [liesPast.distance, liesPast.distance]
  refine mul_le_mul_of_nonneg_right ?_ (by positivity)
  have := liesPast.proper
  have here :
      |((quotient + 1 : Nat) : ℚ) - (quotient + fraction)| = 1 - fraction := by
    push_cast
    rw [add_sub_add_left_eq_sub, abs_of_pos (by linarith)]
  rw [here]
  rcases le_or_gt digits quotient with isBelow | isAbove
  · have half := near.resolve_left (not_lt.mpr isBelow)
    have isBelow : (digits : ℚ) ≤ quotient := by exact_mod_cast isBelow
    rw [abs_sub_comm]
    exact le_abs.mpr (.inl (by linarith))
  · have isAbove : (quotient : ℚ) + 1 ≤ digits := by exact_mod_cast isAbove
    exact le_abs.mpr (.inl (by linarith))

/-- Before the middle the point below is nearer than any above. -/
theorem below_nearer
    (liesPast : LiesPast number power quotient fraction)
    (isAbove : quotient < digits)
    (half : 2 * fraction < 1) :
    |(quotient : ℚ) * 10 ^ power - number| <
        |(digits : ℚ) * 10 ^ power - number| := by
  rw [liesPast.distance, liesPast.distance]
  refine mul_lt_mul_of_pos_right ?_ (by positivity)
  have := liesPast.notNegative
  have isAbove : (quotient : ℚ) + 1 ≤ digits := by exact_mod_cast isAbove
  rw [sub_add_cancel_left, abs_neg, abs_of_nonneg this]
  exact lt_abs.mpr (.inl (by linarith))

/-- The point above is nearer than any further above. -/
theorem above_nearer
    (liesPast : LiesPast number power quotient fraction)
    (isAbove : quotient + 1 < digits) :
    |((quotient + 1 : Nat) : ℚ) * 10 ^ power - number| <
      |(digits : ℚ) * 10 ^ power - number| := by
  rw [liesPast.distance, liesPast.distance]
  refine mul_lt_mul_of_pos_right ?_ (by positivity)
  have := liesPast.proper
  have isAbove : ((quotient + 1 : Nat) : ℚ) < digits := Nat.cast_lt.mpr isAbove
  push_cast at isAbove ⊢
  rw [add_sub_add_left_eq_sub, abs_of_pos (by linarith)]
  exact lt_abs.mpr (.inl (by linarith))

/--
A point that rounds to the number has the point on its side of the number rounding
to it too.
-/
theorem roundsTo_neighbour
    (liesPast : LiesPast (significand * 2 ^ exponent) power quotient fraction)
    (roundsTo : RoundsTo ((digits : ℚ) * 10 ^ power) significand exponent) :
    if digits ≤ quotient then
      RoundsTo (quotient * 10 ^ power) significand exponent
    else
      RoundsTo ((quotient + 1 : Nat) * 10 ^ power) significand exponent := by
  have grid : (0 : ℚ) ≤ 10 ^ power := by positivity
  have self := roundsTo_self significand exponent
  have := liesPast.notNegative
  have := liesPast.proper
  split
  · rename_i isBelow
    have isBelow : (digits : ℚ) ≤ quotient := by exact_mod_cast isBelow
    refine roundsTo.convex self (mul_le_mul_of_nonneg_right isBelow grid) ?_
    rw [liesPast.number_eq]
    exact mul_le_mul_of_nonneg_right (by linarith) grid
  · rename_i isAbove
    have isAbove : ((quotient + 1 : Nat) : ℚ) ≤ digits := by
      exact_mod_cast Nat.lt_of_not_le isAbove
    refine self.convex roundsTo ?_ (mul_le_mul_of_nonneg_right isAbove grid)
    rw [liesPast.number_eq]
    push_cast
    exact mul_le_mul_of_nonneg_right (by linarith) grid

end LiesPast

/-- The quotient and the remainder tell where the number lies on a grid. -/
theorem Describes.liesPast
    (describes : interval.Describes significand exponent)
    (power : Int) :
    let numerator := interval.value * powerDenominator 10 power
    let denominator := interval.denominator * powerNumerator 10 power
    0 < denominator ∧
      LiesPast (significand * 2 ^ exponent) power (numerator / denominator)
        ((numerator % denominator : Nat) / denominator) := by
  intro numerator denominator
  have positive : 0 < denominator :=
    Nat.mul_pos describes.positive (Nat.pow_pos (by decide))
  have positive' : (0 : ℚ) < denominator := Nat.cast_pos.mpr positive
  refine ⟨positive, by positivity, ?_, ?_⟩
  · rw [div_lt_one positive']
    exact Nat.cast_lt.mpr (Nat.mod_lt _ positive)
  · have divided : (numerator : ℚ) =
        denominator * (numerator / denominator : Nat) +
            (numerator % denominator : Nat) := by
      exact_mod_cast (Nat.div_add_mod numerator denominator).symm
    have whole :
        ((numerator / denominator : Nat) +
          ((numerator % denominator : Nat) : ℚ) / denominator) =
          numerator / denominator := by
      rw [divided]
      field_simp
    have unit : (powerDenominator 10 power : ℚ) ≠ 0 :=
      Nat.cast_ne_zero.mpr (powerDenominator_pos (by decide) power).ne'
    have notZero : (interval.denominator : ℚ) ≠ 0 :=
      Nat.cast_ne_zero.mpr describes.positive.ne'
    have grid : (10 : ℚ) ^ power ≠ 0 := by positivity
    rw [whole]
    simp only [numerator, denominator]
    rw [Nat.cast_mul, Nat.cast_mul, describes.value, powerNumerator_eq (by decide)]
    push_cast
    field_simp

/--
The upper neighbour is taken if the number is past the middle, and not if it is
before.
-/
theorem takesUpper_spec
    (tie : Tie)
    (quotient remainder : Nat)
    {denominator : Nat}
    (positive : 0 < denominator) :
    (takesUpper tie quotient remainder denominator = true →
        (1 : ℚ) ≤ 2 * (remainder / denominator)) ∧
      (takesUpper tie quotient remainder denominator = false →
        2 * ((remainder : ℚ) / denominator) ≤ 1) ∧
      (takesUpper .upper quotient remainder denominator = false →
        2 * ((remainder : ℚ) / denominator) < 1) := by
  have positive' : (0 : ℚ) < denominator := Nat.cast_pos.mpr positive
  have least :
      (1 : ℚ) ≤ 2 * (remainder / denominator) ↔ denominator ≤ 2 * remainder := by
    rw [← mul_div_assoc, one_le_div positive']
    norm_cast
  have most :
      2 * ((remainder : ℚ) / denominator) ≤ 1 ↔ 2 * remainder ≤ denominator := by
    rw [← mul_div_assoc, div_le_one positive']
    norm_cast
  have less :
      2 * ((remainder : ℚ) / denominator) < 1 ↔ 2 * remainder < denominator := by
    rw [← mul_div_assoc, div_lt_one positive']
    norm_cast
  rw [least, most, less]
  unfold takesUpper
  refine ⟨?_, ?_, ?_⟩
  · split
    · omega
    · simp only [decide_eq_true_eq]
      omega
  · split
    · omega
    · simp only [decide_eq_false_iff_not]
      omega
  · split
    · simp
    · simp only [decide_eq_false_iff_not]
      omega

/--
The point below is the best one if it is the only neighbour, or the number is before
the middle.
-/
theorem LiesPast.best_below
    {quotient : Nat}
    {fraction : ℚ}
    (liesPast : LiesPast (significand * 2 ^ exponent) power quotient fraction)
    (roundsTo : RoundsTo ((quotient : ℚ) * 10 ^ power) significand exponent)
    (beforeMiddle :
      RoundsTo (((quotient + 1 : Nat) : ℚ) * 10 ^ power) significand exponent →
      2 * fraction ≤ 1 ∧ (tie = .upper → 2 * fraction < 1)) :
    Scaled.IsBestOnGrid ⟨quotient, power⟩ tie significand exponent where
  roundsTo := roundsTo
  nearest digits within := by
    have onSide := liesPast.roundsTo_neighbour within
    split at onSide
    · rename_i isBelow
      exact liesPast.below_nearest (.inl isBelow)
    · exact liesPast.below_nearest (.inr (beforeMiddle onSide).1)
  ties isUpper digits within isAbove := by
    have onSide := liesPast.roundsTo_neighbour within
    rw [if_neg (not_le.mpr isAbove)] at onSide
    exact liesPast.below_nearer isAbove ((beforeMiddle onSide).2 isUpper)

/--
The point above is the best one if it is the only neighbour, or the number is past
the middle.
-/
theorem LiesPast.best_above
    {quotient : Nat}
    {fraction : ℚ}
    (liesPast : LiesPast (significand * 2 ^ exponent) power quotient fraction)
    (roundsTo :
      RoundsTo (((quotient + 1 : Nat) : ℚ) * 10 ^ power) significand exponent)
    (pastMiddle :
      RoundsTo ((quotient : ℚ) * 10 ^ power) significand exponent →
      1 ≤ 2 * fraction) :
    Scaled.IsBestOnGrid ⟨quotient + 1, power⟩ tie significand exponent where
  roundsTo := roundsTo
  nearest digits within := by
    have onSide := liesPast.roundsTo_neighbour within
    split at onSide
    · exact liesPast.above_nearest (.inr (pastMiddle onSide))
    · rename_i isAbove
      exact liesPast.above_nearest (.inl (not_le.mp isAbove))
  ties _ digits _ isAbove :=
    liesPast.above_nearer isAbove

/-- On a grid the best decimal is found, if any there is rounded to the number. -/
theorem Describes.onGrid?_spec
    (describes : interval.Describes significand exponent)
    (tie : Tie)
    (power : Int) :
    (∃ shown,
        interval.onGrid? tie power = some shown ∧
        shown.power = power ∧
        shown.IsBestOnGrid tie significand exponent) ∨
      interval.onGrid? tie power = none ∧
        ∀ digits : Nat,
            ¬RoundsTo ((digits : ℚ) * 10 ^ power) significand exponent := by
  obtain ⟨positive, liesPast⟩ := describes.liesPast power
  have middle (quotient remainder : Nat) :=
    takesUpper_spec tie quotient remainder positive
  simp only [onGrid?]
  cases isBelow : interval.contains
      ⟨interval.value * powerDenominator 10 power /
        (interval.denominator * powerNumerator 10 power), power⟩ with
  | true =>
      have below := describes.contains_iff.mp isBelow
      cases isAbove : interval.contains
          ⟨interval.value * powerDenominator 10 power /
            (interval.denominator * powerNumerator 10 power) + 1, power⟩ with
      | true =>
          have above := describes.contains_iff.mp isAbove
          simp only
          split
          · rename_i takes
            exact .inl ⟨_, rfl, rfl, liesPast.best_above above fun _ =>
              (middle _ _).1 takes⟩
          · rename_i takes
            rw [Bool.not_eq_true] at takes
            refine .inl ⟨_, rfl, rfl, liesPast.best_below below fun _ => ?_⟩
            refine ⟨(middle _ _).2.1 takes, ?_⟩
            rintro rfl
            exact (middle _ _).2.2 takes
      | false =>
          refine .inl ⟨_, rfl, rfl, liesPast.best_below below fun above => ?_⟩
          rw [describes.contains_iff.mpr above] at isAbove
          cases isAbove
  | false =>
      have notBelow := mt describes.contains_iff.mpr (Bool.not_eq_true _ ▸ isBelow)
      cases isAbove : interval.contains
          ⟨interval.value * powerDenominator 10 power /
            (interval.denominator * powerNumerator 10 power) + 1, power⟩ with
      | true =>
          have above := describes.contains_iff.mp isAbove
          exact .inl ⟨_, rfl, rfl, liesPast.best_above above fun below =>
            absurd below notBelow⟩
      | false =>
          have notAbove :=
            mt describes.contains_iff.mpr (Bool.not_eq_true _ ▸ isAbove)
          refine .inr ⟨rfl, fun digits within => ?_⟩
          have onSide := liesPast.roundsTo_neighbour within
          split at onSide
          · exact notBelow onSide
          · exact notAbove onSide

/-! ## The search for a grid -/

/-- What is found on a range comes from the first number that gives anything. -/
theorem findSome?_range_eq_some_iff
    {α : Type}
    {found : Nat → Option α}
    {count : Nat}
    {result : α} :
    (List.range count).findSome? found = some result ↔
      ∃ first < count,
          found first = some result ∧ ∀ earlier < first, found earlier = none := by
  induction count with
  | zero =>
      simp
  | succ count inductionHypothesis =>
      rw [List.range_succ, List.findSome?_append, Option.or_eq_some_iff,
        inductionHypothesis, List.findSome?_eq_none_iff, List.findSome?_singleton]
      simp only [List.mem_range]
      constructor
      · rintro (⟨first, isLess, isFound, isFirst⟩ | ⟨noEarlier, isFound⟩)
        · exact ⟨first, Nat.lt_succ_of_lt isLess, isFound, isFirst⟩
        · exact ⟨count, Nat.lt_succ_self count, isFound, noEarlier⟩
      · rintro ⟨first, isLess, isFound, isFirst⟩
        rcases Nat.lt_succ_iff_lt_or_eq.mp isLess with isLess | rfl
        · exact .inl ⟨first, isLess, isFound, isFirst⟩
        · exact .inr ⟨isFirst, isFound⟩

/-- The power at the top is one of ten that exceeds the interval, but by little. -/
theorem Describes.topPower_bounds
    (describes : interval.Describes significand exponent) :
    (10 : ℚ) ^ (interval.topPower - 2) < (significand + 1 / 2) * 2 ^ exponent ∧
      ((significand + 1 / 2) * 2 ^ exponent : ℚ) < 10 ^ interval.topPower := by
  have positive : (0 : ℚ) < interval.denominator :=
    Nat.cast_pos.mpr describes.positive
  have isUpper : (significand + 1 / 2 : ℚ) * 2 ^ exponent =
      interval.upper / interval.denominator := by
    rw [describes.upper, mul_div_cancel_right₀ _ positive.ne']
  have upperNotZero : interval.upper ≠ 0 := by
    intro isZero
    have scaled : (0 : ℚ) < (significand + 1 / 2) * 2 ^ exponent := by positivity
    rw [isUpper, isZero] at scaled
    simp at scaled
  obtain ⟨upperLeast, upperGreatest⟩ := decimal_bounds upperNotZero 0
  obtain ⟨least, greatest⟩ := decimal_bounds describes.positive.ne' 0
  rw [zpow_zero, mul_one, add_zero] at upperLeast upperGreatest least greatest
  rw [isUpper, topPower]
  constructor
  · rw [lt_div_iff₀ positive]
    calc
      _ < (10 : ℚ) ^ (((Nat.toDigits 10 interval.upper).length : Int) -
            (Nat.toDigits 10 interval.denominator).length + 1 - 2) *
          10 ^ ((Nat.toDigits 10 interval.denominator).length : Int) :=
        mul_lt_mul_of_pos_left greatest (by positivity)
      _ = 10 ^ (((Nat.toDigits 10 interval.upper).length : Int) - 1) := by
        rw [← zpow_add₀ (by norm_num)]
        congr 1
        omega
      _ ≤ interval.upper := upperLeast
  · rw [div_lt_iff₀ positive]
    calc
      (interval.upper : ℚ) < 10 ^ ((Nat.toDigits 10 interval.upper).length : Int) :=
        upperGreatest
      _ = 10 ^ (((Nat.toDigits 10 interval.upper).length : Int) -
            (Nat.toDigits 10 interval.denominator).length + 1) *
          10 ^ (((Nat.toDigits 10 interval.denominator).length : Int) - 1) := by
        rw [← zpow_add₀ (by norm_num)]
        congr 1
        omega
      _ ≤ _ := mul_le_mul_of_nonneg_left least (by positivity)

/-- No decimal on a grid above the top is rounded to the number. -/
theorem Describes.power_lt
    (describes : interval.Describes significand exponent)
    (isNumber : IsNumber significand exponent)
    (roundsTo : RoundsTo ((digits : ℚ) * 10 ^ power) significand exponent) :
    power < interval.topPower := by
  have notZero : digits ≠ 0 := by
    rintro rfl
    have := roundsTo.positive isNumber
    simp at this
  have atLeast : (1 : ℚ) ≤ digits := by exact_mod_cast Nat.pos_of_ne_zero notZero
  have below : (10 : ℚ) ^ power < 10 ^ interval.topPower :=
    calc
      (10 : ℚ) ^ power ≤ digits * 10 ^ power :=
        le_mul_of_one_le_left (by positivity) atLeast
      _ ≤ (significand + 1 / 2) * 2 ^ exponent := roundsTo.le.2
      _ < 10 ^ interval.topPower := describes.topPower_bounds.2
  exact (zpow_lt_zpow_iff_right₀ (by norm_num)).mp below

/--
The twentieth grid is fine enough to have a decimal that is rounded to the number.
-/
theorem Describes.exists_roundsTo
    (describes : interval.Describes significand exponent)
    (isNumber : IsNumber significand exponent) :
    ∃ digits : Nat,
      RoundsTo ((digits : ℚ) * 10 ^ (interval.topPower - 19)) significand
          exponent := by
  have positive : (0 : ℚ) < 2 ^ exponent := by positivity
  have atMost : (significand : ℚ) + 1 ≤ 2 ^ 53 := by exact_mod_cast isNumber.bounded
  obtain ⟨_, liesPast⟩ := describes.liesPast (interval.topPower - 19)
  generalize interval.value * powerDenominator 10 (interval.topPower - 19) /
    (interval.denominator * powerNumerator 10 (interval.topPower - 19)) =
      quotient at liesPast
  have step :
      (10 : ℚ) ^ 17 * 10 ^ (interval.topPower - 19) =
        10 ^ (interval.topPower - 2) :=
    pow_mul_zpow (by norm_num) (by push_cast; omega)
  have top := describes.topPower_bounds.1
  rw [← step] at top
  -- The grid is finer than half a unit of the significand.
  have fine : (10 : ℚ) ^ (interval.topPower - 19) < 1 / 2 * 2 ^ exponent := by
    nlinarith
  obtain ⟨above, near⟩ := liesPast.next
  have margin := (margin_le significand exponent).1
  refine ⟨_, .ofStrict (lt_trans ?_ above) (near.trans_lt ?_)⟩
  · exact mul_lt_mul_of_pos_right (by linarith) positive
  · linarith

/-- The best decimal on the coarsest grid is found, with twenty grids to search. -/
theorem Describes.shortest_spec
    (describes : interval.Describes significand exponent)
    (isNumber : IsNumber significand exponent)
    (tie : Tie) :
    (interval.shortest tie).IsBestOnGrid tie significand exponent ∧
      ∀ (digits : Nat) (power : Int),
        RoundsTo (digits * 10 ^ power) significand exponent →
        power ≤ (interval.shortest tie).power := by
  have finds (power : Int) := describes.onGrid?_spec tie power
  obtain ⟨digits, within⟩ := describes.exists_roundsTo isNumber
  -- The last of the grids has a decimal, so one of them is the first that has.
  obtain ⟨shown, isShown⟩ :
      ∃ shown,
        (List.range 20).findSome?
            (fun (step : Nat) =>
              interval.onGrid? tie (interval.topPower - (step : Int))) =
          some shown := by
    rw [← Option.isSome_iff_exists, Option.isSome_iff_ne_none, ne_eq,
      List.findSome?_eq_none_iff]
    intro noneFound
    rcases finds (interval.topPower - 19) with ⟨shown, isFound, _⟩ | ⟨_, noneWithin⟩
    · have isNone : interval.onGrid? tie (interval.topPower - 19) = none :=
        noneFound 19 (by simp)
      cases isNone.symm.trans isFound
    · exact noneWithin digits within
  have isShortest : interval.shortest tie = shown := by
    simp only [shortest, List.findSome?_map, Function.comp_def, isShown,
      Option.getD_some]
  obtain ⟨first, _, isFound, isFirst⟩ := findSome?_range_eq_some_iff.mp isShown
  rw [isShortest]
  rcases finds (interval.topPower - first) with
    ⟨found, isFoundToo, isPower, isBest⟩ | ⟨isNone, _⟩
  · rw [isFound] at isFoundToo
    cases isFoundToo
    refine ⟨isBest, fun digits power roundsTo => ?_⟩
    have isBelow := describes.power_lt isNumber roundsTo
    by_contra isCoarser
    rw [not_le, isPower] at isCoarser
    have isEarlier := isFirst (interval.topPower - power).toNat (by omega)
    rw [show interval.topPower - ((interval.topPower - power).toNat : Int) = power
      by omega] at isEarlier
    rcases finds power with ⟨_, isFoundEarlier, _⟩ | ⟨_, noneWithin⟩
    · rw [isEarlier] at isFoundEarlier
      cases isFoundEarlier
    · exact noneWithin digits roundsTo
  · rw [isFound] at isNone
    cases isNone

end RoundingInterval

namespace Binary64

variable
  {significand digits : Nat}
  {exponent power : Int}
  {shown : Scaled}
  {tie : Tie}

/-! ## Fewest digits -/

/-- In units of the least number, the power of ten above it is between 2 and 3. -/
theorem least_power_of_ten :
    (2 : ℚ) < 10 ^ (-323 : Int) * 2 ^ 1074 ∧
      (10 : ℚ) ^ (-323 : Int) * 2 ^ 1074 < 21 / 10 := by
  have positive : (0 : ℚ) < 10 ^ 323 := by positivity
  have inverse : (10 : ℚ) ^ (-323 : Int) = (10 ^ 323)⁻¹ := rfl
  rw [inverse, lt_inv_mul_iff₀ positive, inv_mul_lt_iff₀ positive]
  constructor
  · exact_mod_cast (by decide +kernel : 10 ^ 323 * 2 < 2 ^ 1074)
  · rw [← mul_div_assoc, lt_div_iff₀ (by norm_num)]
    exact_mod_cast (by decide +kernel : 2 ^ 1074 * 10 < 10 ^ 323 * 21)

/--
It is the only power of ten that is larger but not much larger than the least
number.
-/
theorem power_eq_of_units
    (above : 1 < (10 : ℚ) ^ power * 2 ^ 1074)
    (below : (10 : ℚ) ^ power * 2 ^ 1074 < 20) :
    power = -323 := by
  have units : (0 : ℚ) ≤ 2 ^ 1074 := by positivity
  obtain ⟨moreThanTwo, lessThanThree⟩ := least_power_of_ten
  generalize isSize :
      (10 : ℚ) ^ (-323 : Int) * 2 ^ 1074 = size at moreThanTwo lessThanThree
  have notLarger : power < -322 := by
    by_contra isLarger
    have least : (10 : ℚ) ^ (-323 + 1 : Int) * 2 ^ 1074 ≤ 10 ^ power * 2 ^ 1074 :=
      mul_le_mul_of_nonneg_right
        (zpow_le_zpow_right₀ (by norm_num) (not_lt.mp isLarger)) units
    rw [zpow_add_one₀ (by norm_num), mul_right_comm, isSize] at least
    have := least.trans_lt below
    linarith only [this, moreThanTwo]
  have notSmaller : -324 < power := by
    by_contra isSmaller
    have greatest : (10 : ℚ) ^ power * 2 ^ 1074 ≤ 10 ^ (-323 - 1 : Int) * 2 ^ 1074 :=
      mul_le_mul_of_nonneg_right
        (zpow_le_zpow_right₀ (by norm_num) (not_lt.mp isSmaller)) units
    rw [zpow_sub_one₀ (by norm_num), mul_right_comm, isSize] at greatest
    have := above.trans_le greatest
    linarith only [this, lessThanThree]
  omega

/--
A power of ten that rounds to a number is nearer to it than nine tenths of the power
are.  Only among the very smallest numbers might this have been otherwise.
-/
theorem power_of_ten_closer
    (isNumber : IsNumber significand exponent)
    (roundsTo : RoundsTo (10 ^ power) significand exponent) :
    (95 / 100 : ℚ) * 10 ^ power ≤ significand * 2 ^ exponent := by
  by_contra isFar
  rw [not_le] at isFar
  have upper := roundsTo.le.2
  have positive : (0 : ℚ) < 2 ^ exponent := by positivity
  have atLeast : (1 : ℚ) ≤ significand := by exact_mod_cast isNumber.positive
  have isSmall : (significand : ℚ) < 10 := by
    by_contra isLarge
    rw [not_lt] at isLarge
    nlinarith
  have isLeast : exponent = -1074 := by
    refine isNumber.normal.resolve_right fun isNormal => ?_
    have isNormal : ((2 ^ 52 : Nat) : ℚ) ≤ significand := Nat.cast_le.mpr isNormal
    push_cast at isNormal
    linarith
  subst isLeast
  have unit : (2 : ℚ) ^ (-1074 : Int) * 2 ^ 1074 = 1 := by
    rw [mul_comm]
    exact pow_mul_zpow two_ne_zero rfl
  have units : (0 : ℚ) < 2 ^ 1074 := by positivity
  have below : (significand : ℚ) < 95 / 100 * (10 ^ power * 2 ^ 1074) := by
    have scaled := mul_lt_mul_of_pos_right isFar units
    rwa [mul_assoc, unit, mul_one, mul_assoc] at scaled
  have above : (10 : ℚ) ^ power * 2 ^ 1074 ≤ significand + 1 / 2 := by
    have scaled := mul_le_mul_of_nonneg_right upper units.le
    rwa [mul_assoc _ _ ((2 : ℚ) ^ 1074), unit, mul_one] at scaled
  have isPower : power = -323 := by
    apply power_eq_of_units
    · generalize (10 : ℚ) ^ power * 2 ^ 1074 = size at below ⊢
      linarith only [atLeast, below]
    · exact above.trans_lt (by linarith only [isSmall])
  rw [isPower] at below above
  obtain ⟨moreThanTwo, lessThanThree⟩ := least_power_of_ten
  generalize (10 : ℚ) ^ (-323 : Int) * 2 ^ 1074 = size at *
  have isTwo : ((1 : Nat) : ℚ) < significand := by
    push_cast
    linarith only [moreThanTwo, above]
  have isTwo : ((2 : Nat) : ℚ) ≤ significand :=
    Nat.cast_le.mpr (Nat.cast_lt.mp isTwo)
  push_cast at isTwo
  linarith only [isTwo, below, lessThanThree]

end Binary64

/--
The shortest decimal for a number.  It is read as the number, as are none with
fewer digits.  Of those with as many digits it is the nearest, and of two that are
equally near the greater.
-/
structure Scaled.IsShortest
    (shown : Scaled)
    (significand : Nat)
    (exponent : Int) : Prop where
  readsBack :
    shown.Reads significand exponent
  fewest :
    ∀ other : Scaled,
      other.Reads significand exponent →
      shown.length ≤ other.length
  nearest :
    ∀ other : Scaled,
      other.Reads significand exponent →
      other.length = shown.length →
      shown.distance significand exponent ≤ other.distance significand exponent
  ties :
    ∀ other : Scaled,
      other.Reads significand exponent →
      other.length = shown.length →
      shown.value < other.value →
      shown.distance significand exponent < other.distance significand exponent

namespace Scaled

open Binary64

variable
  {significand : Nat}
  {exponent : Int}
  {shown other : Scaled}
  {tie : Tie}

/-- A decimal is read as a number just where it is rounded to it. -/
theorem reads_iff
    (isNumber : IsNumber significand exponent)
    (inRange : exponent ≤ greatestExponent) :
    other.Reads significand exponent ↔ RoundsTo other.value significand exponent :=
  ofDecimal_eq_finite_iff isNumber inRange

/--
A decimal that is not zero lies between the powers of ten that its length tells.
-/
theorem value_bounds
    (notZero : other.digits ≠ 0) :
    (10 : ℚ) ^ ((other.length : Int) + other.power - 1) ≤ other.value ∧
      other.value < 10 ^ ((other.length : Int) + other.power) :=
  decimal_bounds notZero other.power

theorem digits_ne_zero
    (isNumber : IsNumber significand exponent)
    (roundsTo : RoundsTo other.value significand exponent) :
    other.digits ≠ 0 := by
  intro isZero
  have := roundsTo.positive isNumber
  rw [value, isZero] at this
  simp at this

section

variable
  (isNumber : IsNumber significand exponent)
  (isBest : shown.IsBestOnGrid tie significand exponent)
  (coarsest :
    ∀ (digits : Nat) (power : Int),
      RoundsTo (digits * 10 ^ power) significand exponent → power ≤ shown.power)

include isNumber isBest coarsest

/--
Where something no longer is rounded to the number on a finer grid, there is a power
of ten between the two, so that the best decimal on the coarsest grid is one digit.
-/
theorem length_eq_one_of_finer
    (roundsTo : RoundsTo other.value significand exponent)
    (isShort : other.length + other.power < shown.length + shown.power) :
    shown.length = 1 ∧
      other.value < 10 ^ shown.power ∧
      RoundsTo (10 ^ shown.power) significand exponent := by
  obtain ⟨_, below⟩ := value_bounds (digits_ne_zero isNumber roundsTo)
  obtain ⟨above, _⟩ := value_bounds (digits_ne_zero isNumber isBest.roundsTo)
  have between : (10 : ℚ) ^ ((other.length : Int) + other.power) ≤
      10 ^ ((shown.length : Int) + shown.power - 1) :=
    zpow_le_zpow_right₀ (by norm_num) (by omega)
  have isRounded :
      RoundsTo (10 ^ ((shown.length : Int) + shown.power - 1))
          significand exponent :=
    roundsTo.convex isBest.roundsTo (below.le.trans between) above
  have isCoarse :=
    coarsest 1 ((shown.length : Int) + shown.power - 1) (by simpa using isRounded)
  have positive : 0 < shown.length := Nat.length_toDigits_pos
  have isOne : shown.length = 1 := by omega
  have isPower : (shown.length : Int) + shown.power - 1 = shown.power := by omega
  rw [isPower] at between isRounded
  exact ⟨isOne, below.trans_le between, isRounded⟩

/-- The best decimal on the coarsest grid has the fewest digits. -/
theorem length_le
    (roundsTo : RoundsTo other.value significand exponent) :
    shown.length ≤ other.length := by
  by_contra isShorter
  have isCoarser := coarsest other.digits other.power roundsTo
  obtain ⟨isOne, _⟩ :=
    length_eq_one_of_finer isNumber isBest coarsest roundsTo (by omega)
  have positive : 0 < other.length := Nat.length_toDigits_pos
  omega

/-- On a finer grid nothing as short is nearer. -/
theorem distance_le_of_finer
    (roundsTo : RoundsTo other.value significand exponent)
    (sameLength : other.length = shown.length)
    (isFiner : other.power < shown.power) :
    shown.distance significand exponent ≤ other.distance significand exponent := by
  obtain ⟨isOne, below, isRounded⟩ :=
    length_eq_one_of_finer isNumber isBest coarsest roundsTo (by omega)
  have close := power_of_ten_closer isNumber isRounded
  have nearest := isBest.nearest 1 (by simpa using isRounded)
  refine nearest.trans ?_
  have isDigit : other.digits < 10 ^ 1 :=
    (Nat.length_toDigits_le_iff (by decide) Nat.one_pos).mp
      (sameLength.trans isOne).le
  have isDigit : (other.digits : ℚ) ≤ 9 := by
    exact_mod_cast Nat.le_of_lt_succ isDigit
  have isSmall : other.value ≤ 9 / 10 * 10 ^ shown.power :=
    calc
      other.value ≤ 9 * 10 ^ (shown.power - 1) :=
        mul_le_mul isDigit (zpow_le_zpow_right₀ (by norm_num) (by omega))
          (by positivity)
          (by norm_num)
      _ = 9 / 10 * 10 ^ shown.power := by
        rw [zpow_sub_one₀ (by norm_num)]
        ring
  have positive : (0 : ℚ) < 10 ^ shown.power := by positivity
  simp only [distance, value, Nat.cast_one, one_mul] at isSmall below ⊢
  generalize (other.digits : ℚ) * 10 ^ other.power = lesser at *
  generalize (10 : ℚ) ^ shown.power = greater at *
  generalize (significand : ℚ) * 2 ^ exponent = number at *
  rw [abs_sub_comm lesser]
  refine le_abs.mpr (.inl (abs_le.mpr ⟨?_, ?_⟩)) <;> linarith

/-- No decimal that is as short is nearer. -/
theorem distance_le
    (roundsTo : RoundsTo other.value significand exponent)
    (sameLength : other.length = shown.length) :
    shown.distance significand exponent ≤ other.distance significand exponent := by
  rcases (coarsest other.digits other.power roundsTo).lt_or_eq with
    isFiner | samePower
  · exact distance_le_of_finer isNumber isBest coarsest roundsTo sameLength isFiner
  · obtain ⟨digits, power⟩ := other
    cases samePower
    exact isBest.nearest digits roundsTo

/-- If ties go up, no decimal that is as short and greater is as near. -/
theorem distance_lt
    (isUpper : tie = .upper)
    (roundsTo : RoundsTo other.value significand exponent)
    (sameLength : other.length = shown.length)
    (isGreater : shown.value < other.value) :
    shown.distance significand exponent < other.distance significand exponent := by
  have positive : (0 : ℚ) < 10 ^ shown.power := by positivity
  rcases (coarsest other.digits other.power roundsTo).lt_or_eq with
    isFiner | samePower
  · obtain ⟨_, below, _⟩ :=
      length_eq_one_of_finer isNumber isBest coarsest roundsTo (by omega)
    have atLeast : (1 : ℚ) ≤ shown.digits := by
      exact_mod_cast Nat.pos_of_ne_zero (digits_ne_zero isNumber isBest.roundsTo)
    have above : (10 : ℚ) ^ shown.power ≤ shown.value :=
      le_mul_of_one_le_left positive.le atLeast
    exact absurd (below.trans_le above) isGreater.not_gt
  · obtain ⟨digits, power⟩ := other
    cases samePower
    have isGreater : shown.digits < digits :=
      Nat.cast_lt.mp (lt_of_mul_lt_mul_right isGreater positive.le)
    exact isBest.ties isUpper digits roundsTo isGreater

end

end Scaled

namespace Binary64

variable
  {significand : Nat}
  {exponent : Int}

/-- What is shown of a positive number is its shortest decimal. -/
theorem isShortest_shortest
    (isNumber : IsNumber significand exponent)
    (inRange : exponent ≤ greatestExponent) :
    (shortest .upper significand exponent).IsShortest significand exponent := by
  obtain ⟨isBest, coarsest⟩ :=
    (RoundingInterval.describes_around isNumber.positive exponent).shortest_spec
      isNumber .upper
  have reads (other : Scaled) := other.reads_iff isNumber inRange
  exact
    { readsBack := (reads _).mpr isBest.roundsTo
      fewest := fun other isRead =>
        Scaled.length_le isNumber isBest coarsest ((reads other).mp isRead)
      nearest := fun other isRead =>
        Scaled.distance_le isNumber isBest coarsest ((reads other).mp isRead)
      ties := fun other isRead =>
        Scaled.distance_lt isNumber isBest coarsest rfl ((reads other).mp isRead) }

example : (shortest .upper 5404319552844595 (-54)) = ⟨3, -1⟩ := by
  decide +kernel

end Binary64

end Dispatch.Decimal
