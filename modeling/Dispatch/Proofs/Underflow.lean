import Mathlib
import Dispatch.Decimal.Binary64

namespace Dispatch.Decimal

/-!
# Rounding to zero

A decimal number is rounded to the nearest number of the format.  The least
positive one is `2 ^ -1074`, so a number is rounded to zero if it is at most half
of that; the tie goes to zero, whose significand is even.  Every larger number is
rounded at a power of two at which it has a significand.
-/

/-! ## Fractions -/

theorem powerDenominator_pos
    {base : Nat}
    (positive : 0 < base)
    (power : Int) :
    0 < powerDenominator base power :=
  Nat.pow_pos positive

/-- The two parts of a power make up the power. -/
theorem powerNumerator_eq
    {base : Nat}
    (positive : 0 < base)
    (power : Int) :
    (powerNumerator base power : ℚ) =
        base ^ power * powerDenominator base power := by
  have notZero : (base : ℚ) ≠ 0 := by positivity
  simp only [powerNumerator, powerDenominator, Nat.pow_eq, Nat.cast_pow,
    ← zpow_natCast]
  rw [← zpow_add₀ notZero]
  congr 1
  omega

/-- A fraction is rounded to zero if it is at most one half. -/
theorem roundHalfEven_eq_zero_iff
    {numerator denominator : Nat}
    (positive : 0 < denominator) :
    roundHalfEven numerator denominator = 0 ↔ 2 * numerator ≤ denominator := by
  have divided := Nat.div_add_mod numerator denominator
  by_cases small : numerator < denominator
  · simp only [roundHalfEven, Nat.div_eq_of_lt small, Nat.mod_eq_of_lt small]
    split
    · omega
    · split <;> simp <;> omega
  · have quotient : 0 < numerator / denominator :=
      Nat.div_pos (Nat.le_of_not_lt small) positive
    simp only [roundHalfEven]
    split
    · omega
    · split
      · omega
      · split <;> omega

namespace Binary64

/--
Scaled by a power of two, a fraction is rounded to zero if it is at most half of the
inverse.
-/
theorem rounded_eq_zero_iff
    {numerator denominator : Nat}
    (positive : 0 < denominator)
    (exponent : Int) :
    roundHalfEven
        (numerator * powerDenominator 2 exponent)
        (denominator * powerNumerator 2 exponent) = 0 ↔
      (numerator : ℚ) / denominator ≤ 2 ^ (exponent - 1) := by
  have scale : (0 : ℚ) < powerDenominator 2 exponent :=
    Nat.cast_pos.mpr (powerDenominator_pos (by decide) exponent)
  have scaled : 0 < denominator * powerNumerator 2 exponent :=
    Nat.mul_pos positive (Nat.pow_pos (by decide))
  rw [roundHalfEven_eq_zero_iff scaled, ← Nat.cast_le (α := ℚ)]
  rw [div_le_iff₀ (Nat.cast_pos.mpr positive), zpow_sub_one₀ (by decide)]
  push_cast
  rw [powerNumerator_eq (by decide)]
  calc
    (2 * (numerator * powerDenominator 2 exponent) : ℚ) ≤
        denominator * (((2 : Nat) : ℚ) ^ exponent * powerDenominator 2 exponent)
      ↔ (2 * numerator : ℚ) * powerDenominator 2 exponent ≤
          (denominator * 2 ^ exponent) * powerDenominator 2 exponent := by
        push_cast
        simp only [mul_assoc]
    _ ↔ (2 * numerator : ℚ) ≤ denominator * 2 ^ exponent :=
      mul_le_mul_iff_left₀ scale
    _ ↔ (numerator : ℚ) ≤ 2 ^ exponent * 2⁻¹ * denominator := by
        constructor <;> intro bounded <;> linarith

/-- A fraction is larger than what the lengths of its parts leave at least. -/
theorem lt_of_log2
    {numerator denominator : Nat}
    (notZero : numerator ≠ 0)
    (positive : 0 < denominator) :
    (2 : ℚ) ^ ((numerator.log2 : Int) - denominator.log2 - 1) <
      numerator / denominator := by
  have least : ((2 ^ numerator.log2 : Nat) : ℚ) ≤ numerator :=
    Nat.cast_le.mpr (Nat.log2_self_le notZero)
  have greatest : (denominator : ℚ) < ((2 ^ (denominator.log2 + 1) : Nat) : ℚ) :=
    Nat.cast_lt.mpr Nat.lt_log2_self
  push_cast at least greatest
  rw [lt_div_iff₀ (Nat.cast_pos.mpr positive)]
  calc
    (2 : ℚ) ^ ((numerator.log2 : Int) - denominator.log2 - 1) * denominator
      < 2 ^ ((numerator.log2 : Int) - denominator.log2 - 1) *
          2 ^ (denominator.log2 + 1) :=
        mul_lt_mul_of_pos_left greatest (by positivity)
    _ = 2 ^ numerator.log2 := by
        rw [← zpow_natCast, ← zpow_natCast, ← zpow_add₀ (by decide)]
        congr 1
        push_cast
        omega
    _ ≤ numerator := least

/--
The power of two is the least one, or one at which the fraction has a significand.
-/
theorem exponentOf_cases
    (numerator denominator : Nat) :
    exponentOf numerator denominator = leastExponent ∨
      leastExponent < exponentOf numerator denominator ∧
      exponentOf numerator denominator ≤
        (numerator.log2 : Int) - denominator.log2 - 52 := by
  simp only [exponentOf]
  split <;> omega

/-- What is rounded to a zero is a zero, unless its power of two is out of range. -/
theorem isZero_ofFraction
    {numerator denominator : Nat}
    (notZero : numerator ≠ 0)
    (negative : Bool) :
    (ofFraction negative numerator denominator).isZero = true ↔
      roundHalfEven
          (numerator * powerDenominator 2 (exponentOf numerator denominator))
          (denominator * powerNumerator 2 (exponentOf numerator denominator)) = 0 ∧
        exponentOf numerator denominator ≤ greatestExponent := by
  simp only [ofFraction, if_neg notZero]
  generalize exponentOf numerator denominator = exponent
  generalize roundHalfEven _ _ = rounded
  by_cases vanishes : rounded = 0
  · subst vanishes
    by_cases inRange : greatestExponent < exponent
    · simp [inRange, isZero, not_le.mpr inRange]
    · simp [inRange, isZero, not_lt.mp inRange]
  · simp only [vanishes, false_and, iff_false]
    by_cases carried : rounded = Nat.pow 2 53
    · simp only [carried, decide_true, if_true]
      split <;> simp [isZero]
    · simp only [carried, decide_false, Bool.false_eq_true, if_false]
      split <;> simp [isZero, vanishes]

/--
A fraction is rounded to zero if it is at most half of the least positive number.
-/
theorem isZero_ofFraction_iff
    {numerator denominator : Nat}
    (positive : 0 < denominator)
    (negative : Bool) :
    (ofFraction negative numerator denominator).isZero = true ↔
      (numerator : ℚ) / denominator ≤ 2 ^ (-1075 : Int) := by
  by_cases notZero : numerator = 0
  · subst notZero
    simp [ofFraction, zero, isZero]
  · rw [isZero_ofFraction notZero, rounded_eq_zero_iff positive]
    have large := lt_of_log2 notZero positive
    rcases exponentOf_cases numerator denominator with isLeast | ⟨notLeast, bounded⟩
    · rw [isLeast]
      exact and_iff_left (by decide)
    · -- There is a significand, as the fraction is far larger than the power of two.
      have above (exponent : Int)
          (low : exponent ≤ (numerator.log2 : Int) - denominator.log2 - 1) :
          ¬(numerator : ℚ) / denominator ≤ 2 ^ exponent :=
        not_le.mpr (lt_of_le_of_lt (zpow_le_zpow_right₀ (by norm_num) low) large)
      simp only [leastExponent] at notLeast
      simp only [above (exponentOf numerator denominator - 1) (by omega),
        above (-1075) (by omega), false_and]

/-- A decimal lies between the powers of ten that its number of places tells. -/
theorem decimal_bounds
    {digits : Nat}
    (notZero : digits ≠ 0)
    (power : Int) :
    (10 : ℚ) ^ (((Nat.toDigits 10 digits).length : Int) + power - 1) ≤
        digits * 10 ^ power ∧
      (digits : ℚ) * 10 ^ power <
        10 ^ (((Nat.toDigits 10 digits).length : Int) + power) := by
  obtain ⟨others, length⟩ : ∃ others, (Nat.toDigits 10 digits).length = others + 1 :=
    Nat.exists_eq_succ_of_ne_zero Nat.length_toDigits_pos.ne'
  have below : digits < 10 ^ (others + 1) :=
    (Nat.length_toDigits_le_iff (by decide) (Nat.succ_pos others)).mp length.le
  have above : 10 ^ others ≤ digits := by
    cases others with
    | zero =>
        exact Nat.pos_of_ne_zero notZero
    | succ others =>
        refine Nat.le_of_not_lt fun fewer => ?_
        have shorter :=
          (Nat.length_toDigits_le_iff (by decide) (Nat.succ_pos others)).mpr fewer
        omega
  have positive : (0 : ℚ) < 10 ^ power := by positivity
  rw [length]
  constructor
  · calc
      (10 : ℚ) ^ (((others + 1 : Nat) : Int) + power - 1) =
          10 ^ others * 10 ^ power := by
        rw [← zpow_natCast, ← zpow_add₀ (by decide)]
        congr 1
        push_cast
        omega
      _ ≤ digits * 10 ^ power := by
        refine mul_le_mul_of_nonneg_right ?_ positive.le
        exact_mod_cast above
  · calc
      (digits : ℚ) * 10 ^ power < 10 ^ (others + 1) * 10 ^ power := by
        refine mul_lt_mul_of_pos_right ?_ positive
        exact_mod_cast below
      _ = 10 ^ (((others + 1 : Nat) : Int) + power) := by
        rw [← zpow_natCast, ← zpow_add₀ (by decide)]

/--
A decimal is rounded to zero if it is at most half of the least positive number.
-/
theorem isZero_ofDecimal_iff
    (negative : Bool)
    (digits : Nat)
    (power : Int) :
    (ofDecimal negative digits power).isZero = true ↔
      (digits : ℚ) * 10 ^ power ≤ 2 ^ (-1075 : Int) := by
  by_cases notZero : digits = 0
  · subst notZero
    simp [ofDecimal, zero, isZero]
  · obtain ⟨above, below⟩ := decimal_bounds notZero power
    simp only [ofDecimal, if_neg notZero]
    split
    · rename_i huge
      refine iff_of_false (by simp [isZero]) (not_le.mpr ?_)
      calc
        (2 : ℚ) ^ (-1075 : Int) < 1 :=
          zpow_lt_one_of_neg₀ (by norm_num) (by norm_num)
        _ ≤ 10 ^ (((Nat.toDigits 10 digits).length : Int) + power - 1) :=
          one_le_zpow₀ (by norm_num) (by omega)
        _ ≤ digits * 10 ^ power := above
    · split
      · rename_i tiny
        have least : (2 : ℚ) ^ 1075 ≤ 10 ^ 331 := by
          exact_mod_cast (by decide +kernel : 2 ^ 1075 ≤ 10 ^ 331)
        refine iff_of_true (by simp [zero, isZero]) ?_
        calc
          (digits : ℚ) * 10 ^ power
            ≤ 10 ^ (((Nat.toDigits 10 digits).length : Int) + power) := below.le
          _ ≤ 10 ^ (-331 : Int) := zpow_le_zpow_right₀ (by norm_num) (by omega)
          _ ≤ 2 ^ (-1075 : Int) := inv_anti₀ (by positivity) least
      · have scale : (powerDenominator 10 power : ℚ) ≠ 0 :=
          Nat.cast_ne_zero.mpr (powerDenominator_pos (by decide) power).ne'
        rw [isZero_ofFraction_iff (powerDenominator_pos (by decide) power)]
        rw [Nat.cast_mul, powerNumerator_eq (by decide), ← mul_assoc,
          mul_div_cancel_right₀ _ scale]
        rfl

end Binary64

end Dispatch.Decimal
