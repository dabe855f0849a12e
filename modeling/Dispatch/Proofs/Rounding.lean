import Dispatch.Proofs.Underflow

namespace Dispatch.Decimal

/-!
# What rounds to a number

The fractions that are rounded to one number of the format form an interval around
it.  It ends half way to either neighbour, and it contains its ends if the
significand is even.  The neighbour below the least number with a power of two is
only half as far as the one above, so there the interval is shorter below.
-/

/-! ## Intervals -/

/--
A number lies between two others, and on one of them only where that is admitted.
-/
def Within
    (closed : Prop)
    (lower upper number : ℚ) : Prop :=
  (lower < number ∨ closed ∧ lower = number) ∧
    (number < upper ∨ closed ∧ number = upper)

namespace Within

variable
  {closed : Prop}
  {lower upper number first last scale : ℚ}

theorem le
    (within : Within closed lower upper number) :
    lower ≤ number ∧ number ≤ upper :=
  ⟨within.1.elim le_of_lt fun isEnd => isEnd.2.le,
    within.2.elim le_of_lt fun isEnd => isEnd.2.le⟩

theorem ofStrict
    (above : lower < number)
    (below : number < upper) :
    Within closed lower upper number :=
  ⟨.inl above, .inl below⟩

theorem ofClosed
    (isClosed : closed)
    (above : lower ≤ number)
    (below : number ≤ upper) :
    Within closed lower upper number :=
  ⟨above.lt_or_eq.imp_right fun isEnd => ⟨isClosed, isEnd⟩,
    below.lt_or_eq.imp_right fun isEnd => ⟨isClosed, isEnd⟩⟩

/-- What lies between two members is a member. -/
theorem convex
    (withinFirst : Within closed lower upper first)
    (withinLast : Within closed lower upper last)
    (above : first ≤ number)
    (below : number ≤ last) :
    Within closed lower upper number := by
  constructor
  · rcases withinFirst.1 with strict | ⟨isClosed, isEnd⟩
    · exact .inl (strict.trans_le above)
    · exact (isEnd.trans_le above).lt_or_eq.imp_right fun same => ⟨isClosed, same⟩
  · rcases withinLast.2 with strict | ⟨isClosed, isEnd⟩
    · exact .inl (below.trans_lt strict)
    · exact (below.trans_eq isEnd).lt_or_eq.imp_right fun same => ⟨isClosed, same⟩

/-- Scaling everything alike changes nothing. -/
theorem mul_iff
    (positive : 0 < scale) :
    Within closed (lower * scale) (upper * scale) (number * scale) ↔
      Within closed lower upper number := by
  unfold Within
  rw [mul_lt_mul_iff_left₀ positive, mul_lt_mul_iff_left₀ positive,
    mul_left_inj' positive.ne', mul_left_inj' positive.ne']

end Within

/-! ## Rounding to integers -/

/-- An integer is nearest to a number, and even if another one is as near. -/
def IsNearest
    (nearest : Nat)
    (number : ℚ) : Prop :=
  Within (nearest % 2 = 0) (nearest - 1 / 2) (nearest + 1 / 2) number

/-- No two integers are both nearest. -/
theorem IsNearest.unique
    {first second : Nat}
    {number : ℚ}
    (isFirst : IsNearest first number)
    (isSecond : IsNearest second number) :
    first = second := by
  have apart
      {lesser greater : Nat}
      (isLesser : IsNearest lesser number)
      (isGreater : IsNearest greater number) :
      ¬lesser < greater := by
    intro less
    have step : (lesser : ℚ) + 1 ≤ greater := by exact_mod_cast less
    -- The number is half way between the two, and one of them is odd.
    rcases isLesser.2 with below | ⟨lesserEven, isLesserEnd⟩
    · have := isGreater.le.1
      linarith
    · rcases isGreater.1 with above | ⟨greaterEven, isGreaterEnd⟩
      · linarith
      · have next : ((lesser + 1 : Nat) : ℚ) = greater := by
          push_cast
          linarith
        have := Nat.cast_injective next
        omega
  exact Nat.le_antisymm (Nat.le_of_not_lt (apart isSecond isFirst))
    (Nat.le_of_not_lt (apart isFirst isSecond))

theorem isNearest_roundHalfEven
    (numerator : Nat)
    {denominator : Nat}
    (positive : 0 < denominator) :
    IsNearest (roundHalfEven numerator denominator)
        ((numerator : ℚ) / denominator) := by
  have positive' : (0 : ℚ) < denominator := Nat.cast_pos.mpr positive
  have divided : (numerator : ℚ) =
      denominator * (numerator / denominator : Nat) +
          (numerator % denominator : Nat) := by
    exact_mod_cast (Nat.div_add_mod numerator denominator).symm
  have remainder : ((numerator % denominator : Nat) : ℚ) < denominator :=
    Nat.cast_lt.mpr (Nat.mod_lt _ positive)
  have notNegative : (0 : ℚ) ≤ (numerator % denominator : Nat) := Nat.cast_nonneg _
  rw [IsNearest, ← Within.mul_iff positive', div_mul_cancel₀ _ positive'.ne']
  simp only [roundHalfEven]
  split
  · rename_i less
    have less : (2 : ℚ) * (numerator % denominator : Nat) < denominator := by
      exact_mod_cast less
    exact .ofStrict (by linarith) (by linarith)
  · rename_i notLess
    split
    · rename_i more
      have more : (denominator : ℚ) < 2 * (numerator % denominator : Nat) := by
        exact_mod_cast more
      push_cast
      exact .ofStrict (by linarith) (by linarith)
    · rename_i notMore
      have tie : (2 : ℚ) * (numerator % denominator : Nat) = denominator := by
        exact_mod_cast Nat.le_antisymm (Nat.le_of_not_lt notMore)
          (Nat.le_of_not_lt notLess)
      split
      · rename_i isEven
        exact .ofClosed isEven (by linarith) (by linarith)
      · rename_i isOdd
        push_cast
        exact .ofClosed (by omega) (by linarith) (by linarith)

/-! ## Powers of two -/

namespace Binary64

/--
A power and an integer power multiply to the integer power with the total of both.
-/
theorem pow_mul_zpow
    {base : ℚ}
    (notZero : base ≠ 0)
    {count : Nat}
    {power total : Int}
    (isTotal : count + power = total) :
    base ^ count * base ^ power = base ^ total := by
  rw [← zpow_natCast, ← zpow_add₀ notZero, isTotal]

/--
The parts of a fraction scaled by a power of two are those of the scaled fraction.
-/
theorem scaled_eq
    (numerator denominator : Nat)
    (exponent : Int) :
    ((numerator * powerDenominator 2 exponent : Nat) : ℚ) /
        ((denominator * powerNumerator 2 exponent : Nat) : ℚ) =
      numerator / denominator / 2 ^ exponent := by
  have scale : (powerDenominator 2 exponent : ℚ) ≠ 0 :=
    Nat.cast_ne_zero.mpr (powerDenominator_pos (by decide) exponent).ne'
  rw [Nat.cast_mul, Nat.cast_mul, powerNumerator_eq (by decide), ← mul_assoc,
    mul_div_mul_right _ _ scale, div_div]
  rfl

/-- A fraction is less than what the lengths of its parts leave at most. -/
theorem lt_of_log2_succ
    (numerator : Nat)
    {denominator : Nat}
    (positive : 0 < denominator) :
    (numerator : ℚ) / denominator <
      2 ^ ((numerator.log2 : Int) - denominator.log2 + 1) := by
  have greatest : (numerator : ℚ) < ((2 ^ (numerator.log2 + 1) : Nat) : ℚ) :=
    Nat.cast_lt.mpr Nat.lt_log2_self
  have least : ((2 ^ denominator.log2 : Nat) : ℚ) ≤ denominator :=
    Nat.cast_le.mpr (Nat.log2_self_le positive.ne')
  push_cast at greatest least
  rw [div_lt_iff₀ (Nat.cast_pos.mpr positive)]
  calc
    (numerator : ℚ) < 2 ^ (numerator.log2 + 1) := greatest
    _ = 2 ^ ((numerator.log2 : Int) - denominator.log2 + 1) *
        2 ^ denominator.log2 := by
        rw [mul_comm, ← zpow_natCast]
        exact (pow_mul_zpow two_ne_zero (by push_cast; omega)).symm
    _ ≤ 2 ^ ((numerator.log2 : Int) - denominator.log2 + 1) * denominator :=
        mul_le_mul_of_nonneg_left least (by positivity)

/--
A power of two at which a number has a significand of 53 bits, or the least one.
-/
structure IsExponent
    (number : ℚ)
    (exponent : Int) : Prop where
  least : -1074 ≤ exponent
  below : number < 2 ^ 53 * 2 ^ exponent
  above : exponent = -1074 ∨ 2 ^ 52 * 2 ^ exponent ≤ number

/-- There is only one such power. -/
theorem IsExponent.unique
    {number : ℚ}
    {first second : Int}
    (isFirst : IsExponent number first)
    (isSecond : IsExponent number second) :
    first = second := by
  have apart
      {lesser greater : Int}
      (isLesser : IsExponent number lesser)
      (isGreater : IsExponent number greater) :
      ¬lesser < greater := by
    intro less
    rcases isGreater.above with isLeast | above
    · have := isLesser.least
      omega
    · refine absurd (above.trans_lt isLesser.below) (not_lt.mpr ?_)
      rw [pow_mul_zpow two_ne_zero rfl, pow_mul_zpow two_ne_zero rfl]
      exact zpow_le_zpow_right₀ (by norm_num) (by push_cast; omega)
  exact le_antisymm (not_lt.mp (apart isSecond isFirst))
    (not_lt.mp (apart isFirst isSecond))

theorem isExponent_exponentOf
    {numerator denominator : Nat}
    (notZero : numerator ≠ 0)
    (positive : 0 < denominator) :
    IsExponent (numerator / denominator) (exponentOf numerator denominator) := by
  have lower := lt_of_log2 notZero positive
  have upper := lt_of_log2_succ numerator positive
  have quotient (exponent : Int) :
      Nat.pow 2 52 ≤
          numerator * powerDenominator 2 exponent /
            (denominator * powerNumerator 2 exponent) ↔
        2 ^ 52 * 2 ^ exponent ≤ (numerator : ℚ) / denominator := by
    have scaled : 0 < denominator * powerNumerator 2 exponent :=
      Nat.mul_pos positive (Nat.pow_pos (by decide))
    rw [Nat.le_div_iff_mul_le scaled, ← Nat.cast_le (α := ℚ), Nat.cast_mul,
      ← le_div_iff₀ (Nat.cast_pos.mpr scaled), scaled_eq,
        le_div_iff₀ (by positivity)]
    norm_num
  -- Without the bound of the format the significand always has 53 bits.
  obtain ⟨exact, isExact, below, above⟩ : ∃ exact : Int,
      exponentOf numerator denominator = max exact leastExponent ∧
        (numerator : ℚ) / denominator < 2 ^ 53 * 2 ^ exact ∧
        2 ^ 52 * 2 ^ exact ≤ (numerator : ℚ) / denominator := by
    refine ⟨_, rfl, ?_⟩
    simp only [quotient]
    split
    · rename_i large
      refine ⟨upper.trans_eq (pow_mul_zpow two_ne_zero ?_).symm, large⟩
      push_cast
      omega
    · rename_i small
      rw [not_le] at small
      constructor
      · refine small.trans_eq ?_
        rw [pow_mul_zpow two_ne_zero rfl]
        refine (pow_mul_zpow two_ne_zero ?_).symm
        push_cast
        omega
      · refine (pow_mul_zpow two_ne_zero ?_).trans_le lower.le
        push_cast
        omega
  rw [isExact]
  rcases le_total leastExponent exact with isLarger | isSmaller
  · rw [max_eq_left isLarger]
    exact ⟨isLarger, below, .inr above⟩
  · rw [max_eq_right isSmaller]
    refine ⟨le_refl _, below.trans_le ?_, .inl rfl⟩
    exact mul_le_mul_of_nonneg_left (zpow_le_zpow_right₀ (by norm_num) isSmaller)
      (by positivity)

/-! ## Rounding to numbers of the format -/

/-- The parts of a positive number of the format, but for the bound on its size. -/
structure IsNumber
    (significand : Nat)
    (exponent : Int) : Prop where
  positive : 0 < significand
  bounded : significand < 2 ^ 53
  least : -1074 ≤ exponent
  normal : exponent = -1074 ∨ 2 ^ 52 ≤ significand

/-- Half of the way to the neighbour below, in units of the significand. -/
def margin
    (significand : Nat)
    (exponent : Int) : ℚ :=
  if significand = 2 ^ 52 ∧ -1074 < exponent then 1 / 4 else 1 / 2

/--
A positive number lies where everything is rounded to `significand * 2 ^ exponent`.
-/
def RoundsTo
    (number : ℚ)
    (significand : Nat)
    (exponent : Int) : Prop :=
  Within (significand % 2 = 0)
    ((significand - margin significand exponent) * 2 ^ exponent)
    ((significand + 1 / 2) * 2 ^ exponent)
    number

/--
A rounded significand that needs 54 bits is one with 53 bits and the next power.
-/
inductive Carries : Nat → Int → Nat → Int → Prop
  | carried (exponent : Int) :
      Carries (2 ^ 53) exponent (2 ^ 52) (exponent + 1)
  | kept
      {rounded : Nat}
      {exponent : Int}
      (fits : rounded ≠ 2 ^ 53) :
      Carries rounded exponent rounded exponent

section

variable
  {number : ℚ}
  {significand rounded : Nat}
  {exponent power : Int}

theorem margin_cases
    (significand : Nat)
    (exponent : Int) :
    margin significand exponent = 1 / 2 ∨
      significand = 2 ^ 52 ∧ -1074 < exponent ∧
          margin significand exponent = 1 / 4 := by
  unfold margin
  split
  · rename_i narrow
    exact .inr ⟨narrow.1, narrow.2, rfl⟩
  · exact .inl rfl

theorem margin_le
    (significand : Nat)
    (exponent : Int) :
    0 < margin significand exponent ∧ margin significand exponent ≤ 1 / 2 := by
  rcases margin_cases significand exponent with wide | ⟨_, _, narrow⟩
  · rw [wide]
    norm_num
  · rw [narrow]
    norm_num

/-- What rounds to a number, in units of its significand. -/
theorem roundsTo_iff :
    RoundsTo number significand exponent ↔
      Within (significand % 2 = 0) (significand - margin significand exponent)
        (significand + 1 / 2) (number / 2 ^ exponent) := by
  have positive : (0 : ℚ) < 2 ^ exponent := by positivity
  refine Iff.trans ?_ (Within.mul_iff positive)
  rw [RoundsTo, div_mul_cancel₀ _ positive.ne']

/-- A number is rounded to itself. -/
theorem roundsTo_self
    (significand : Nat)
    (exponent : Int) :
    RoundsTo (significand * 2 ^ exponent) significand exponent := by
  have positive : (0 : ℚ) < 2 ^ exponent := by positivity
  have margin := (margin_le significand exponent).1
  exact .ofStrict (mul_lt_mul_of_pos_right (by linarith) positive)
    (mul_lt_mul_of_pos_right (by linarith) positive)

theorem IsExponent.bounds
    (isExponent : IsExponent number exponent) :
    number / 2 ^ exponent < 2 ^ 53 ∧
      (exponent = -1074 ∨ 2 ^ 52 ≤ number / 2 ^ exponent) := by
  have positive : (0 : ℚ) < 2 ^ exponent := by positivity
  exact ⟨(div_lt_iff₀ positive).mpr isExponent.below,
    isExponent.above.imp_right (le_div_iff₀ positive).mpr⟩

theorem IsExponent.of_bounds
    (least : -1074 ≤ exponent)
    (below : number / 2 ^ exponent < 2 ^ 53)
    (above : exponent = -1074 ∨ 2 ^ 52 ≤ number / 2 ^ exponent) :
    IsExponent number exponent := by
  have positive : (0 : ℚ) < 2 ^ exponent := by positivity
  exact ⟨least, (div_lt_iff₀ positive).mp below,
    above.imp_right (le_div_iff₀ positive).mp⟩

/-- In units of half the size a number is twice as large. -/
theorem div_sub_one
    (number : ℚ)
    (exponent : Int) :
    number / 2 ^ (exponent - 1) = 2 * (number / 2 ^ exponent) := by
  rw [zpow_sub_one₀ (by decide), div_mul_eq_div_div_swap, div_inv_eq_mul,
    mul_div_right_comm, mul_comm]

/-- A rounded significand has 53 bits, up to a carry, or the least power of two. -/
theorem IsExponent.rounded_bounds
    (isExponent : IsExponent number exponent)
    (isNearest : IsNearest rounded (number / 2 ^ exponent)) :
    rounded ≤ 2 ^ 53 ∧ (exponent = -1074 ∨ 2 ^ 52 ≤ rounded) := by
  obtain ⟨below, above⟩ := isExponent.bounds
  obtain ⟨lower, upper⟩ := isNearest.le
  constructor
  · have : (rounded : ℚ) < (2 ^ 53 + 1 : Nat) := by
      push_cast
      linarith
    exact Nat.le_of_lt_succ (Nat.cast_lt.mp this)
  · refine above.imp_right fun above => ?_
    have : ((2 ^ 52 : Nat) : ℚ) < (rounded + 1 : Nat) := by
      push_cast
      linarith
    exact Nat.le_of_lt_succ (Nat.cast_lt.mp this)

/--
The nearest significand at the right power of two gives the number that is rounded
to.
-/
theorem RoundsTo.of_carries
    (isExponent : IsExponent number power)
    (isNearest : IsNearest rounded (number / 2 ^ power))
    (notZero : rounded ≠ 0)
    (carries : Carries rounded power significand exponent) :
    IsNumber significand exponent ∧ RoundsTo number significand exponent := by
  obtain ⟨small, large⟩ := isExponent.rounded_bounds isNearest
  obtain ⟨below, above⟩ := isExponent.bounds
  have least := isExponent.least
  cases carries with
  | carried =>
      refine ⟨⟨by norm_num, by norm_num, by omega, .inr (le_refl _)⟩, ?_⟩
      -- The number lies in the shorter half of the interval, below the power of two.
      have lower := isNearest.le.1
      have halved := div_sub_one number (power + 1)
      rw [add_sub_cancel_right] at halved
      rw [halved] at below lower
      rw [roundsTo_iff, margin, if_pos ⟨rfl, by omega⟩]
      push_cast at below lower ⊢
      exact .ofClosed (by norm_num) (by linarith) (by linarith)
  | kept fits =>
      refine ⟨⟨Nat.pos_of_ne_zero notZero, Nat.lt_of_le_of_ne small fits, least,
        large⟩, ?_⟩
      rw [roundsTo_iff]
      rcases margin_cases significand exponent with
        wide | ⟨isLeast, notLeast, narrow⟩
      · rw [wide]
        exact isNearest
      · have above := above.resolve_left (by omega)
        rw [narrow, isLeast]
        push_cast
        refine .ofClosed (by norm_num) (by linarith) ?_
        have upper := isNearest.le.2
        rw [isLeast] at upper
        push_cast at upper
        exact upper

/-- Conversely, the number that is rounded to is given by the nearest significand. -/
theorem RoundsTo.carries
    (isNumber : IsNumber significand exponent)
    (roundsTo : RoundsTo number significand exponent) :
    ∃ power rounded,
      IsExponent number power ∧
      IsNearest rounded (number / 2 ^ power) ∧
      Carries rounded power significand exponent := by
  rw [roundsTo_iff] at roundsTo
  obtain ⟨lower, upper⟩ := roundsTo.le
  have bounded : (significand : ℚ) + 1 ≤ 2 ^ 53 := by exact_mod_cast isNumber.bounded
  have below : number / 2 ^ exponent < 2 ^ 53 := by linarith
  by_cases above : exponent = -1074 ∨ 2 ^ 52 ≤ number / 2 ^ exponent
  · refine ⟨exponent, significand, .of_bounds isNumber.least below above, ?_,
      .kept isNumber.bounded.ne⟩
    rcases margin_cases significand exponent with wide | ⟨isLeast, notLeast, narrow⟩
    · rw [wide] at roundsTo
      exact roundsTo
    · have above := above.resolve_left (by omega)
      rw [isLeast] at upper ⊢
      push_cast at upper
      refine .ofClosed (by norm_num) ?_ ?_ <;> push_cast <;> linarith
  · -- Only the shorter half of the interval below a power of two is left.
    obtain ⟨notLeast, small⟩ := not_or.mp above
    rw [not_le] at small
    have normal : (2 ^ 52 : ℚ) ≤ significand := by
      exact_mod_cast isNumber.normal.resolve_left notLeast
    rcases margin_cases significand exponent with wide | ⟨isLeast, isLarger, narrow⟩
    · rw [wide] at lower
      have isLeast : significand = 2 ^ 52 := by
        have : (significand : ℚ) < ((2 ^ 52 + 1 : Nat) : ℚ) := by
          push_cast
          linarith
        have := Nat.cast_lt.mp this
        have := isNumber.normal.resolve_left notLeast
        omega
      have narrow : margin significand exponent = 1 / 4 :=
        if_pos ⟨isLeast, lt_of_le_of_ne isNumber.least (Ne.symm notLeast)⟩
      rw [narrow] at wide
      norm_num at wide
    · subst isLeast
      rw [narrow] at lower
      push_cast at lower
      have carried := Carries.carried (exponent - 1)
      rw [sub_add_cancel] at carried
      refine ⟨exponent - 1, 2 ^ 53, .of_bounds (by omega) ?_ (.inr ?_), ?_, carried⟩
      · rw [div_sub_one]
        linarith
      · rw [div_sub_one]
        linarith
      · rw [div_sub_one]
        refine .ofClosed (by norm_num) ?_ ?_ <;> push_cast <;> linarith

/-- What rounds to a positive number is positive. -/
theorem RoundsTo.positive
    (isNumber : IsNumber significand exponent)
    (roundsTo : RoundsTo number significand exponent) :
    0 < number := by
  have atLeast : (1 : ℚ) ≤ significand := by exact_mod_cast isNumber.positive
  have margin := (margin_le significand exponent).2
  have lower := roundsTo.le.1
  have scaled :
      (0 : ℚ) <
        (significand - Binary64.margin significand exponent) * 2 ^ exponent :=
    mul_pos (by linarith) (by positivity)
  exact scaled.trans_le lower

/-! ## Reading numbers -/

variable
  {numerator denominator digits : Nat}
  {negative sign : Bool}

/--
A fraction is rounded to a significand, with a carry, unless it is out of range.
-/
theorem ofFraction_eq
    (notZero : numerator ≠ 0)
    (positive : 0 < denominator)
    (negative : Bool) :
    ∃ power rounded significand exponent,
      IsExponent ((numerator : ℚ) / denominator) power ∧
      IsNearest rounded ((numerator : ℚ) / denominator / 2 ^ power) ∧
      Carries rounded power significand exponent ∧
      ofFraction negative numerator denominator =
        if greatestExponent < exponent then
          infinite negative
        else
          finite negative significand exponent := by
  have isExponent := isExponent_exponentOf notZero positive
  simp only [ofFraction, if_neg notZero]
  generalize exponentOf numerator denominator = power at isExponent
  have scaled : 0 < denominator * powerNumerator 2 power :=
    Nat.mul_pos positive (Nat.pow_pos (by decide))
  have isNearest :=
    isNearest_roundHalfEven (numerator * powerDenominator 2 power) scaled
  rw [scaled_eq] at isNearest
  generalize roundHalfEven _ _ = rounded at isNearest
  by_cases carried : rounded = Nat.pow 2 53
  · refine ⟨power, rounded, 2 ^ 52, power + 1, isExponent, isNearest, ?_, ?_⟩
    · rw [carried]
      exact .carried power
    · simp only [carried, decide_true, if_true]
      rfl
  · refine ⟨power, rounded, rounded, power, isExponent, isNearest, .kept carried, ?_⟩
    simp only [carried, decide_false, Bool.false_eq_true, if_false]

/-- A fraction is read as a positive number just where it is rounded to it. -/
theorem ofFraction_eq_finite_iff
    (isNumber : IsNumber significand exponent)
    (inRange : exponent ≤ greatestExponent)
    (positive : 0 < denominator) :
    ofFraction negative numerator denominator =
      finite negative significand exponent ↔
      RoundsTo ((numerator : ℚ) / denominator) significand exponent := by
  by_cases notZero : numerator = 0
  · subst notZero
    refine iff_of_false ?_ fun roundsTo => ?_
    · intro isRead
      cases isRead
      exact absurd isNumber.positive (lt_irrefl 0)
    · have := roundsTo.positive isNumber
      simp at this
  · obtain ⟨power, rounded, found, size, isExponent, isNearest, carries, isRead⟩ :=
      ofFraction_eq notZero positive negative
    rw [isRead]
    constructor
    · intro same
      split at same
      · cases same
      · cases same
        refine (RoundsTo.of_carries isExponent isNearest ?_ carries).2
        rintro rfl
        cases carries
        exact absurd isNumber.positive (lt_irrefl 0)
    · intro roundsTo
      obtain ⟨otherPower, otherRounded, isOtherExponent, isOtherNearest,
          otherCarries⟩ :=
        roundsTo.carries isNumber
      cases isOtherExponent.unique isExponent
      cases isOtherNearest.unique isNearest
      have same : found = significand ∧ size = exponent := by
        cases carries with
        | carried =>
            cases otherCarries with
            | carried => exact ⟨rfl, rfl⟩
            | kept fits => exact absurd rfl fits
        | kept fits =>
            cases otherCarries with
            | carried => exact absurd rfl fits
            | kept _ => exact ⟨rfl, rfl⟩
      rw [same.1, same.2, if_neg (not_lt.mpr inRange)]

/-- Whatever is read as finite is zero or a number of the format. -/
theorem isNumber_of_ofFraction
    (positive : 0 < denominator)
    (isRead :
      ofFraction negative numerator denominator = finite sign significand exponent) :
    sign = negative ∧
      (finite sign significand exponent = zero negative ∨
        IsNumber significand exponent ∧ exponent ≤ greatestExponent) := by
  by_cases notZero : numerator = 0
  · subst notZero
    cases isRead
    exact ⟨rfl, .inl rfl⟩
  · obtain ⟨power, rounded, found, size, isExponent, isNearest, carries, isFound⟩ :=
      ofFraction_eq notZero positive negative
    rw [isFound] at isRead
    split at isRead
    · cases isRead
    · rename_i inRange
      cases isRead
      refine ⟨rfl, ?_⟩
      by_cases vanishes : rounded = 0
      · subst vanishes
        have isLeast :=
          (isExponent.rounded_bounds isNearest).2.resolve_right (by norm_num)
        cases carries
        exact .inl (isLeast ▸ rfl)
      · exact .inr
          ⟨(RoundsTo.of_carries isExponent isNearest vanishes carries).1,
            not_lt.mp inRange⟩

/--
What rounds to a number in range is neither too large nor too small for a decimal.
-/
theorem RoundsTo.places
    (isNumber : IsNumber significand exponent)
    (inRange : exponent ≤ greatestExponent)
    (notZero : digits ≠ 0)
    (roundsTo : RoundsTo (digits * 10 ^ power) significand exponent) :
    -330 ≤ ((Nat.toDigits 10 digits).length : Int) + power ∧
      ((Nat.toDigits 10 digits).length : Int) + power ≤ 310 := by
  obtain ⟨above, below⟩ := decimal_bounds notZero power
  obtain ⟨lower, upper⟩ := roundsTo.le
  have atLeast : (1 : ℚ) ≤ significand := by exact_mod_cast isNumber.positive
  have atMost : (significand : ℚ) + 1 ≤ 2 ^ 53 := by exact_mod_cast isNumber.bounded
  have margin := (margin_le significand exponent).2
  constructor
  · by_contra tiny
    rw [not_le] at tiny
    have least : (2 : ℚ) ^ 1075 ≤ 10 ^ 331 := by
      exact_mod_cast (by decide +kernel : 2 ^ 1075 ≤ 10 ^ 331)
    have small : (digits : ℚ) * 10 ^ power < 2 ^ (-1075 : Int) :=
      calc
        (digits : ℚ) * 10 ^ power
          < 10 ^ (((Nat.toDigits 10 digits).length : Int) + power) := below
        _ ≤ 10 ^ (-331 : Int) := zpow_le_zpow_right₀ (by norm_num) (by omega)
        _ ≤ 2 ^ (-1075 : Int) := inv_anti₀ (by positivity) least
    have large : (2 : ℚ) ^ (-1075 : Int) ≤ digits * 10 ^ power :=
      calc
        (2 : ℚ) ^ (-1075 : Int) = 1 / 2 * 2 ^ (-1074 : Int) := by
          rw [show (-1075 : Int) = -1074 - 1 from rfl, zpow_sub_one₀ (by decide)]
          ring
        _ ≤ (significand - Binary64.margin significand exponent) * 2 ^ exponent :=
          mul_le_mul (by linarith) (zpow_le_zpow_right₀ (by norm_num) isNumber.least)
            (by positivity) (by linarith)
        _ ≤ digits * 10 ^ power := lower
    exact absurd small (not_lt.mpr large)
  · by_contra huge
    rw [not_le] at huge
    have greatest : (2 : ℚ) ^ 1024 ≤ 10 ^ 310 := by
      exact_mod_cast (by decide +kernel : 2 ^ 1024 ≤ 10 ^ 310)
    have large : (2 : ℚ) ^ 1024 ≤ digits * 10 ^ power :=
      calc
        (2 : ℚ) ^ 1024 ≤ 10 ^ 310 := greatest
        _ ≤ 10 ^ (((Nat.toDigits 10 digits).length : Int) + power - 1) := by
          rw [← zpow_natCast]
          exact zpow_le_zpow_right₀ (by norm_num) (by omega)
        _ ≤ digits * 10 ^ power := above
    have small : (digits : ℚ) * 10 ^ power < 2 ^ 1024 :=
      calc
        (digits : ℚ) * 10 ^ power ≤ (significand + 1 / 2) * 2 ^ exponent := upper
        _ < 2 ^ 53 * 2 ^ exponent :=
          mul_lt_mul_of_pos_right (by linarith) (by positivity)
        _ ≤ 2 ^ 53 * 2 ^ (971 : Int) :=
          mul_le_mul_of_nonneg_left (zpow_le_zpow_right₀ (by norm_num) inRange)
            (by positivity)
        _ = 2 ^ 1024 := by
          rw [← zpow_natCast 2 1024]
          exact pow_mul_zpow two_ne_zero rfl
    exact absurd small (not_lt.mpr large)

/-- A decimal that is not out of range is read as the fraction that it is. -/
theorem ofDecimal_eq_ofFraction
    (notZero : digits ≠ 0)
    (least : -330 ≤ ((Nat.toDigits 10 digits).length : Int) + power)
    (greatest : ((Nat.toDigits 10 digits).length : Int) + power ≤ 310) :
    ofDecimal negative digits power =
      ofFraction negative (digits * powerNumerator 10 power)
          (powerDenominator 10 power) := by
  simp only [ofDecimal, if_neg notZero, if_neg (not_lt.mpr least),
    if_neg (not_lt.mpr greatest)]

/-- The fraction that a decimal is. -/
theorem decimal_eq
    (digits : Nat)
    (power : Int) :
    ((digits * powerNumerator 10 power : Nat) : ℚ) / powerDenominator 10 power =
      digits * 10 ^ power := by
  have scale : (powerDenominator 10 power : ℚ) ≠ 0 :=
    Nat.cast_ne_zero.mpr (powerDenominator_pos (by decide) power).ne'
  rw [Nat.cast_mul, powerNumerator_eq (by decide), ← mul_assoc,
    mul_div_cancel_right₀ _ scale]
  rfl

/-- A decimal is read as a positive number just where it is rounded to it. -/
theorem ofDecimal_eq_finite_iff
    (isNumber : IsNumber significand exponent)
    (inRange : exponent ≤ greatestExponent) :
    ofDecimal negative digits power = finite negative significand exponent ↔
      RoundsTo (digits * 10 ^ power) significand exponent := by
  have denominator : 0 < powerDenominator 10 power :=
    powerDenominator_pos (by decide) power
  by_cases notZero : digits = 0
  · subst notZero
    refine iff_of_false ?_ fun roundsTo => ?_
    · intro isRead
      cases isRead
      exact absurd isNumber.positive (lt_irrefl 0)
    · have := roundsTo.positive isNumber
      simp at this
  · constructor
    · intro isRead
      by_cases tooLarge : 310 < ((Nat.toDigits 10 digits).length : Int) + power
      · simp [ofDecimal, notZero, tooLarge] at isRead
      by_cases tooSmall : ((Nat.toDigits 10 digits).length : Int) + power < -330
      · simp only [ofDecimal, if_neg notZero, if_neg tooLarge,
          if_pos tooSmall] at isRead
        cases isRead
        exact absurd isNumber.positive (lt_irrefl 0)
      rw [ofDecimal_eq_ofFraction notZero (not_lt.mp tooSmall) (not_lt.mp tooLarge),
        ofFraction_eq_finite_iff isNumber inRange denominator, decimal_eq] at isRead
      exact isRead
    · intro roundsTo
      obtain ⟨least, greatest⟩ := roundsTo.places isNumber inRange notZero
      rw [ofDecimal_eq_ofFraction notZero least greatest,
        ofFraction_eq_finite_iff isNumber inRange denominator, decimal_eq]
      exact roundsTo

/-- Whatever decimal is read as finite is zero or a number of the format. -/
theorem isNumber_of_ofDecimal
    (isRead : ofDecimal negative digits power = finite sign significand exponent) :
    sign = negative ∧
      (finite sign significand exponent = zero negative ∨
        IsNumber significand exponent ∧ exponent ≤ greatestExponent) := by
  unfold ofDecimal at isRead
  split at isRead
  · cases isRead
    exact ⟨rfl, .inl rfl⟩
  · simp only at isRead
    split at isRead
    · cases isRead
    · split at isRead
      · cases isRead
        exact ⟨rfl, .inl rfl⟩
      · exact isNumber_of_ofFraction (powerDenominator_pos (by decide) power) isRead

end

end Binary64

end Dispatch.Decimal
