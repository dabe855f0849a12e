import Dispatch.Proofs.NumberLiterals
import Dispatch.Proofs.ShortestDecimals

namespace Dispatch.Decimal

/-!
# Decimals in plain notation

The plain form of a decimal is its digits, with zeros after them if it is a large
whole number, and with a point among them, or after a zero, if it is not whole.  It
is a literal of the decimal, so a number that is shown in this form is read back.
-/

/--
A decimal as it is written in plain notation, without any zero in front that is not
needed.
-/
inductive Scaled.IsWritten
    (number : Scaled) : List Char → Prop
  /-- A whole number has no point. -/
  | whole
      {digits : List Char}
      (areDigits : ∀ digit ∈ digits, IsDigit digit)
      (notEmpty : digits ≠ [])
      (starts : digits.head? ≠ some '0')
      (isWhole : 0 ≤ number.power)
      (isValue : digitsValue digits = number.digits * 10 ^ number.power.toNat) :
      IsWritten number digits
  /--
  Any other has a digit in front of the point, and as many behind it as it needs.
  -/
  | places
      {whole places : List Char}
      (areDigits : ∀ digit ∈ whole ++ places, IsDigit digit)
      (starts : whole = ['0'] ∨ whole ≠ [] ∧ whole.head? ≠ some '0')
      (notEmpty : places ≠ [])
      (isPower : number.power = -places.length)
      (isValue : digitsValue (whole ++ places) = number.digits) :
      IsWritten number (whole ++ '.' :: places)

/-! ## Digits -/

theorem digitsValue_toDigits
    (value : Nat) :
    digitsValue (Nat.toDigits 10 value) = value :=
  Nat.ofDigitChars_toDigits (by decide) (by decide)

/-- Zeros in front do not count. -/
theorem digitsValue_zeros_append
    (count : Nat)
    (digits : List Char) :
    digitsValue (List.replicate count '0' ++ digits) = digitsValue digits := by
  induction count with
  | zero =>
      rfl
  | succ count inductionHypothesis =>
      rw [List.replicate_succ, List.cons_append]
      exact inductionHypothesis

/-- Zeros at the end multiply by powers of ten. -/
theorem digitsValue_append_zeros
    (digits : List Char)
    (count : Nat) :
    digitsValue (digits ++ List.replicate count '0') =
        digitsValue digits * 10 ^ count := by
  induction count with
  | zero =>
      simp
  | succ count inductionHypothesis =>
      rw [List.replicate_succ', ← List.append_assoc, digitsValue, List.foldl_append]
      rw [digitsValue] at inductionHypothesis
      rw [inductionHypothesis, Nat.pow_succ]
      simp [digitsValue]
      ring

theorem isDigit_of_mem_toDigits
    {value : Nat}
    {digit : Char}
    (member : digit ∈ Nat.toDigits 10 value) :
    IsDigit digit :=
  isDigit_iff.mp (Nat.isDigit_of_mem_toDigits (by decide) (by decide) member)

theorem isDigit_of_mem_zeros
    {count : Nat}
    {digit : Char}
    (member : digit ∈ List.replicate count '0') :
    IsDigit digit := by
  rw [List.eq_of_mem_replicate member]
  unfold IsDigit
  decide

/-- The digits of a positive number do not start with a zero. -/
theorem head?_toDigits
    {value : Nat}
    (positive : 0 < value) :
    (Nat.toDigits 10 value).head? ≠ some '0' := by
  induction value using Nat.strongRecOn with
  | ind value inductionHypothesis =>
      by_cases isSingle : value < 10
      · rw [Nat.toDigits_of_lt_base isSingle]
        interval_cases value <;> decide
      · rw [Nat.toDigits_of_base_le (by decide) (by omega),
          List.head?_append_of_ne_nil _ Nat.toDigits_ne_nil]
        exact inductionHypothesis (value / 10) (by omega) (by omega)

/--
Digits with so many zeros in front that one is left when the places are split off:
what is left is this zero, or it does not start with a zero.
-/
theorem take_padded
    {digits : List Char}
    (starts : digits.head? ≠ some '0')
    {places : Nat}
    (positive : 0 < places)
    {padded : List Char}
    (isPadded : List.replicate (places + 1 - digits.length) '0' ++ digits = padded) :
    padded.take (padded.length - places) = ['0'] ∨
      padded.take (padded.length - places) ≠ [] ∧
        (padded.take (padded.length - places)).head? ≠ some '0' := by
  have length : padded.length = places + 1 - digits.length + digits.length := by
    rw [← isPadded, List.length_append, List.length_replicate]
  by_cases isShort : digits.length ≤ places
  · have isOne : padded.length - places = 1 := by omega
    obtain ⟨zeros, isZeros⟩ : ∃ zeros, places + 1 - digits.length = zeros + 1 :=
      Nat.exists_eq_succ_of_ne_zero (by omega)
    rw [isOne, ← isPadded, isZeros, List.replicate_succ]
    exact .inl rfl
  · have noZeros : places + 1 - digits.length = 0 := by omega
    have isDigits : padded = digits := by
      rw [← isPadded, noZeros]
      rfl
    refine .inr ⟨?_, ?_⟩
    · rw [← List.length_pos_iff_ne_nil, List.length_take]
      omega
    · rwa [isDigits, List.head?_take, if_neg (by omega)]

namespace Scaled

variable
  {number : Scaled}
  {characters : List Char}

/-- The plain form is the decimal written in plain notation. -/
theorem isWritten_plain
    (positive : 0 < number.digits) :
    number.IsWritten number.plain.toList := by
  have starts := head?_toDigits positive
  have notEmpty : Nat.toDigits 10 number.digits ≠ [] := Nat.toDigits_ne_nil
  have isValue := digitsValue_toDigits number.digits
  have areDigits : ∀ digit ∈ Nat.toDigits 10 number.digits, IsDigit digit :=
    fun _ => isDigit_of_mem_toDigits
  unfold plain
  generalize Nat.toDigits 10 number.digits = digits at *
  split
  · rename_i isWhole
    rw [String.toList_ofList]
    refine .whole ?_ (by simp [notEmpty]) ?_ isWhole ?_
    · intro digit member
      rcases List.mem_append.mp member with inDigits | isZero
      · exact areDigits digit inDigits
      · exact isDigit_of_mem_zeros isZero
    · rwa [List.head?_append_of_ne_nil _ notEmpty]
    · rw [digitsValue_append_zeros, isValue]
  · rename_i notWhole
    have somePlaces : 0 < (-number.power).toNat := by omega
    rw [String.toList_ofList]
    generalize isPadded :
      List.replicate ((-number.power).toNat + 1 - digits.length) '0' ++ digits =
        padded
    have length : (-number.power).toNat ≤ padded.length := by
      rw [← isPadded, List.length_append, List.length_replicate]
      omega
    refine .places ?_ (take_padded starts somePlaces isPadded) ?_ ?_ ?_
    · rw [List.take_append_drop, ← isPadded]
      intro digit member
      rcases List.mem_append.mp member with isZero | inDigits
      · exact isDigit_of_mem_zeros isZero
      · exact areDigits digit inDigits
    · rw [← List.length_pos_iff_ne_nil, List.length_drop]
      omega
    · rw [List.length_drop]
      omega
    · rw [List.take_append_drop, ← isPadded, digitsValue_zeros_append, isValue]

/-- What is written in plain notation is a literal of the decimal. -/
theorem IsWritten.isUnsignedDecimal
    (isWritten : number.IsWritten characters) :
    ∃ literal : Scaled,
      IsUnsignedDecimal characters literal.digits literal.power ∧
        literal.value = number.value := by
  cases isWritten with
  | whole areDigits notEmpty _ isWhole isValue =>
      have isDecimal :=
        IsUnsignedDecimal.parts areDigits .absent (.inl notEmpty) .absent
      simp only [List.append_nil, List.length_nil, Nat.cast_zero,
        sub_zero] at isDecimal
      rw [isValue] at isDecimal
      refine ⟨⟨_, 0⟩, isDecimal, ?_⟩
      simp only [value, zpow_zero, mul_one]
      push_cast
      rw [← zpow_natCast, Int.toNat_of_nonneg isWhole]
  | @places whole places areDigits _ notEmpty isPower isValue =>
      have isDecimal :=
        IsUnsignedDecimal.parts
          (fun digit member => areDigits digit (List.mem_append_left _ member))
          (.point fun digit member =>
            areDigits digit (List.mem_append_right _ member))
          (.inr notEmpty) IsExponent.absent
      rw [List.append_nil, isValue, zero_sub, ← isPower] at isDecimal
      exact ⟨number, isDecimal, rfl⟩

end Scaled

namespace Binary64

variable
  {negative : Bool}
  {significand : Nat}
  {exponent : Int}

/-- A sign that is written is a sign that is read. -/
theorem isSign_signText
    (negative : Bool) :
    IsSign (signText negative).toList negative := by
  cases negative
  · exact .absent
  · exact .minus

/--
A decimal that is read as a number, written in plain notation after a sign, is read
as it.
-/
theorem floatLiteral?_of_isWritten
    (isNumber : IsNumber significand exponent)
    (inRange : exponent ≤ greatestExponent)
    {shown : Scaled}
    (readsBack : shown.Reads significand exponent)
    {characters : List Char}
    (isWritten : shown.IsWritten characters) :
    floatLiteral? ((signText negative).toList ++ characters) =
      some (.finite negative significand exponent) := by
  obtain ⟨literal, isDecimal, sameValue⟩ := isWritten.isUnsignedDecimal
  refine floatLiteral?_eq_some_iff.mpr
    (.inr ⟨negative, literal.digits, literal.power,
    .signed (isSign_signText negative) isDecimal, ?_⟩)
  rw [ofDecimal_eq_finite_iff isNumber inRange]
  change RoundsTo literal.value significand exponent
  rw [sameValue]
  exact (shown.reads_iff isNumber inRange).mp readsBack

/-- A number of the format; whatever is read from a text is one. -/
inductive IsRepresented : Binary64 → Prop
  | nan : IsRepresented .nan
  | infinite (negative : Bool) : IsRepresented (.infinite negative)
  | zero (negative : Bool) : IsRepresented (.zero negative)
  | finite
      (negative : Bool)
      {significand : Nat}
      {exponent : Int}
      (isNumber : IsNumber significand exponent)
      (inRange : exponent ≤ greatestExponent) :
      IsRepresented (.finite negative significand exponent)

theorem isRepresented_ofDecimal
    (negative : Bool)
    (digits : Nat)
    (power : Int) :
    (ofDecimal negative digits power).IsRepresented := by
  cases isRead : ofDecimal negative digits power with
  | nan =>
      exact .nan
  | infinite sign =>
      exact .infinite sign
  | finite sign significand exponent =>
      obtain ⟨rfl, isZero | ⟨isNumber, inRange⟩⟩ := isNumber_of_ofDecimal isRead
      · rw [isZero]
        exact .zero sign
      · exact .finite sign isNumber inRange

/-- The plain form of a number; that of a positive one is its shortest decimal. -/
inductive IsPlainForm : Binary64 → String → Prop
  | nan :
      IsPlainForm .nan "NaN"
  | infinite (negative : Bool) :
      IsPlainForm (.infinite negative) (signText negative ++ "inf")
  | zero (negative : Bool) :
      IsPlainForm (.zero negative) (signText negative ++ "0")
  | finite
      {negative : Bool}
      {significand : Nat}
      {exponent : Int}
      {shown : Scaled}
      {text : String}
      (positive : 0 < significand)
      (isShortest : shown.IsShortest significand exponent)
      (isWritten : shown.IsWritten text.toList) :
      IsPlainForm (.finite negative significand exponent) (signText negative ++ text)

variable
  {value : Binary64}

/-- A number is shown in its plain form. -/
theorem isPlainForm_plain
    (isRepresented : value.IsRepresented) :
    value.IsPlainForm value.plain := by
  cases isRepresented with
  | nan => exact .nan
  | infinite negative => exact .infinite negative
  | zero negative => exact .zero negative
  | @finite negative significand exponent isNumber inRange =>
      have isShortest := isShortest_shortest isNumber inRange
      have roundsTo := (Scaled.reads_iff isNumber inRange).mp isShortest.readsBack
      have positive := Nat.pos_of_ne_zero (Scaled.digits_ne_zero isNumber roundsTo)
      rw [plain, if_neg isNumber.positive.ne']
      exact .finite isNumber.positive isShortest (Scaled.isWritten_plain positive)

/-- A plain form is a literal of its number. -/
theorem IsPlainForm.floatLiteral?_eq
    (isRepresented : value.IsRepresented)
    {text : String}
    (isPlainForm : value.IsPlainForm text) :
    floatLiteral? text.toList = some value := by
  cases isPlainForm with
  | nan =>
      decide +kernel
  | infinite negative =>
      cases negative <;> decide +kernel
  | zero negative =>
      cases negative <;> decide +kernel
  | finite positive isShortest isWritten =>
      rw [String.toList_append]
      cases isRepresented with
      | zero =>
          exact absurd positive (lt_irrefl 0)
      | finite _ isNumber inRange =>
          exact floatLiteral?_of_isWritten isNumber inRange
            isShortest.readsBack isWritten

example :
    (ofDecimal false 1 23).plain = "100000000000000000000000" ∧
      (ofDecimal true 1 (-7)).plain = "-0.0000001" ∧
      (ofDecimal false 5 (-324)).IsPlainForm (ofDecimal false 5 (-324)).plain :=
  ⟨by decide +kernel, by decide +kernel,
    isPlainForm_plain (isRepresented_ofDecimal _ _ _)⟩

end Binary64

end Dispatch.Decimal
