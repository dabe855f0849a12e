import Dispatch.Decimal.Literal
import Dispatch.Proofs.LocatorGrammar

namespace Dispatch.Decimal

/-!
# The grammar of number literals

A whole number is digits after at most one sign.  A decimal is digits with at most
one point among or beside them, after at most one sign and before an exponent,
which is a whole number after a mark; the exponent may be left out.  Three words,
in any case and after at most one sign, count as floating-point numbers too.
-/

/-- At most one sign; the flag is true for a minus. -/
inductive IsSign : List Char → Bool → Prop
  | absent : IsSign [] false
  | plus : IsSign ['+'] false
  | minus : IsSign ['-'] true

/-- A whole number, with its value. -/
inductive IsWhole : List Char → Int → Prop
  | signed
      {sign digits : List Char}
      {negative : Bool}
      (isSign : IsSign sign negative)
      (notEmpty : digits ≠ [])
      (areDigits : ∀ digit ∈ digits, IsDigit digit) :
      IsWhole (sign ++ digits)
        (if negative then -(digitsValue digits : Int) else digitsValue digits)

/-- A whole number of 64 bits, with its value. -/
def IsInteger
    (characters : List Char)
    (value : Int) : Prop :=
  IsWhole characters value ∧ -2 ^ 63 ≤ value ∧ value < 2 ^ 63

/-- A point with digits, or nothing; the digits are given. -/
inductive IsFraction : List Char → List Char → Prop
  | absent : IsFraction [] []
  | point
      {digits : List Char}
      (areDigits : ∀ digit ∈ digits, IsDigit digit) :
      IsFraction ('.' :: digits) digits

/-- A mark with a whole number, or nothing; the power of ten is given. -/
inductive IsExponent : List Char → Int → Prop
  | absent : IsExponent [] 0
  | marked
      {mark : Char}
      {rest : List Char}
      {power : Int}
      (isMark : mark = 'e' ∨ mark = 'E')
      (isWhole : IsWhole rest power) :
      IsExponent (mark :: rest) power

/-- A decimal without a sign, as `digits * 10 ^ power`. -/
inductive IsUnsignedDecimal : List Char → (digits : Nat) → (power : Int) → Prop
  | parts
      {whole fraction digits exponent : List Char}
      {power : Int}
      (areDigits : ∀ digit ∈ whole, IsDigit digit)
      (isFraction : IsFraction fraction digits)
      (notEmpty : whole ≠ [] ∨ digits ≠ [])
      (isExponent : IsExponent exponent power) :
      IsUnsignedDecimal (whole ++ (fraction ++ exponent))
        (digitsValue (whole ++ digits)) (power - digits.length)

/-- A decimal, as `±digits * 10 ^ power`. -/
inductive IsDecimal : List Char → Bool → (digits : Nat) → (power : Int) → Prop
  | signed
      {sign unsigned : List Char}
      {negative : Bool}
      {digits : Nat}
      {power : Int}
      (isSign : IsSign sign negative)
      (isDecimal : IsUnsignedDecimal unsigned digits power) :
      IsDecimal (sign ++ unsigned) negative digits power

/-- A word for a number that is infinite or none. -/
inductive IsNumberWord : List Char → Binary64 → Prop
  | infinite
      {sign letters : List Char}
      {negative : Bool}
      (isSign : IsSign sign negative)
      (isWord :
        letters.map Char.toLower = "inf".toList ∨
          letters.map Char.toLower = "infinity".toList) :
      IsNumberWord (sign ++ letters) (.infinite negative)
  | nan
      {sign letters : List Char}
      {negative : Bool}
      (isSign : IsSign sign negative)
      (isWord : letters.map Char.toLower = "nan".toList) :
      IsNumberWord (sign ++ letters) .nan

/-! ## Signs and digits -/

theorem areDigits_iff
    {characters : List Char} :
    areDigits characters = true ↔
      characters ≠ [] ∧ ∀ digit ∈ characters, IsDigit digit := by
  simp [areDigits, isDigit_iff]

/-- Characters that do not start with a sign. -/
def IsUnsigned
    (characters : List Char) : Prop :=
  characters.head? ≠ some '+' ∧ characters.head? ≠ some '-'

/-- What is taken off the front is a sign. -/
theorem isSign_of_splitSign
    {characters unsigned : List Char}
    {negative : Bool}
    (split : splitSign characters = (negative, unsigned)) :
    ∃ sign, IsSign sign negative ∧ characters = sign ++ unsigned := by
  unfold splitSign at split
  split at split
  · cases split
    exact ⟨_, .minus, rfl⟩
  · cases split
    exact ⟨_, .plus, rfl⟩
  · cases split
    exact ⟨_, .absent, rfl⟩

/-- A sign is taken off the front of what has no other. -/
theorem splitSign_append
    {sign unsigned : List Char}
    {negative : Bool}
    (isSign : IsSign sign negative)
    (isUnsigned : IsUnsigned unsigned) :
    splitSign (sign ++ unsigned) = (negative, unsigned) := by
  cases isSign with
  | absent =>
      rw [List.nil_append]
      unfold splitSign
      split
      · exact absurd rfl isUnsigned.2
      · exact absurd rfl isUnsigned.1
      · rfl
  | plus => rfl
  | minus => rfl

/-- Digits are no signs. -/
theorem isUnsigned_of_digits
    {digits : List Char}
    (areDigits : ∀ digit ∈ digits, IsDigit digit) :
    IsUnsigned digits := by
  refine ⟨fun head => ?_, fun head => ?_⟩
  · exact absurd (areDigits _ (List.mem_of_head? head)) (by unfold IsDigit; decide)
  · exact absurd (areDigits _ (List.mem_of_head? head)) (by unfold IsDigit; decide)

/-! ## Whole numbers -/

theorem wholeNumber?_eq_some_iff
    {characters : List Char}
    {value : Int} :
    wholeNumber? characters = some value ↔ IsWhole characters value := by
  constructor
  · intro isRead
    unfold wholeNumber? at isRead
    cases split : splitSign characters with
    | mk negative digits =>
        simp only [split] at isRead
        split at isRead
        · rename_i areDigits
          obtain ⟨notEmpty, areDigits⟩ := areDigits_iff.mp areDigits
          obtain ⟨sign, isSign, rfl⟩ := isSign_of_splitSign split
          cases isRead
          exact .signed isSign notEmpty areDigits
        · cases isRead
  · rintro ⟨isSign, notEmpty, areDigits⟩
    rw [wholeNumber?, splitSign_append isSign (isUnsigned_of_digits areDigits)]
    simp only [areDigits_iff.mpr ⟨notEmpty, areDigits⟩, if_true]

theorem integerLiteral?_eq_some_iff
    {characters : List Char}
    {value : Int} :
    integerLiteral? characters = some value ↔ IsInteger characters value := by
  rw [integerLiteral?, Option.filter_eq_some_iff, wholeNumber?_eq_some_iff,
    IsInteger, fitsInt64, Bool.and_eq_true, decide_eq_true_eq, decide_eq_true_eq]
  rfl

theorem exponentPart?_eq_some_iff
    {characters : List Char}
    {power : Int} :
    exponentPart? characters = some power ↔ IsExponent characters power := by
  constructor
  · intro isRead
    cases characters with
    | nil =>
        cases isRead
        exact .absent
    | cons mark rest =>
        rw [exponentPart?] at isRead
        split at isRead
        · rename_i isMark
          exact .marked isMark (wholeNumber?_eq_some_iff.mp isRead)
        · cases isRead
  · intro isExponent
    cases isExponent with
    | absent =>
        rfl
    | marked isMark isWhole =>
        rw [exponentPart?, if_pos isMark, wholeNumber?_eq_some_iff.mpr isWhole]

/-! ## Decimals -/

/-- Digits are taken off the front up to what is none. -/
theorem span_append
    {digits rest : List Char}
    (areDigits : ∀ digit ∈ digits, IsDigit digit)
    (stops : ∀ first, rest.head? = some first → ¬IsDigit first) :
    (digits ++ rest).span Char.isDigit = (digits, rest) := by
  have isDigit : ∀ digit ∈ digits, digit.isDigit = true :=
    fun digit member => isDigit_iff.mpr (areDigits digit member)
  rw [List.span_eq_takeWhile_dropWhile, List.takeWhile_append_of_pos isDigit,
    List.dropWhile_append_of_pos isDigit]
  cases rest with
  | nil =>
      simp
  | cons first rest =>
      have notDigit : first.isDigit = false :=
        Bool.eq_false_iff.mpr (mt isDigit_iff.mp (stops first rfl))
      simp [notDigit]

/-- What follows the digits at the front does not start with one. -/
theorem not_isDigit_of_dropWhile
    {characters : List Char}
    (first : Char)
    (starts : (characters.dropWhile Char.isDigit).head? = some first) :
    ¬IsDigit first := by
  have stops := List.head?_dropWhile_not Char.isDigit characters
  rw [starts] at stops
  rw [← isDigit_iff, stops]
  exact Bool.false_ne_true

/-- An exponent starts with its mark, which is neither a digit nor a point. -/
theorem IsExponent.head
    {characters : List Char}
    {power : Int}
    (isExponent : IsExponent characters power)
    {first : Char}
    (starts : characters.head? = some first) :
    ¬IsDigit first ∧ first ≠ '.' := by
  cases isExponent with
  | absent =>
      cases starts
  | marked isMark _ =>
      cases starts
      rcases isMark with rfl | rfl <;> unfold IsDigit <;> decide

/-- What is made of the parts of a decimal, some of which may have no digits. -/
def ofParts?
    (negative : Bool)
    (whole digits exponent : List Char) : Option Binary64 :=
  if whole.isEmpty && digits.isEmpty then
    none
  else
    (exponentPart? exponent).map fun power =>
      Binary64.ofDecimal negative (digitsValue (whole ++ digits))
        (power - digits.length)

theorem ofParts?_eq_some_iff
    {negative : Bool}
    {whole digits exponent : List Char}
    {value : Binary64} :
    ofParts? negative whole digits exponent = some value ↔
      (whole ≠ [] ∨ digits ≠ []) ∧
        ∃ power,
          IsExponent exponent power ∧
            Binary64.ofDecimal negative (digitsValue (whole ++ digits))
              (power - digits.length) = value := by
  unfold ofParts?
  split
  · rename_i isEmpty
    simp only [Bool.and_eq_true, List.isEmpty_iff] at isEmpty
    simp [isEmpty]
  · rename_i notEmpty
    simp only [Bool.and_eq_true, List.isEmpty_iff, not_and_or] at notEmpty
    simp only [Option.map_eq_some_iff, exponentPart?_eq_some_iff, ne_eq, notEmpty,
      true_and]

/-- A decimal without a point is made of its digits and its exponent. -/
theorem unsignedLiteral?_of_whole
    {whole exponent : List Char}
    (negative : Bool)
    (areDigits : ∀ digit ∈ whole, IsDigit digit)
    (stops : ∀ first, exponent.head? = some first → ¬IsDigit first ∧ first ≠ '.') :
    unsignedLiteral? negative (whole ++ exponent) =
        ofParts? negative whole [] exponent := by
  simp only [unsignedLiteral?, span_append areDigits fun first starts =>
    (stops first starts).1]
  cases exponent with
  | nil =>
      rfl
  | cons first rest =>
      obtain ⟨-, notPoint⟩ := stops first rfl
      split
      · rename_i isPoint
        exact absurd (List.cons.inj isPoint).1 notPoint
      · rfl

/-- A decimal with a point is made of the digits on both sides and its exponent. -/
theorem unsignedLiteral?_of_point
    {whole digits exponent : List Char}
    (negative : Bool)
    (areDigits : ∀ digit ∈ whole, IsDigit digit)
    (areFraction : ∀ digit ∈ digits, IsDigit digit)
    (stops : ∀ first, exponent.head? = some first → ¬IsDigit first) :
    unsignedLiteral? negative (whole ++ '.' :: (digits ++ exponent)) =
      ofParts? negative whole digits exponent := by
  have pointStops :
      ∀ first,
        ('.' :: (digits ++ exponent)).head? = some first → ¬IsDigit first := by
    rintro _ ⟨⟩
    unfold IsDigit
    decide
  simp only [unsignedLiteral?, span_append areDigits pointStops,
    span_append areFraction stops]
  rfl

theorem unsignedLiteral?_eq_some_iff
    {negative : Bool}
    {characters : List Char}
    {value : Binary64} :
    unsignedLiteral? negative characters = some value ↔
      ∃ digits power,
        IsUnsignedDecimal characters digits power ∧
          Binary64.ofDecimal negative digits power = value := by
  constructor
  · intro isRead
    have wholeDigits : ∀ digit ∈ characters.takeWhile Char.isDigit, IsDigit digit :=
      fun digit member => isDigit_iff.mp (List.mem_takeWhile_imp member)
    have shape :=
      List.takeWhile_append_dropWhile (p := Char.isDigit) (l := characters)
    by_cases isPoint : ∃ rest, characters.dropWhile Char.isDigit = '.' :: rest
    · obtain ⟨rest, isPoint⟩ := isPoint
      have restShape :=
        List.takeWhile_append_dropWhile (p := Char.isDigit) (l := rest)
      have digits : ∀ digit ∈ rest.takeWhile Char.isDigit, IsDigit digit :=
        fun digit member => isDigit_iff.mp (List.mem_takeWhile_imp member)
      rw [isPoint, ← restShape] at shape
      rw [← shape] at isRead ⊢
      rw [unsignedLiteral?_of_point negative wholeDigits digits
        not_isDigit_of_dropWhile, ofParts?_eq_some_iff] at isRead
      obtain ⟨notEmpty, power, isExponent, rfl⟩ := isRead
      exact ⟨_, _, .parts wholeDigits (.point digits) notEmpty isExponent, rfl⟩
    · rw [← shape] at isRead ⊢
      rw [unsignedLiteral?_of_whole negative wholeDigits ?_,
        ofParts?_eq_some_iff] at isRead
      · obtain ⟨notEmpty, power, isExponent, rfl⟩ := isRead
        exact ⟨_, _, .parts wholeDigits .absent notEmpty isExponent, rfl⟩
      · intro first starts
        refine ⟨not_isDigit_of_dropWhile first starts, ?_⟩
        rintro rfl
        obtain ⟨rest, isRest⟩ := List.head?_eq_some_iff.mp starts
        exact isPoint ⟨rest, isRest⟩
  · rintro ⟨_, _, ⟨areDigits, isFraction, notEmpty, isExponent⟩, rfl⟩
    cases isFraction with
    | absent =>
        rw [List.nil_append, unsignedLiteral?_of_whole negative areDigits ?_]
        · exact ofParts?_eq_some_iff.mpr ⟨notEmpty, _, isExponent, rfl⟩
        · exact fun first starts => isExponent.head starts
    | point areFraction =>
        rw [List.cons_append,
          unsignedLiteral?_of_point negative areDigits areFraction ?_]
        · exact ofParts?_eq_some_iff.mpr ⟨notEmpty, _, isExponent, rfl⟩
        · exact fun first starts => (isExponent.head starts).1

/-! ## Floating-point numbers -/

/-- A decimal without a sign starts with a digit or a point. -/
theorem IsUnsignedDecimal.head
    {characters : List Char}
    {digits : Nat}
    {power : Int}
    (isDecimal : IsUnsignedDecimal characters digits power) :
    ∃ first rest, characters = first :: rest ∧ (IsDigit first ∨ first = '.') := by
  obtain ⟨areDigits, isFraction, notEmpty, isExponent⟩ := isDecimal
  rename_i whole _ _ _ _
  cases whole with
  | cons first rest =>
      exact ⟨first, _, rfl, .inl (areDigits first List.mem_cons_self)⟩
  | nil =>
      cases isFraction with
      | absent => exact absurd rfl (notEmpty.resolve_left (absurd rfl))
      | point areFraction => exact ⟨'.', _, rfl, .inr rfl⟩

/-- So it has no sign, and is no word. -/
theorem IsUnsignedDecimal.isUnsigned
    {characters : List Char}
    {digits : Nat}
    {power : Int}
    (isDecimal : IsUnsignedDecimal characters digits power) :
    IsUnsigned characters := by
  obtain ⟨first, rest, rfl, starts⟩ := isDecimal.head
  refine ⟨?_, ?_⟩ <;> rintro ⟨⟩ <;> revert starts <;> unfold IsDigit <;> decide

/-- What starts a decimal is no letter. -/
theorem toLower_of_starts
    {first : Char}
    (starts : IsDigit first ∨ first = '.') :
    first.toLower = first := by
  rcases starts with isDigit | rfl
  · rw [toLower_eq_smallLetter, smallLetter_of_isDigit isDigit]
  · rfl

/-- A decimal is no word. -/
theorem IsUnsignedDecimal.map_toLower_ne
    {characters : List Char}
    {digits : Nat}
    {power : Int}
    (isDecimal : IsUnsignedDecimal characters digits power)
    {word : List Char}
    (isWord : ∀ first, word.head? = some first → ¬(IsDigit first ∨ first = '.')) :
    characters.map Char.toLower ≠ word := by
  obtain ⟨first, rest, rfl, starts⟩ := isDecimal.head
  rintro rfl
  rw [List.map_cons, toLower_of_starts starts] at isWord
  exact isWord first rfl starts

/-- A word has no sign of its own. -/
theorem isUnsigned_of_map_toLower
    {letters word : List Char}
    (isWord : letters.map Char.toLower = word)
    (isUnsigned : IsUnsigned word) :
    IsUnsigned letters := by
  subst isWord
  refine ⟨fun head => isUnsigned.1 ?_, fun head => isUnsigned.2 ?_⟩ <;>
    rw [List.head?_map, head] <;> rfl

theorem wordOf_eq_iff
    {characters : List Char}
    {word : String} :
    String.ofList (characters.map Char.toLower) = word ↔
      characters.map Char.toLower = word.toList := by
  rw [← String.toList_inj, String.toList_ofList]

theorem floatLiteral?_eq_some_iff
    {characters : List Char}
    {value : Binary64} :
    floatLiteral? characters = some value ↔
      IsNumberWord characters value ∨
        ∃ negative digits power,
          IsDecimal characters negative digits power ∧
            Binary64.ofDecimal negative digits power = value := by
  constructor
  · intro isRead
    unfold floatLiteral? at isRead
    cases split : splitSign characters with
    | mk negative unsigned =>
        obtain ⟨sign, isSign, rfl⟩ := isSign_of_splitSign split
        simp only [split, wordOf_eq_iff] at isRead
        split at isRead
        · rename_i isWord
          cases isRead
          exact .inl (.infinite isSign isWord)
        · split at isRead
          · rename_i isWord
            cases isRead
            exact .inl (.nan isSign isWord)
          · obtain ⟨digits, power, isDecimal, isValue⟩ :=
              unsignedLiteral?_eq_some_iff.mp isRead
            exact .inr ⟨negative, digits, power, .signed isSign isDecimal, isValue⟩
  · rintro (isWord |
      ⟨negative, digits, power, @⟨sign, unsigned, _, _, _, isSign, isDecimal⟩, rfl⟩)
    · cases isWord with
      | @infinite sign letters negative isSign isWord =>
          have isUnsigned : IsUnsigned letters := by
            rcases isWord with isWord | isWord <;>
              exact isUnsigned_of_map_toLower isWord (by unfold IsUnsigned; decide)
          simp only [floatLiteral?, splitSign_append isSign isUnsigned,
            wordOf_eq_iff]
          exact if_pos isWord
      | @nan sign letters negative isSign isWord =>
          have isUnsigned : IsUnsigned letters :=
            isUnsigned_of_map_toLower isWord (by unfold IsUnsigned; decide)
          simp only [floatLiteral?, splitSign_append isSign isUnsigned, isWord]
          rfl
    · have noWord {word : List Char}
        (starts : word.head? = some 'i' ∨ word.head? = some 'n') :
          unsigned.map Char.toLower ≠ word := by
        refine isDecimal.map_toLower_ne fun first isFirst => ?_
        rcases starts with starts | starts <;>
          rw [starts] at isFirst <;>
          cases isFirst <;>
          unfold IsDigit <;>
          decide
      simp only [floatLiteral?, splitSign_append isSign isDecimal.isUnsigned,
        wordOf_eq_iff]
      rw [if_neg (not_or.mpr ⟨noWord (.inl rfl), noWord (.inl rfl)⟩),
        if_neg (noWord (.inr rfl))]
      exact unsignedLiteral?_eq_some_iff.mpr ⟨digits, power, isDecimal, rfl⟩

end Dispatch.Decimal
