import Mathlib
import Dispatch.Text.LowerCase

namespace Dispatch.Text

/-!
# The case of ASCII letters

The lower case of a text does not depend on the case in which its ASCII letters
are written.  Each of these letters is lowered on its own, and to a capital sigma
nearby it makes no difference either: small or capital, a letter is cased, and it
is not skipped.
-/

theorem toNat_of_isAlpha
    {character : Char}
    (isAlpha : character.isAlpha = true) :
    65 ≤ character.toNat ∧ character.toNat ≤ 90 ∨
      97 ≤ character.toNat ∧ character.toNat ≤ 122 := by
  simpa [Char.isAlpha, Char.isUpper, Char.isLower,
    UInt32.le_iff_toNat_le] using isAlpha

/-- Only letters are lowered. -/
theorem toLower_of_not_isAlpha
    {character : Char}
    (notAlpha : character.isAlpha = false) :
    character.toLower = character := by
  simp only [Char.isAlpha, Bool.or_eq_false_iff] at notAlpha
  exact Char.toLower_eq_of_not_isUpper (by simp [notAlpha.1])

/-- A letter is cased. -/
theorem cased_of_isAlpha
    {character : Char}
    (isAlpha : character.isAlpha = true) :
    inRanges casedRanges character = true := by
  rw [inRanges_iff]
  rcases toNat_of_isAlpha isAlpha with isCapital | isSmall
  · exact ⟨(0x41, 0x5a), by simp [casedRanges], isCapital⟩
  · exact ⟨(0x61, 0x7a), by simp [casedRanges], isSmall⟩

/-- No letter is skipped where cased characters are looked for. -/
theorem not_caseIgnorable_of_isAlpha
    {character : Char}
    (isAlpha : character.isAlpha = true) :
    inRanges caseIgnorableRanges character = false := by
  have aside :
      ∀ range ∈ caseIgnorableRanges,
        range.2 < 65 ∨ 90 < range.1 ∧ range.2 < 97 ∨ 122 < range.1 := by
    decide +kernel
  rw [Bool.eq_false_iff, ne_eq, inRanges_iff]
  rintro ⟨range, member, within⟩
  have := aside range member
  have := toNat_of_isAlpha isAlpha
  omega

/-- A property that all letters have in common does not depend on their case. -/
theorem inRanges_toLower
    {ranges : List CodeRange}
    {common : Bool}
    (ofLetters :
      ∀ {character : Char},
        character.isAlpha = true → inRanges ranges character = common)
    (character : Char) :
    inRanges ranges character.toLower = inRanges ranges character := by
  cases isAlpha : character.isAlpha with
  | true =>
      rw [ofLetters isAlpha,
        ofLetters (by rw [Char.isAlpha_toLower_eq_isAlpha, isAlpha])]
  | false =>
      rw [toLower_of_not_isAlpha isAlpha]

/-- Looking for a cased character finds letters in either case. -/
theorem facesCased_map_toLower
    (characters : List Char) :
    facesCased (characters.map Char.toLower) = facesCased characters := by
  have skipped :
      inRanges caseIgnorableRanges ∘ Char.toLower = inRanges caseIgnorableRanges :=
    funext (inRanges_toLower not_caseIgnorable_of_isAlpha)
  rw [facesCased, facesCased, List.dropWhile_map, skipped]
  cases characters.dropWhile (inRanges caseIgnorableRanges) with
  | nil => rfl
  | cons character rest => exact inRanges_toLower cased_of_isAlpha character

/--
What a character becomes depends neither on its own case nor on that of letters
around it.
-/
theorem lowerInContext_map_toLower
    (before : List Char)
    (character : Char)
    (after : List Char) :
    lowerInContext (before.map Char.toLower) character.toLower
      (after.map Char.toLower) =
      lowerInContext before character after := by
  cases isAlpha : character.isAlpha with
  | true =>
      have ascii {letter : Char} (isAlpha : letter.isAlpha = true) :
          letter.toNat < 0x80 := by
        have := toNat_of_isAlpha isAlpha
        omega
      rw [lowerInContext_of_ascii (ascii isAlpha),
        lowerInContext_of_ascii
          (ascii (by rw [Char.isAlpha_toLower_eq_isAlpha, isAlpha])),
        Char.toLower_toLower_eq_toLower]
  | false =>
      simp only [toLower_of_not_isAlpha isAlpha, lowerInContext,
        facesCased_map_toLower]

theorem lowerAfter_map_toLower
    (before characters : List Char) :
    lowerAfter (before.map Char.toLower) (characters.map Char.toLower) =
      lowerAfter before characters := by
  induction characters generalizing before with
  | nil =>
      rfl
  | cons character after inductionHypothesis =>
      rw [List.map_cons, lowerAfter, lowerAfter, lowerInContext_map_toLower,
        ← inductionHypothesis (character :: before), List.map_cons]

/-- The lower case of a text is that of the text with its ASCII letters lowered. -/
@[simp] theorem lowerCase_lowerAscii
    (text : String) :
    lowerCase (lowerAscii text) = lowerCase text := by
  rw [lowerCase, lowerAscii, String.toList_ofList]
  exact congrArg String.ofList (lowerAfter_map_toLower [] text.toList)

end Dispatch.Text
