import Mathlib
import Dispatch.Proofs.LocatorGrammar

namespace Dispatch

/-!
# Equality of locators

A locator is stored as its normal form and the length of its scheme, and two
locators are compared, and fed to a hash function, by these two.  A normal form
is a locator text itself and is read back as the locator that it belongs to, so
it fixes the length of the scheme, and equal locators are those with equal normal
forms.  These are the ones whose texts are the same, but for the case of the
letters in the schemes of two absolute ones.
-/

/-- What is fed to a hash function in one write. -/
inductive HashWrite
  | text (content : String)
  | word (value : Nat)
deriving Repr, DecidableEq

namespace Locator

/-- What is stored of a locator, and compared. -/
def stored
    (locator : Locator) : String × Option Nat :=
  (locator.text, locator.schemeLength)

/--
The writes by which a locator is hashed: its text, whether it has a scheme, how long
that is.
-/
def hashWrites
    (locator : Locator) : List HashWrite :=
  match locator.schemeLength with
  | none => [.text locator.text, .word 0]
  | some length => [.text locator.text, .word 1, .word length]

end Locator

/--
Two absolute texts that differ at most in the case of the letters of their schemes.
-/
def SameButForCase
    (text other : String) : Prop :=
  ∃ scheme otherScheme body,
    Divides text scheme body ∧
      Divides other otherScheme body ∧
      inSmallLetters scheme = inSmallLetters otherScheme

/-! ## Schemes in small letters -/

theorem smallLetter_smallLetter
    (character : Char) :
    smallLetter (smallLetter character) = smallLetter character := by
  simp only [← toLower_eq_smallLetter, Char.toLower_toLower_eq_toLower]

theorem isLetter_smallLetter_iff
    {character : Char} :
    IsLetter (smallLetter character) ↔ IsLetter character := by
  rw [← isAlpha_iff, ← isAlpha_iff, ← toLower_eq_smallLetter,
    Char.isAlpha_toLower_eq_isAlpha]

/-- Only letters have a small letter that is another character. -/
theorem smallLetter_of_not_isLetter
    {character : Char}
    (notLetter : ¬IsLetter character) :
    smallLetter character = character :=
  if_neg fun isCapital => notLetter (.inr isCapital)

@[simp]
theorem inSmallLetters_inSmallLetters
    (text : String) :
    inSmallLetters (inSmallLetters text) = inSmallLetters text := by
  have twice : smallLetter ∘ smallLetter = smallLetter :=
    funext smallLetter_smallLetter
  simp [inSmallLetters, twice]

/-- A scheme stays one when it is put in small letters. -/
theorem IsScheme.inSmallLetters
    {text : String}
    (isScheme : IsScheme text) :
    IsScheme (inSmallLetters text) := by
  obtain ⟨first, rest, shape, isLetter, follow⟩ := isScheme
  refine ⟨smallLetter first, rest.map smallLetter,
    by simp [Dispatch.inSmallLetters, shape],
    isLetter_smallLetter_iff.mpr isLetter, ?_⟩
  intro character member
  obtain ⟨original, known, rfl⟩ := List.mem_map.mp member
  by_cases originalIsLetter : IsLetter original
  · exact .inl (isLetter_smallLetter_iff.mpr originalIsLetter)
  · rw [smallLetter_of_not_isLetter originalIsLetter]
    exact follow original known

/-- The normal form of a divided text is divided at the same place. -/
theorem Divides.inSmallLetters
    {text scheme body : String}
    (divides : Divides text scheme body) :
    Divides (Dispatch.inSmallLetters scheme ++ ":" ++ body)
      (Dispatch.inSmallLetters scheme) body where
  whole := rfl
  isScheme := divides.isScheme.inSmallLetters

/-! ## Normal forms -/

namespace Locator

variable {text : String} {locator : Locator}

/--
What is read is an absolute locator of the divided text or a relative one of any
other.
-/
theorem of_parse
    (isRead : parse text = .ok locator) :
    (∃ scheme body,
      Divides text scheme body ∧ locator = ⟨some (inSmallLetters scheme), body⟩) ∨
    ((∀ scheme body, ¬Divides text scheme body) ∧ locator = ⟨none, text⟩) := by
  have notEmpty : text ≠ "" := by
    rintro rfl
    cases isRead
  by_cases divided : ∃ scheme body, Divides text scheme body
  · obtain ⟨scheme, body, divides⟩ := divided
    exact .inl ⟨scheme, body, divides,
      Except.ok.inj (isRead.symm.trans divides.parse)⟩
  · have undivided : ∀ scheme body, ¬Divides text scheme body :=
      fun scheme body divides => divided ⟨scheme, body, divides⟩
    exact .inr ⟨undivided,
      Except.ok.inj (isRead.symm.trans (parse_of_undivided notEmpty undivided))⟩

/-- The normal form of a locator is read as that locator. -/
theorem parse_text
    (isRead : parse text = .ok locator) :
    parse locator.text = .ok locator := by
  rcases of_parse isRead with ⟨scheme, body, divides, rfl⟩ | ⟨-, rfl⟩
  · have normalRead := divides.inSmallLetters.parse
    rwa [inSmallLetters_inSmallLetters] at normalRead
  · exact isRead

variable {otherText : String} {other : Locator}

/-- So no two locators that are read have the same normal form. -/
theorem text_inj
    (isRead : parse text = .ok locator)
    (otherRead : parse otherText = .ok other) :
    locator.text = other.text ↔ locator = other := by
  refine ⟨fun sameText => ?_, congrArg Locator.text⟩
  have normalRead := parse_text isRead
  rw [sameText, parse_text otherRead] at normalRead
  exact (Except.ok.inj normalRead).symm

/--
Locators are the same if their texts are, but for the case of their schemes'
letters.
-/
theorem eq_iff_of_parse
    (isRead : parse text = .ok locator)
    (otherRead : parse otherText = .ok other) :
    locator = other ↔ text = otherText ∨ SameButForCase text otherText := by
  constructor
  · rintro rfl
    rcases of_parse isRead with ⟨scheme, body, divides, rfl⟩ | ⟨-, rfl⟩
    · rcases of_parse otherRead with
        ⟨otherScheme, otherBody, others, same⟩ | ⟨-, same⟩
      · rw [mk.injEq, Option.some.injEq] at same
        obtain ⟨sameScheme, rfl⟩ := same
        exact .inr ⟨scheme, otherScheme, body, divides, others, sameScheme⟩
      · cases same
    · rcases of_parse otherRead with ⟨_, _, _, same⟩ | ⟨-, same⟩
      · cases same
      · rw [mk.injEq] at same
        exact .inl same.2
  · rintro (rfl | ⟨scheme, otherScheme, body, divides, others, sameScheme⟩)
    · exact Except.ok.inj (isRead.symm.trans otherRead)
    · have sameRead := divides.parse
      rw [sameScheme, ← others.parse, isRead, otherRead] at sameRead
      exact Except.ok.inj sameRead

/-- What is hashed of a locator is what is stored of it, and nothing else. -/
theorem hashWrites_eq_iff :
    locator.hashWrites = other.hashWrites ↔ locator.stored = other.stored := by
  simp only [hashWrites, stored, Prod.mk.injEq]
  cases locator.schemeLength <;> cases other.schemeLength <;> simp

/--
Equality of locators is equality of normal forms.  Take two texts that are read
as locators.  What is stored of the locators is the same exactly if they are the
same, exactly if their normal forms are, and exactly if the texts are the same or
both are absolute, with schemes that agree but for the case of their letters and
the same text from the first colon on.  So an absolute locator and a relative one
never have the same normal form, one normal form never goes with two lengths of a
scheme, and two locators are hashed by the same writes exactly if they are equal.
-/
theorem equality_of_normal_forms
    (isRead : parse text = .ok locator)
    (otherRead : parse otherText = .ok other) :
    (locator.stored = other.stored ↔ locator = other) ∧
    (locator.stored = other.stored ↔ locator.text = other.text) ∧
    (locator.text = other.text ↔ text = otherText ∨ SameButForCase text otherText) ∧
    (locator.isAbsolute = true → other.isRelative = true →
      locator ≠ other ∧ locator.text ≠ other.text) ∧
    (locator.text = other.text → locator.schemeLength = other.schemeLength) ∧
    (locator.hashWrites = other.hashWrites ↔ locator = other) := by
  have sameText := text_inj isRead otherRead
  have sameStored : locator.stored = other.stored ↔ locator = other :=
    ⟨fun same => sameText.mp (Prod.mk.inj same).1, congrArg stored⟩
  refine ⟨sameStored, sameStored.trans sameText.symm,
    sameText.trans (eq_iff_of_parse isRead otherRead), ?_, ?_,
    hashWrites_eq_iff.trans sameStored⟩
  · intro isAbsolute otherIsRelative
    have different : locator ≠ other := by
      rintro rfl
      simp [Locator.isAbsolute,
        Option.isNone_iff_eq_none.mp otherIsRelative] at isAbsolute
    exact ⟨different, mt sameText.mp different⟩
  · intro same
    rw [sameText.mp same]

/-- Two spellings of one locator, and a relative locator that only looks like it. -/
theorem capitals_equality :
    ∃ capital small relative,
      parse "MEM:Key" = .ok capital ∧
      parse "mem:Key" = .ok small ∧
      parse "dir/MEM:Key" = .ok relative ∧
      capital.stored = small.stored ∧
      capital.hashWrites = small.hashWrites ∧
      capital.stored ≠ relative.stored := by
  have capitalDivides : Divides "MEM:Key" "MEM" "Key" :=
    ⟨rfl, isSchemeName_iff.mp (by decide)⟩
  have smallDivides : Divides "mem:Key" "mem" "Key" :=
    ⟨rfl, isSchemeName_iff.mp (by decide)⟩
  have capitalRead := capitalDivides.parse
  have smallRead := smallDivides.parse
  have relativeRead : parse "dir/MEM:Key" = .ok ⟨none, "dir/MEM:Key"⟩ := by decide
  obtain ⟨asLocators, asTexts, spellings, -, -, asWrites⟩ :=
    equality_of_normal_forms capitalRead smallRead
  obtain ⟨-, otherTexts, -, neverEqual, -, -⟩ :=
    equality_of_normal_forms capitalRead relativeRead
  have sameText :=
    spellings.mpr (.inr ⟨_, _, _, capitalDivides, smallDivides, by decide⟩)
  have same := asTexts.mpr sameText
  exact ⟨_, _, _, capitalRead, smallRead, relativeRead, same,
    asWrites.mpr (asLocators.mp same), mt otherTexts.mp (neverEqual rfl rfl).2⟩

end Locator

end Dispatch
