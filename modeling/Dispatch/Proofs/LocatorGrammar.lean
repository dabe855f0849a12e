import Mathlib
import Dispatch.Locator

namespace Dispatch

/-!
# The grammar of locators

A locator is absolute exactly if it is a scheme, a colon and a body, where a
scheme is an ASCII letter followed by ASCII letters, digits, `+`, `-` and `.`.
No scheme contains a colon, so the colon is the first one and there is only one
way to divide the text.  Every other text is a relative locator, but for the
empty one, which is none.
-/

/-- The ASCII letters, small and capital. -/
def IsLetter
    (character : Char) : Prop :=
  ('a' ≤ character ∧ character ≤ 'z') ∨ ('A' ≤ character ∧ character ≤ 'Z')

/-- The ASCII digits. -/
def IsDigit
    (character : Char) : Prop :=
  '0' ≤ character ∧ character ≤ '9'

/-- A letter, followed by letters, digits and three marks. -/
def IsScheme
    (text : String) : Prop :=
  ∃ first rest,
    text.toList = first :: rest ∧
      IsLetter first ∧
      ∀ character ∈ rest,
        IsLetter character ∨ IsDigit character ∨
          character = '+' ∨ character = '-' ∨ character = '.'

/-- A text is divided into a scheme and a body by a colon. -/
structure Divides
    (text scheme body : String) : Prop where
  whole : text = scheme ++ ":" ++ body
  isScheme : IsScheme scheme

/-- The small letter of a capital one; every other character itself. -/
def smallLetter
    (character : Char) : Char :=
  if 'A' ≤ character ∧ character ≤ 'Z' then
    Char.ofNat (character.toNat + 32)
  else
    character

/-- A text with small letters for its capital ones, and otherwise as it is. -/
def inSmallLetters
    (text : String) : String :=
  String.ofList (text.toList.map smallLetter)

/-! ## Characters -/

theorem isAlpha_iff
    {character : Char} :
    character.isAlpha = true ↔ IsLetter character := by
  simp only [Char.isAlpha, Char.isUpper, Char.isLower, IsLetter, Bool.or_eq_true,
    Bool.and_eq_true, decide_eq_true_eq, Char.le_def]
  exact Or.comm

theorem isDigit_iff
    {character : Char} :
    character.isDigit = true ↔ IsDigit character := by
  simp [Char.isDigit, IsDigit, Char.le_def]

theorem isSchemeCharacter_iff
    {character : Char} :
    isSchemeCharacter character = true ↔
      IsLetter character ∨ IsDigit character ∨
        character = '+' ∨ character = '-' ∨ character = '.' := by
  simp only [isSchemeCharacter, Char.isAlphanum, Bool.or_eq_true, beq_iff_eq,
    isAlpha_iff, isDigit_iff, or_assoc]

/-- What is read as a scheme name is what the grammar calls a scheme. -/
theorem isSchemeName_iff
    {text : String} :
    isSchemeName text.toList = true ↔ IsScheme text := by
  unfold IsScheme
  cases text.toList with
  | nil =>
      simp [isSchemeName]
  | cons first rest =>
      simp only [isSchemeName, Bool.and_eq_true, List.all_eq_true, isAlpha_iff,
        isSchemeCharacter_iff, List.cons.injEq]
      constructor
      · rintro ⟨isLetter, follow⟩
        exact ⟨first, rest, ⟨rfl, rfl⟩, isLetter, follow⟩
      · rintro ⟨_, _, ⟨rfl, rfl⟩, isLetter, follow⟩
        exact ⟨isLetter, follow⟩

theorem toLower_eq_smallLetter
    (character : Char) :
    character.toLower = smallLetter character := by
  unfold smallLetter
  by_cases isCapital : 'A' ≤ character ∧ character ≤ 'Z'
  · have isUpper : character.val ≥ 'A'.val ∧ character.val ≤ 'Z'.val := isCapital
    have bounded : character.val.toNat ≤ 90 := isUpper.2
    have shifted : character.toLower.toNat = character.toNat + 32 := by
      rw [Char.toLower, dif_pos isUpper]
      change (character.val + 32).toNat = character.val.toNat + 32
      rw [UInt32.toNat_add]
      change (character.val.toNat + 32) % 2 ^ 32 = character.val.toNat + 32
      omega
    rw [if_pos isCapital, ← shifted, Char.ofNat_toNat]
  · have isNotUpper : ¬(character.val ≥ 'A'.val ∧ character.val ≤ 'Z'.val) :=
      isCapital
    rw [if_neg isCapital, Char.toLower, dif_neg isNotUpper]

/-- A digit is no capital letter. -/
theorem smallLetter_of_isDigit
    {character : Char}
    (isDigit : IsDigit character) :
    smallLetter character = character :=
  if_neg fun isCapital => absurd (Char.le_trans isCapital.1 isDigit.2) (by decide)

/-! ## Dividing a text -/

/-- No colon is part of a scheme name. -/
theorem not_mem_of_isSchemeName
    {characters : List Char}
    (isName : isSchemeName characters = true) :
    ':' ∉ characters := by
  intro member
  cases characters with
  | nil =>
      cases isName
  | cons first rest =>
      simp only [isSchemeName, Bool.and_eq_true, List.all_eq_true] at isName
      rcases List.mem_cons.mp member with rfl | later
      · exact absurd isName.1 (by decide)
      · exact absurd (isName.2 ':' later) (by decide)

/-- The first colon after a text without one is where the text ends. -/
theorem splitAtColon_append
    {before : List Char}
    (fresh : ':' ∉ before)
    (after : List Char) :
    splitAtColon (before ++ ':' :: after) = some (before, after) := by
  induction before with
  | nil =>
      rfl
  | cons character rest inductionHypothesis =>
      rw [List.mem_cons, not_or] at fresh
      have notColon : character ≠ ':' := fun equal => fresh.1 equal.symm
      rw [List.cons_append, splitAtColon, if_neg notColon,
        inductionHypothesis fresh.2]
      rfl

namespace Divides

variable {text scheme body : String}

theorem characters
    (divides : Divides text scheme body) :
    text.toList = scheme.toList ++ ':' :: body.toList := by
  simp [divides.whole]

theorem not_mem
    (divides : Divides text scheme body) :
    ':' ∉ scheme.toList :=
  not_mem_of_isSchemeName (isSchemeName_iff.mpr divides.isScheme)

/-- A divided text is divided at its first colon. -/
theorem splitAtColon_eq
    (divides : Divides text scheme body) :
    splitAtColon text.toList = some (scheme.toList, body.toList) := by
  rw [divides.characters]
  exact splitAtColon_append divides.not_mem _

/-- So there is only one way to divide it. -/
theorem unique
    (divides : Divides text scheme body)
    {otherScheme otherBody : String}
    (others : Divides text otherScheme otherBody) :
    otherScheme = scheme ∧ otherBody = body := by
  have same := others.splitAtColon_eq.symm.trans divides.splitAtColon_eq
  simp only [Option.some.injEq, Prod.mk.injEq, String.toList_inj] at same
  exact same

theorem text_ne_empty
    (divides : Divides text scheme body) :
    text ≠ "" := by
  rintro rfl
  simpa using divides.characters

/-- A divided text is read as its scheme in small letters and its body. -/
theorem parse
    (divides : Divides text scheme body) :
    Locator.parse text = .ok ⟨some (inSmallLetters scheme), body⟩ := by
  have notEmpty : text.isEmpty = false := by
    simpa using divides.text_ne_empty
  have isName := isSchemeName_iff.mpr divides.isScheme
  have lowered : scheme.toList.map Char.toLower = scheme.toList.map smallLetter :=
    List.map_congr_left fun character _ => toLower_eq_smallLetter character
  rw [Locator.parse, notEmpty, Locator.ofCharacters, divides.splitAtColon_eq]
  simp [isName, lowered, inSmallLetters]

end Divides

/-- A text that is not divided is relative, and is its own body. -/
theorem Locator.parse_of_undivided
    {text : String}
    (notEmpty : text ≠ "")
    (undivided : ∀ scheme body, ¬Divides text scheme body) :
    parse text = .ok ⟨none, text⟩ := by
  have isNotEmpty : text.isEmpty = false := by
    simpa using notEmpty
  rw [parse, isNotEmpty, ofCharacters]
  cases split : splitAtColon text.toList with
  | none =>
      simp
  | some parts =>
      obtain ⟨before, after⟩ := parts
      have notName : isSchemeName before = false := by
        rw [Bool.eq_false_iff]
        intro isName
        refine undivided (String.ofList before) (String.ofList after) ⟨?_, ?_⟩
        · rw [← String.toList_inj, (splitAtColon_eq_some split).1]
          simp
        · rw [← isSchemeName_iff, String.toList_ofList]
          exact isName
      simp [notName]

/--
The language of locators.  Only the empty text is none.  A text is an absolute
locator exactly if it is divided into a scheme and a body; then there is one way
to divide it, at the first colon, the scheme is kept in small letters and the
body as it stands.  Every other text is relative and is its own body.
-/
theorem locator_grammar
    (text : String) :
    (∀ error, Locator.parse text = .error error ↔ text = "" ∧ error = .empty) ∧
    (text ≠ "" → ∃ locator,
      Locator.parse text = .ok locator ∧
      (locator.isAbsolute = true ↔ ∃ scheme body, Divides text scheme body) ∧
      (∀ scheme body,
        Divides text scheme body →
        (∀ otherScheme otherBody,
          Divides text otherScheme otherBody →
          otherScheme = scheme ∧ otherBody = body) ∧
        ':' ∉ scheme.toList ∧
        locator.scheme = some (inSmallLetters scheme) ∧
        locator.body = body ∧
        locator.text = inSmallLetters scheme ++ ":" ++ body) ∧
      ((∀ scheme body, ¬Divides text scheme body) →
        locator.isRelative = true ∧
        locator.scheme = none ∧
        locator.body = text ∧
        locator.text = text)) := by
  refine ⟨?_, ?_⟩
  · intro error
    cases error
    by_cases isEmpty : text = ""
    · subst isEmpty
      exact ⟨fun _ => ⟨rfl, rfl⟩, fun _ => rfl⟩
    · have notEmpty : text.isEmpty = false := by
        simpa using isEmpty
      simp [Locator.parse, notEmpty, isEmpty]
  · intro notEmpty
    by_cases divided : ∃ scheme body, Divides text scheme body
    · obtain ⟨scheme, body, divides⟩ := divided
      refine ⟨_, divides.parse, ?_, ?_, ?_⟩
      · exact ⟨fun _ => ⟨scheme, body, divides⟩, fun _ => rfl⟩
      · intro otherScheme otherBody others
        obtain ⟨rfl, rfl⟩ := divides.unique others
        exact ⟨fun _ _ => others.unique, others.not_mem, rfl, rfl, rfl⟩
      · intro undivided
        exact absurd divides (undivided scheme body)
    · have undivided : ∀ scheme body, ¬Divides text scheme body :=
        fun scheme body divides => divided ⟨scheme, body, divides⟩
      refine ⟨_, Locator.parse_of_undivided notEmpty undivided, ?_, ?_, ?_⟩
      · exact ⟨(nomatch ·), fun isDivided => absurd isDivided divided⟩
      · intro scheme body divides
        exact absurd divides (undivided scheme body)
      · exact fun _ => ⟨rfl, rfl, rfl, rfl⟩

/-- A scheme with a capital letter and marks, and a body with a colon of its own. -/
theorem remoteHost_divides :
    Divides "Svn+SSH:Host:é" "Svn+SSH" "Host:é" where
  whole := rfl
  isScheme := isSchemeName_iff.mp (by decide)

/--
Its scheme is put in small letters and its body is not; a path with a colon is
relative.
-/
theorem remoteHost_grammar :
    "Svn+SSH:Host:é" ≠ "" ∧ "dir/a:b" ≠ "" ∧
      ∃ locator relative,
        Locator.parse "Svn+SSH:Host:é" = .ok locator ∧
          locator.isAbsolute = true ∧
          locator.scheme = some "svn+ssh" ∧
          locator.body = "Host:é" ∧
          locator.text = "svn+ssh:Host:é" ∧
        Locator.parse "dir/a:b" = .ok relative ∧
          relative.isRelative = true ∧
          relative.body = "dir/a:b" := by
  have notEmpty : "Svn+SSH:Host:é" ≠ "" := by decide
  have pathNotEmpty : "dir/a:b" ≠ "" := by decide
  obtain ⟨locator, isRead, isAbsolute, divided, -⟩ :=
    (locator_grammar "Svn+SSH:Host:é").2 notEmpty
  obtain ⟨-, -, isScheme, isBody, isText⟩ := divided _ _ remoteHost_divides
  obtain ⟨relative, pathIsRead, pathIsAbsolute, -, undivided⟩ :=
    (locator_grammar "dir/a:b").2 pathNotEmpty
  obtain rfl : ⟨none, "dir/a:b"⟩ = relative := Except.ok.inj pathIsRead
  have pathUndivided : ∀ scheme body, ¬Divides "dir/a:b" scheme body :=
    fun scheme body divides => nomatch pathIsAbsolute.mpr ⟨scheme, body, divides⟩
  obtain ⟨isRelative, -, pathIsBody, -⟩ := undivided pathUndivided
  have lowered : inSmallLetters "Svn+SSH" = "svn+ssh" := by decide
  rw [lowered] at isScheme isText
  exact ⟨notEmpty, pathNotEmpty, locator, _, isRead,
    isAbsolute.mpr ⟨_, _, remoteHost_divides⟩, isScheme, isBody, isText, pathIsRead,
    isRelative, pathIsBody⟩

end Dispatch
