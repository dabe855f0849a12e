import Dispatch.Proofs.LocatorEquality

namespace Dispatch

/-!
# The normal form of a locator

A locator is stored as its normal form and the length of its scheme in bytes, and
its scheme and its body are cut out of the normal form at these positions.  The
normal form takes as many bytes as the text that the locator was read from, and
differs from it only in the case of letters before the first colon.  Read once
more, it gives the same locator, so what has been normalised stays as it is.
-/

/-! ## Parts between byte positions -/

/--
A part of a text that lies between two positions, which are counted in bytes.
There is one only where the positions are in order, within the text, and between
characters.
-/
def IsSlice
    (text : String)
    (start stop : Nat)
    (part : String) : Prop :=
  ∃ before after,
    text = before ++ part ++ after ∧
      before.utf8ByteSize = start ∧
      before.utf8ByteSize + part.utf8ByteSize = stop

namespace IsSlice

/-- Of two ways to divide a text, those at the same position are the same. -/
theorem append_inj
    {before after otherBefore otherAfter : String}
    (same : before ++ after = otherBefore ++ otherAfter)
    (sameSize : before.utf8ByteSize = otherBefore.utf8ByteSize) :
    before = otherBefore ∧ after = otherAfter := by
  have bytes := congrArg String.toByteArray same
  rw [String.toByteArray_append, String.toByteArray_append] at bytes
  have sameBefore : before = otherBefore :=
    String.toByteArray_inj.mp (ByteArray.append_inj_left bytes sameSize)
  subst sameBefore
  exact ⟨rfl, String.toByteArray_inj.mp ((ByteArray.append_right_inj _).mp bytes)⟩

/-- There is at most one part between two positions. -/
theorem unique
    {text part other : String}
    {start stop : Nat}
    (isSlice : IsSlice text start stop part)
    (alsoSlice : IsSlice text start stop other) :
    part = other := by
  obtain ⟨before, after, rfl, rfl, rfl⟩ := isSlice
  obtain ⟨otherBefore, otherAfter, whole, sameStart, sameStop⟩ := alsoSlice
  rw [String.append_assoc, String.append_assoc] at whole
  obtain ⟨rfl, rest⟩ := append_inj whole sameStart.symm
  exact (append_inj rest (by omega)).1

/-- A part is the one between two positions exactly if it is the known one. -/
theorem iff_eq
    {text part : String}
    {start stop : Nat}
    (isSlice : IsSlice text start stop part)
    (other : String) :
    IsSlice text start stop other ↔ other = part := by
  constructor
  · exact fun alsoSlice => alsoSlice.unique isSlice
  · rintro rfl
    exact isSlice

end IsSlice

/-! ## The length of schemes -/

/-- A letter takes one byte, small or capital. -/
theorem utf8Size_smallLetter
    (character : Char) :
    (smallLetter character).utf8Size = character.utf8Size := by
  by_cases isCapital : 'A' ≤ character ∧ character ≤ 'Z'
  · have bounded : character.toNat ≤ 90 := by
      simpa [Char.le_def, UInt32.le_iff_toNat_le] using isCapital.2
    have shifted : (smallLetter character).toNat = character.toNat + 32 := by
      rw [smallLetter, if_pos isCapital, Char.toNat_ofNat, if_pos (.inl (by omega))]
    have ascii {letter : Char} (bounded : letter.toNat ≤ 127) :
        letter.utf8Size = 1 := by
      simp [Char.utf8Size, UInt32.le_iff_toNat_le, bounded]
    rw [ascii (by omega), ascii (by omega)]
  · rw [smallLetter, if_neg isCapital]

theorem utf8ByteSize_ofList
    (characters : List Char) :
    (String.ofList characters).utf8ByteSize =
        (characters.map Char.utf8Size).sum := by
  induction characters with
  | nil =>
      rfl
  | cons character rest inductionHypothesis =>
      rw [String.ofList_cons, String.utf8ByteSize_append,
        String.utf8ByteSize_singleton,
        inductionHypothesis, List.map_cons, List.sum_cons]

/-- A text keeps its length when it is put in small letters. -/
@[simp]
theorem utf8ByteSize_inSmallLetters
    (text : String) :
    (inSmallLetters text).utf8ByteSize = text.utf8ByteSize := by
  have sameSizes : Char.utf8Size ∘ smallLetter = Char.utf8Size :=
    funext utf8Size_smallLetter
  have whole : text.utf8ByteSize = (text.toList.map Char.utf8Size).sum := by
    rw [← utf8ByteSize_ofList, String.ofList_toList]
  rw [inSmallLetters, utf8ByteSize_ofList, List.map_map, sameSizes, whole]

namespace Divides

variable {text scheme body : String}

/-- The scheme is the part up to the colon. -/
theorem isSlice_scheme
    (divides : Divides text scheme body) :
    IsSlice text 0 scheme.utf8ByteSize scheme :=
  ⟨"", ":" ++ body, by simp [divides.whole, String.append_assoc], rfl, by simp⟩

/-- The body is the part after the colon. -/
theorem isSlice_body
    (divides : Divides text scheme body) :
    IsSlice text (scheme.utf8ByteSize + 1) text.utf8ByteSize body :=
  ⟨scheme ++ ":", "", by simp [divides.whole], String.utf8ByteSize_append,
    by simp [divides.whole]⟩

end Divides

/--
The round trip of a locator through its normal form.  Every text but the empty
one is read as a locator.  Its normal form, which is also what is displayed of it,
is read as the same locator once more: the same text is stored, and the same
length of the scheme.  It has as many bytes as the text had.  If the locator is
absolute, the normal form is the text with small letters before the first colon;
what is cut out of it up to the length of the scheme is the scheme, what is cut
out after the byte of the colon is the body, and these two make it up.  If the
locator is relative, the normal form is the text.
-/
theorem normal_form_round_trips
    {text : String}
    (notEmpty : text ≠ "") :
    ∃ locator,
      Locator.parse text = .ok locator ∧
      (∃ again,
        Locator.parse locator.text = .ok again ∧
          again.stored = locator.stored ∧
          again = locator) ∧
      Locator.parse (toString locator) = .ok locator ∧
      locator.text.utf8ByteSize = text.utf8ByteSize ∧
      (locator.isAbsolute = true →
        ∃ before scheme body length,
          text = before ++ ":" ++ body ∧
          ':' ∉ before.toList ∧
          locator.text = inSmallLetters before ++ ":" ++ body ∧
          locator.scheme = some scheme ∧
          locator.body = body ∧
          locator.schemeLength = some length ∧
          (∀ part, IsSlice locator.text 0 length part ↔ part = scheme) ∧
          (∀ part,
            IsSlice locator.text (length + 1) locator.text.utf8ByteSize part ↔
              part = body) ∧
          scheme ++ ":" ++ body = locator.text) ∧
      (locator.isRelative = true →
        locator.body = text ∧ locator.text = text) := by
  have isRead : ∃ locator, Locator.parse text = .ok locator := by
    have isNotEmpty : text.isEmpty = false := by
      simpa using notEmpty
    exact ⟨_, by rw [Locator.parse, isNotEmpty]; rfl⟩
  obtain ⟨locator, isRead⟩ := isRead
  have readAgain := Locator.parse_text isRead
  refine ⟨locator, isRead, ⟨locator, readAgain, rfl, rfl⟩, readAgain, ?_⟩
  rcases Locator.of_parse isRead with ⟨before, body, divides, rfl⟩ | ⟨-, rfl⟩
  · have normal := divides.inSmallLetters
    refine ⟨?_, ?_, by rintro ⟨⟩⟩
    · simp [Locator.text, divides.whole]
    · exact fun _ =>
        ⟨before, inSmallLetters before, body, _, divides.whole, divides.not_mem,
        rfl, rfl, rfl, rfl, normal.isSlice_scheme.iff_eq,
          normal.isSlice_body.iff_eq, rfl⟩
  · exact ⟨rfl, by rintro ⟨⟩, fun _ => ⟨rfl, rfl⟩⟩

/--
A scheme with capital letters, before a body with a colon and a capital letter of
two bytes.
-/
theorem capitalBody_round_trips :
    "Svn+SSH:É:B" ≠ "" ∧
      ∃ locator,
        Locator.parse "Svn+SSH:É:B" = .ok locator ∧
        Locator.parse locator.text = .ok locator ∧
        locator.text = "svn+ssh:É:B" ∧
        locator.text.utf8ByteSize = 12 := by
  have notEmpty : "Svn+SSH:É:B" ≠ "" := by decide
  obtain ⟨locator, isRead, ⟨again, readAgain, -, rfl⟩, -, sameSize, -, -⟩ :=
    normal_form_round_trips notEmpty
  have known : Locator.parse "Svn+SSH:É:B" = .ok ⟨some "svn+ssh", "É:B"⟩ := by decide
  obtain rfl : ⟨some "svn+ssh", "É:B"⟩ = again :=
    Except.ok.inj (known.symm.trans isRead)
  exact ⟨notEmpty, _, isRead, readAgain, rfl, sameSize⟩

end Dispatch
