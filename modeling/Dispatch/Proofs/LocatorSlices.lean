import Dispatch.Proofs.NormalForm

namespace Dispatch

/-!
# Where locators are cut

To read a locator, its text is cut at the position of the first colon, and the
normal form, a text of its own, is cut at that position again whenever the scheme
or the body is asked for.  Positions count bytes, and a cut within a character or
past the end is a fault.  Here the reading is written down with cuts that can fail,
as it works on bytes, and no cut ever does: the scheme takes one byte for each
character, in capital letters as in small ones, so the colon stands at the same
position in both texts, and from there on they are the same.
-/

/-! ## Cutting a text -/

/-- The bytes of a text in UTF-8. -/
def bytes
    (text : String) : List UInt8 :=
  text.toByteArray.data.toList

/-- A position at which a text may be cut: where a character begins, or the end. -/
def isBoundary
    (text : String)
    (position : Nat) : Bool :=
  match (bytes text)[position]? with
  | some byte => decide byte.IsUTF8FirstByte
  | none => position == (bytes text).length

/--
The text between two positions.  There is none if they are in the wrong order, or if
one of them is past the end or within a character.
-/
def slice?
    (text : String)
    (start stop : Nat) : Option String :=
  if start ≤ stop ∧ isBoundary text start ∧ isBoundary text stop then
    String.fromUTF8? (text.toByteArray.extract start stop)
  else
    none

/-! ## Reading by positions -/

/-- The position of the first colon. -/
def colonPosition? : List Char → Option Nat
  | [] =>
      none
  | character :: rest =>
      if character = ':' then
        some 0
      else
        (colonPosition? rest).map fun position => character.utf8Size + position

/-- A text begins with a letter, and has only characters of scheme names. -/
def spellsScheme
    (text : String) : Bool :=
  text.toList.head?.any Char.isAlpha && text.toList.all isSchemeCharacter

namespace Locator

/--
Reads a text into what is stored of a locator, the normal form and the length of the
scheme.  There is no answer if the text is cut where it may not be.
-/
def readStored?
    (text : String) : Option (Except LocatorError (String × Option Nat)) :=
  if text.isEmpty then
    some (.error .empty)
  else
    match colonPosition? text.toList with
    | none =>
        some (.ok (text, none))
    | some colon => do
        let scheme ← slice? text 0 colon
        if spellsScheme scheme then
          let rest ← slice? text colon text.utf8ByteSize
          return .ok (Text.lowerAscii scheme ++ rest, some colon)
        else
          return .ok (text, none)

/-- The scheme as it is cut out of what is stored. -/
def storedScheme? : String × Option Nat → Option (Option String)
  | (text, some length) => (slice? text 0 length).map some
  | (_, none) => some none

/-- The body as it is cut out of what is stored. -/
def storedBody? : String × Option Nat → Option String
  | (text, some length) => slice? text (length + 1) text.utf8ByteSize
  | (text, none) => some text

end Locator

/-! ## Bytes -/

@[simp]
theorem bytes_append
    (first second : String) :
    bytes (first ++ second) = bytes first ++ bytes second := by
  simp [bytes]

@[simp]
theorem length_bytes
    (text : String) :
    (bytes text).length = text.utf8ByteSize := by
  simp [bytes]

/-- The bytes of a text are those of its characters. -/
theorem bytes_eq_flatMap
    (text : String) :
    bytes text = text.toList.flatMap String.utf8EncodeChar := by
  rw [bytes, ← String.ofList_toList (s := text), String.toByteArray_ofList]
  simp [List.utf8Encode]

/-- The positions to cut at are the valid ones of the text. -/
theorem isBoundary_iff
    {text : String}
    {position : Nat} :
    isBoundary text position = true ↔ String.Pos.Raw.IsValid text ⟨position⟩ := by
  have isEnd : (⟨position⟩ : String.Pos.Raw) = text.rawEndPos ↔
      position = text.utf8ByteSize := by
    simp [String.Pos.Raw.ext_iff]
  have isInside : (⟨position⟩ : String.Pos.Raw) < text.rawEndPos ↔
      position < text.utf8ByteSize := by
    simp [String.Pos.Raw.lt_iff]
  rw [String.Pos.Raw.isValid_iff_isUTF8FirstByte, isBoundary, isEnd]
  by_cases within : position < text.utf8ByteSize
  · rw [List.getElem?_eq_getElem (by simpa using within)]
    simp only [isInside, within, Nat.ne_of_lt within, exists_true_left, false_or]
    exact decide_eq_true_iff
  · rw [List.getElem?_eq_none (by simpa using within)]
    simp [isInside, within]

theorem isBoundary_append
    (before after : String) :
    isBoundary (before ++ after) before.utf8ByteSize = true :=
  isBoundary_iff.mpr
    (String.Pos.Raw.isValid_iff_exists_append.mpr ⟨before, after, rfl, rfl⟩)

/-- A part that lies between two positions can be cut out there. -/
theorem IsSlice.slice?_eq
    {text part : String}
    {start stop : Nat}
    (isSlice : IsSlice text start stop part) :
    slice? text start stop = some part := by
  obtain ⟨before, after, rfl, rfl, rfl⟩ := isSlice
  have starts := isBoundary_append before (part ++ after)
  have stops := isBoundary_append (before ++ part) after
  rw [← String.append_assoc] at starts
  rw [String.utf8ByteSize_append] at stops
  have content :=
    calc
      (before ++ part ++ after).toByteArray.extract before.utf8ByteSize
          (before.utf8ByteSize + part.utf8ByteSize)
        = (before.toByteArray ++ (part ++ after).toByteArray).extract
            (before.toByteArray.size + 0)
            (before.toByteArray.size + part.utf8ByteSize) := by
          rw [String.append_assoc, String.toByteArray_append, Nat.add_zero]
          rfl
      _ = (part ++ after).toByteArray.extract 0 part.utf8ByteSize :=
          ByteArray.extract_append_size_add
      _ = part.toByteArray := by
          rw [String.toByteArray_append]
          exact ByteArray.extract_append_eq_left rfl
  rw [slice?, if_pos ⟨Nat.le_add_right _ _, starts, stops⟩, content,
    String.fromUTF8?, dif_pos part.isValidUTF8]
  rfl

@[simp]
theorem slice?_append_left
    (first second : String) :
    slice? (first ++ second) 0 first.utf8ByteSize = some first :=
  IsSlice.slice?_eq ⟨"", second, by simp, rfl, by simp⟩

@[simp]
theorem slice?_append_right
    (first second : String) :
    slice? (first ++ second) first.utf8ByteSize (first ++ second).utf8ByteSize =
        some second :=
  IsSlice.slice?_eq ⟨first, "", by simp, rfl, by simp [String.utf8ByteSize_append]⟩

example :
    slice? "éx" 0 2 = some "é" ∧ slice? "éx" 1 3 = none ∧
      slice? "éx" 2 4 = none := by
  decide +kernel

/-! ## The first colon -/

/-- The position of the colon is the number of bytes before it. -/
theorem colonPosition?_eq
    (characters : List Char) :
    colonPosition? characters =
      (splitAtColon characters).map fun parts =>
          (String.ofList parts.1).utf8ByteSize := by
  induction characters with
  | nil =>
      rfl
  | cons character rest inductionHypothesis =>
      rw [colonPosition?, splitAtColon]
      split
      · rfl
      · rw [inductionHypothesis, Option.map_map, Option.map_map]
        congr 1
        funext parts
        simp [String.ofList_cons, String.utf8ByteSize_append]

/-- A text is the part before its first colon and what begins with the colon. -/
theorem eq_of_splitAtColon
    {text : String}
    {before after : List Char}
    (split : splitAtColon text.toList = some (before, after)) :
    text = String.ofList before ++ (":" ++ String.ofList after) := by
  rw [← String.toList_inj, (splitAtColon_eq_some split).1]
  simp

/--
A text spells a scheme exactly if it is a scheme name; its first character is tested
twice.
-/
theorem spellsScheme_ofList
    (characters : List Char) :
    spellsScheme (String.ofList characters) = isSchemeName characters := by
  cases characters with
  | nil =>
      rfl
  | cons first rest =>
      cases isAlpha : first.isAlpha <;>
        simp [spellsScheme, isSchemeName, isSchemeCharacter, Char.isAlphanum,
          isAlpha]

theorem lowerAscii_eq_inSmallLetters
    (text : String) :
    Text.lowerAscii text = inSmallLetters text := by
  have lowers : Char.toLower = smallLetter := funext toLower_eq_smallLetter
  rw [Text.lowerAscii, inSmallLetters, lowers]

/-! ## Reading -/

namespace Locator

/--
Reading by positions reads what is stored of the locator: no cut fails on the way,
and the position of the colon in the text is the length of the scheme in the normal
form.
-/
theorem readStored?_eq
    (text : String) :
    readStored? text = some ((parse text).map stored) := by
  rw [readStored?, parse]
  split
  · rfl
  · rw [colonPosition?_eq, ofCharacters]
    cases split : splitAtColon text.toList with
    | none =>
        simp [Except.map, stored, Locator.text, schemeLength]
    | some parts =>
        obtain ⟨before, after⟩ := parts
        have whole := eq_of_splitAtColon split
        have lowered : String.ofList (before.map Char.toLower) =
            inSmallLetters (String.ofList before) := by
          rw [← lowerAscii_eq_inSmallLetters, Text.lowerAscii, String.toList_ofList]
        simp only [Option.map_some, whole, slice?_append_left, slice?_append_right,
          Option.bind_eq_bind, Option.bind_some, spellsScheme_ofList, lowered,
          lowerAscii_eq_inSmallLetters]
        split <;> simp [Except.map, stored, Locator.text, schemeLength,
          String.append_assoc]

end Locator

/-! ## The bytes of a divided text -/

/-- Every character of a scheme is an ASCII one. -/
theorem IsScheme.lt_of_mem
    {text : String}
    (isScheme : IsScheme text)
    {character : Char}
    (member : character ∈ text.toList) :
    character.toNat < 128 := by
  have letter {other : Char} (isLetter : IsLetter other) : other.toNat < 128 := by
    have : other.toNat ≤ 122 ∨ other.toNat ≤ 90 :=
      isLetter.imp (fun small => small.2) fun capital => capital.2
    omega
  obtain ⟨first, rest, shape, firstIsLetter, follow⟩ := isScheme
  rw [shape] at member
  rcases List.mem_cons.mp member with rfl | later
  · exact letter firstIsLetter
  · rcases follow character later with isLetter | isDigit | rfl | rfl | rfl
    · exact letter isLetter
    · have : character.toNat ≤ 57 := isDigit.2
      omega
    all_goals decide

/-- So each of them takes one byte, which is an ASCII one. -/
theorem IsScheme.byte_lt
    {text : String}
    (isScheme : IsScheme text)
    {byte : UInt8}
    (member : byte ∈ bytes text) :
    byte < 128 := by
  rw [bytes_eq_flatMap, List.mem_flatMap] at member
  obtain ⟨character, known, isByte⟩ := member
  have isAscii := isScheme.lt_of_mem known
  have single : character.utf8Size = 1 :=
    Char.utf8Size_eq_one_iff.mpr
      (UInt32.le_iff_toNat_le.mpr (Nat.le_of_lt_succ isAscii))
  rw [String.utf8EncodeChar_eq_singleton single, List.mem_singleton] at isByte
  rw [isByte, UInt8.lt_iff_toNat_lt, UInt32.toNat_toUInt8]
  exact Nat.lt_of_le_of_lt (Nat.mod_le _ _) isAscii

namespace Divides

variable {text scheme body : String}

/--
The byte of the colon stands between those of the scheme and those of the body.
-/
theorem bytes_eq
    (divides : Divides text scheme body) :
    bytes text = bytes scheme ++ ':'.toUInt8 :: bytes body := by
  rw [divides.whole, bytes_append, bytes_append, List.append_assoc]
  rfl

theorem scheme_pos
    (divides : Divides text scheme body) :
    1 ≤ scheme.utf8ByteSize := by
  obtain ⟨first, rest, shape, -, -⟩ := divides.isScheme
  rw [Nat.one_le_iff_ne_zero, ne_eq, String.utf8ByteSize_eq_zero_iff]
  rintro rfl
  cases shape

theorem scheme_lt
    (divides : Divides text scheme body) :
    scheme.utf8ByteSize + 1 ≤ text.utf8ByteSize := by
  have size := congrArg List.length divides.bytes_eq
  rw [List.length_append, List.length_cons, length_bytes, length_bytes] at size
  omega

/-- The byte after the scheme is the colon. -/
theorem getElem?_bytes
    (divides : Divides text scheme body) :
    (bytes text)[scheme.utf8ByteSize]? = some ':'.toUInt8 := by
  rw [divides.bytes_eq, ← length_bytes scheme]
  simp

theorem take_bytes
    (divides : Divides text scheme body) :
    (bytes text).take scheme.utf8ByteSize = bytes scheme := by
  rw [divides.bytes_eq, ← length_bytes scheme, List.take_left]

theorem drop_bytes
    (divides : Divides text scheme body) :
    (bytes text).drop scheme.utf8ByteSize = ':'.toUInt8 :: bytes body := by
  rw [divides.bytes_eq, ← length_bytes scheme, List.drop_left]

end Divides

/-! ## Cutting locators -/

/--
No cut of a locator is out of place, for any text at all.  Reading the text by
positions gives what is stored of the locator, so no cut on the way fails, and the
scheme and the body can be cut out of what is stored.  If the length of a scheme is
stored, it is at least one, and the normal form has a colon at this position and ends
no earlier than right after it; all bytes before the colon are ASCII, and from there
on the bytes of the normal form are those of the text.
-/
theorem slices_in_place
    (text : String) :
    Locator.readStored? text = some ((Locator.parse text).map Locator.stored) ∧
    ∀ locator,
      Locator.parse text = .ok locator →
      Locator.storedScheme? locator.stored = some locator.scheme ∧
      Locator.storedBody? locator.stored = some locator.body ∧
      ∀ length,
        locator.schemeLength = some length →
        1 ≤ length ∧
        length + 1 ≤ locator.text.utf8ByteSize ∧
        (bytes locator.text)[length]? = some ':'.toUInt8 ∧
        (∀ byte ∈ (bytes locator.text).take length, byte < 128) ∧
        (bytes locator.text).drop length = (bytes text).drop length := by
  refine ⟨Locator.readStored?_eq text, fun locator isRead => ?_⟩
  rcases Locator.of_parse isRead with ⟨scheme, body, divides, rfl⟩ | ⟨-, rfl⟩
  · have normal := divides.inSmallLetters
    refine ⟨?_, normal.isSlice_body.slice?_eq, ?_⟩
    · exact congrArg (Option.map some) normal.isSlice_scheme.slice?_eq
    · intro length isLength
      obtain rfl : (inSmallLetters scheme).utf8ByteSize = length :=
        Option.some.inj isLength
      refine ⟨normal.scheme_pos, normal.scheme_lt, normal.getElem?_bytes, ?_, ?_⟩
      · intro byte member
        rw [Locator.text, normal.take_bytes] at member
        exact normal.isScheme.byte_lt member
      · have sameLength := utf8ByteSize_inSmallLetters scheme
        rw [Locator.text, normal.drop_bytes, sameLength, divides.drop_bytes]
  · refine ⟨rfl, rfl, ?_⟩
    rintro length ⟨⟩

/--
Capital letters in the scheme, and a body that begins with a character of two bytes.
-/
theorem capitalScheme_in_place :
    ∃ locator,
      Locator.parse "A+B:éx" = .ok locator ∧
      locator.schemeLength = some 3 ∧
      Locator.readStored? "A+B:éx" = some (.ok ("a+b:éx", some 3)) ∧
      Locator.storedScheme? locator.stored = some (some "a+b") ∧
      Locator.storedBody? locator.stored = some "éx" ∧
      3 + 1 ≤ locator.text.utf8ByteSize ∧
      (bytes locator.text).drop 3 = (bytes "A+B:éx").drop 3 := by
  obtain ⟨isReading, cuts⟩ := slices_in_place "A+B:éx"
  have isRead : Locator.parse "A+B:éx" = .ok ⟨some "a+b", "éx"⟩ := by decide
  obtain ⟨scheme, body, places⟩ := cuts _ isRead
  obtain ⟨-, within, -, -, same⟩ := places 3 rfl
  rw [isRead] at isReading
  exact ⟨_, isRead, rfl, isReading, scheme, body, within, same⟩

end Dispatch
