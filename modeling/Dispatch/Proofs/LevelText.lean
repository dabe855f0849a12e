import Dispatch.Proofs.PlainDecimals
import Dispatch.Proofs.Switches

namespace Dispatch

/-!
# The log level from the environment

The text of a variable is looked at as a truth value, as an integer and as a
floating-point number before it is taken as a string.  The log level is a string
after all, so what was recognised is written out again: a truth value as its word,
a number in its plain decimal form.  Any other text is the log level as it stands,
and every text is one.
-/

namespace Text

/-- The letters of the words for truth values. -/
def truthLetters : List Char :=
  ['t', 'r', 'u', 'e', 'f', 'a', 'l', 's']

/-- What a run lowers a character to is none of these letters. -/
theorem run_misses_words
    {run : CaseRun}
    (member : run ∈ caseRuns)
    {character : Char}
    (contained : run.contains character.toNat = true) :
    Char.ofNat ((character.toNat : Int) + run.offset).toNat ∉ truthLetters := by
  -- Only the Kelvin sign is lowered into ASCII, to a letter that neither word has.
  have beyond :
      ∀ run ∈ caseRuns,
        (122 : Int) < run.first + run.offset ∨
          run.first = run.last ∧ run.first + run.offset = 107 := by
    decide +kernel
  have runBeyond := beyond run member
  have letters :
      ∀ letter ∈ truthLetters,
          0 < letter.toNat ∧ letter.toNat ≤ 122 ∧ letter.toNat ≠ 107 := by
    simp [truthLetters]
  simp only [CaseRun.contains, Bool.and_eq_true, decide_eq_true_eq] at contained
  intro isLetter
  have bounds := letters _ isLetter
  rcases toNat_ofNat_cases ((character.toNat : Int) + run.offset).toNat with
    isCode | isNull
  · omega
  · omega

/-- A character that is lowered to these letters is an ASCII letter. -/
theorem isAlpha_of_lowerInContext
    {before after : List Char}
    {character : Char}
    (lowered :
      ∀ other ∈ lowerInContext before character after, other ∈ truthLetters) :
    character.isAlpha = true := by
  by_cases ascii : character.toNat < 0x80
  · rw [lowerInContext_of_ascii ascii] at lowered
    have letters : ∀ letter ∈ truthLetters, letter.isAlpha = true := by
      simp [truthLetters]
    rw [← Char.isAlpha_toLower_eq_isAlpha]
    exact letters _ (lowered _ (List.mem_singleton_self _))
  · exfalso
    unfold lowerInContext at lowered
    split at lowered
    · split at lowered <;>
        exact absurd (lowered _ (List.mem_singleton_self _)) (by decide)
    · split at lowered
      · exact absurd (lowered '\u0307' (by simp)) (by decide)
      · have isLetter := lowered _ (List.mem_singleton_self _)
        cases found : caseRuns.find? fun run => run.contains character.toNat with
        | none =>
            simp only [lowerCharacter, if_neg ascii, found] at isLetter
            have letters : ∀ letter ∈ truthLetters, letter.toNat < 0x80 := by
              simp [truthLetters]
            exact ascii (letters _ isLetter)
        | some run =>
            have contained : run.contains character.toNat = true :=
              List.find?_some
                (p := fun run : CaseRun => run.contains character.toNat) found
            simp only [lowerCharacter, if_neg ascii, found] at isLetter
            exact run_misses_words (List.mem_of_find?_eq_some found)
              contained isLetter

/-- A text that is lowered to these letters is made of ASCII letters. -/
theorem isAlpha_of_lowerAfter
    {before characters : List Char}
    (lowered : ∀ other ∈ lowerAfter before characters, other ∈ truthLetters) :
    ∀ character ∈ characters, character.isAlpha = true := by
  induction characters generalizing before with
  | nil =>
      simp
  | cons character after inductionHypothesis =>
      rw [lowerAfter] at lowered
      intro other member
      rcases List.mem_cons.mp member with rfl | member
      · exact isAlpha_of_lowerInContext fun letter isLetter =>
          lowered letter (List.mem_append_left _ isLetter)
      · exact inductionHypothesis
          (fun letter isLetter =>
            lowered letter (List.mem_append_right _ isLetter)) other member

end Text

namespace Settings

open Decimal

/-- The words that stand for truth values. -/
def truthWords : List String :=
  ["true", "false"]

/-- A character that a word for a truth value or a number may have. -/
def IsLiteralCharacter
    (character : Char) : Prop :=
  character.isAlphanum = true ∨ character = '+' ∨ character = '-' ∨ character = '.'

/-! ## Texts that are recognised -/

theorem isLiteralCharacter_of_isDigit
    {character : Char}
    (isDigit : IsDigit character) :
    IsLiteralCharacter character := by
  refine .inl ?_
  rw [Char.isAlphanum, isDigit_iff.mpr isDigit, Bool.or_true]

theorem isLiteralCharacter_of_isAlpha
    {character : Char}
    (isAlpha : character.isAlpha = true) :
    IsLiteralCharacter character := by
  refine .inl ?_
  rw [Char.isAlphanum, isAlpha, Bool.true_or]

theorem IsLiteralCharacter.ofSign
    {sign : List Char}
    {negative : Bool}
    (isSign : IsSign sign negative) :
    ∀ character ∈ sign, IsLiteralCharacter character := by
  cases isSign <;> simp [IsLiteralCharacter]

theorem IsLiteralCharacter.ofWhole
    {characters : List Char}
    {value : Int}
    (isWhole : IsWhole characters value) :
    ∀ character ∈ characters, IsLiteralCharacter character := by
  obtain ⟨isSign, -, areDigits⟩ := isWhole
  intro character member
  rcases List.mem_append.mp member with inSign | isDigit
  · exact .ofSign isSign character inSign
  · exact isLiteralCharacter_of_isDigit (areDigits character isDigit)

theorem IsLiteralCharacter.ofUnsignedDecimal
    {characters : List Char}
    {digits : Nat}
    {power : Int}
    (isDecimal : IsUnsignedDecimal characters digits power) :
    ∀ character ∈ characters, IsLiteralCharacter character := by
  obtain ⟨areDigits, isFraction, -, isExponent⟩ := isDecimal
  intro character member
  rcases List.mem_append.mp member with inWhole | member
  · exact isLiteralCharacter_of_isDigit (areDigits character inWhole)
  rcases List.mem_append.mp member with inFraction | inExponent
  · cases isFraction with
    | absent =>
        cases inFraction
    | point areDigits =>
        rcases List.mem_cons.mp inFraction with rfl | isDigit
        · exact .inr (.inr (.inr rfl))
        · exact isLiteralCharacter_of_isDigit (areDigits character isDigit)
  · cases isExponent with
    | absent =>
        cases inExponent
    | marked isMark isWhole =>
        rcases List.mem_cons.mp inExponent with rfl | inPower
        · rcases isMark with rfl | rfl <;>
            exact isLiteralCharacter_of_isAlpha (by decide)
        · exact .ofWhole isWhole character inPower

/-- A word in any case is made of ASCII letters. -/
theorem IsLiteralCharacter.ofWord
    {letters word : List Char}
    (isWord : letters.map Char.toLower = word)
    (areLetters : ∀ letter ∈ word, letter.isAlpha = true) :
    ∀ character ∈ letters, IsLiteralCharacter character := by
  subst isWord
  intro character member
  apply isLiteralCharacter_of_isAlpha
  rw [← Char.isAlpha_toLower_eq_isAlpha]
  exact areLetters _ (List.mem_map_of_mem member)

/-- Literals have no other characters than letters, digits, signs and points. -/
theorem IsLiteralCharacter.ofLiteral
    {characters : List Char}
    (isLiteral : IsLiteral characters) :
    ∀ character ∈ characters, IsLiteralCharacter character := by
  rcases isLiteral with
    ⟨value, isWhole, -⟩ | ⟨value, isWord⟩ |
      ⟨negative, digits, power, isSign, isDecimal⟩
  · exact .ofWhole isWhole
  · cases isWord with
    | infinite isSign isWord =>
        intro character member
        rcases List.mem_append.mp member with inSign | inWord
        · exact .ofSign isSign character inSign
        · rcases isWord with isWord | isWord <;>
            exact .ofWord isWord (by simp) character inWord
    | nan isSign isWord =>
        intro character member
        rcases List.mem_append.mp member with inSign | inWord
        · exact .ofSign isSign character inSign
        · exact .ofWord isWord (by simp) character inWord
  · intro character member
    rcases List.mem_append.mp member with inSign | inDecimal
    · exact .ofSign isSign character inSign
    · exact .ofUnsignedDecimal isDecimal character inDecimal

/-- So have the words for truth values, in any case. -/
theorem IsLiteralCharacter.ofTruthWord
    {text : String}
    (isWord : Text.lowerCase text ∈ truthWords) :
    ∀ character ∈ text.toList, IsLiteralCharacter character := by
  have letters :
      ∀ word ∈ truthWords, ∀ letter ∈ word.toList, letter ∈ Text.truthLetters := by
    simp [truthWords, Text.truthLetters]
  have lowered := letters _ isWord
  rw [Text.lowerCase, String.toList_ofList] at lowered
  intro character member
  exact isLiteralCharacter_of_isAlpha
    (Text.isAlpha_of_lowerAfter lowered character member)

/-- A word for a truth value is no literal. -/
theorem IsLiteral.not_mem_truthWords
    {text : String}
    (isLiteral : IsLiteral text.toList) :
    Text.lowerCase text ∉ truthWords := by
  intro isWord
  have isSwitchWord : ∀ word ∈ truthWords, ∃ value, word ∈ switchWords value := by
    decide
  obtain ⟨value, member⟩ := isSwitchWord _ isWord
  exact isLiteral.not_mem_switchWords value member

/--
The text of a floating-point number: a word, or a decimal with the nearest number.
-/
def IsFloat
    (characters : List Char)
    (value : Binary64) : Prop :=
  IsNumberWord characters value ∨
    ∃ negative digits power,
      IsDecimal characters negative digits power ∧
        Binary64.ofDecimal negative digits power = value

section

variable
  {characters : List Char}
  {value : Binary64}

theorem IsFloat.isLiteral
    (isFloat : IsFloat characters value) :
    IsLiteral characters := by
  rcases isFloat with isWord | ⟨negative, digits, power, isDecimal, -⟩
  · exact .inr (.inl ⟨value, isWord⟩)
  · exact .inr (.inr ⟨negative, digits, power, isDecimal⟩)

theorem IsFloat.isRepresented
    (isFloat : IsFloat characters value) :
    value.IsRepresented := by
  rcases isFloat with isWord | ⟨negative, digits, power, -, rfl⟩
  · cases isWord with
    | infinite => exact .infinite _
    | nan => exact .nan
  · exact Binary64.isRepresented_ofDecimal negative digits power

end

/-! ## The text of a level -/

/--
The log level that a text means: a word, a number in plain form, or the text itself.
-/
def levelText
    (text : String) : String :=
  if Text.lowerCase text ∈ truthWords then
    Text.lowerCase text
  else
    match integerLiteral? text.toList with
    | some value => toString value
    | none =>
        match floatLiteral? text.toList with
        | some value => value.plain
        | none => text

/-- What is recognised is written out again where a string is asked for. -/
theorem toText_ofText
    (key text : String)
    (origin : Option String) :
    toText key (.scalar (Scalar.ofText text) origin) = .ok (levelText text) := by
  unfold Scalar.ofText levelText
  by_cases isTrue : Text.lowerCase text = "true"
  · rw [isTrue]
    rfl
  by_cases isFalse : Text.lowerCase text = "false"
  · rw [isFalse]
    rfl
  simp only [truthWords, List.mem_pair, isTrue, isFalse, or_self]
  cases integerLiteral? text.toList with
  | some value => rfl
  | none => cases floatLiteral? text.toList <;> rfl

section

variable
  {text : String}

theorem levelText_of_isInteger
    {value : Int}
    (isInteger : IsInteger text.toList value) :
    levelText text = toString value := by
  rw [levelText, if_neg (IsLiteral.not_mem_truthWords (.inl ⟨value, isInteger⟩)),
    integerLiteral?_eq_some_iff.mpr isInteger]

theorem levelText_of_isFloat
    {value : Binary64}
    (noInteger : ¬∃ value, IsInteger text.toList value)
    (isFloat : IsFloat text.toList value) :
    levelText text = value.plain := by
  have noLiteral : integerLiteral? text.toList = none := by
    rw [Option.eq_none_iff_forall_ne_some]
    exact fun value isRead =>
      noInteger ⟨value, integerLiteral?_eq_some_iff.mp isRead⟩
  rw [levelText, if_neg isFloat.isLiteral.not_mem_truthWords, noLiteral,
    floatLiteral?_eq_some_iff.mpr isFloat]

theorem levelText_of_not_isLiteral
    (notWord : Text.lowerCase text ∉ truthWords)
    (notLiteral : ¬IsLiteral text.toList) :
    levelText text = text := by
  obtain ⟨noInteger, noFloat⟩ := not_or.mp (mt isLiteral_iff.mpr notLiteral)
  rw [levelText, if_neg notWord,
    Option.eq_none_iff_forall_ne_some.mpr (not_exists.mp noInteger),
    Option.eq_none_iff_forall_ne_some.mpr (not_exists.mp noFloat)]

/-- A text with a character that no literal has is no literal and no word. -/
theorem levelText_of_foreign
    (foreign : ∃ character ∈ text.toList, ¬IsLiteralCharacter character) :
    levelText text = text := by
  obtain ⟨character, member, notLiteral⟩ := foreign
  exact levelText_of_not_isLiteral
    (fun isWord => notLiteral (.ofTruthWord isWord character member))
    (fun isLiteral => notLiteral (.ofLiteral isLiteral character member))

end

/-! ## The log level -/

/-- The variable that sets the log level. -/
def levelVariable : String := "SCHEME_REGISTRY_LOG_LEVEL"

/-- What is loaded without a file and with one variable, that of the log level. -/
def loadLevel
    (text : String)
    (files : FileTree)
    (process : Variables) : Except LoadError Settings :=
  load files none (some [(levelVariable, text)]) process

/-- Loading does not fail, whatever the text is. -/
theorem loadLevel_eq
    (text : String)
    (files : FileTree)
    (process : Variables) :
    loadLevel text files process =
      .ok { (default : Settings) with logLevel := levelText text } := by
  have key : keyOfVariable? levelVariable = some Field.logLevel.key := by
    decide +kernel
  have read :
      ofVariables [(levelVariable, text)] =
        [(Field.logLevel.key,
            .scalar (Scalar.ofText text) (some environmentOrigin))] := by
    simp [ofVariables, key]
  have converted := toText_ofText Field.logLevel.key text (some environmentOrigin)
  generalize Scalar.ofText text = value at read converted
  have merged :
      layered [] [(Field.logLevel.key, .scalar value (some environmentOrigin))] =
        .table (Association.set Field.logLevel.key
          (.scalar value (some environmentOrigin))
          (toTree default)) :=
    rfl
  have settings :
      ofTree (.table
        (Association.set Field.logLevel.key (.scalar value (some environmentOrigin))
          (toTree default))) =
        (toText Field.logLevel.key
          (.scalar value (some environmentOrigin))).map fun level =>
          { (default : Settings) with logLevel := level } := by
    cases value <;> rfl
  calc
    loadLevel text files process =
        ofLayers [] (ofVariables [(levelVariable, text)]) :=
      load_without_file files _ process
    _ = (ofTree (layered []
      [(Field.logLevel.key, .scalar value (some environmentOrigin))])).mapError
          .wrongType := by
        rw [read, ofLayers]
    _ = .ok { (default : Settings) with logLevel := levelText text } := by
        rw [merged, settings, converted]
        rfl

/--
The log level from a variable.  With no file and no other variable, loading
succeeds, and the other settings have their defaults.  The log level is a truth
value in lower case, an integer of 64 bits in canonical form, any other number in
plain form, from which it is read back, and otherwise the text as it stands.  Texts
with a character that no literal has stand as they are, and so does the empty text.
-/
theorem level_from_variable
    (text : String)
    (files : FileTree)
    (process : Variables) :
    ∃ level,
      loadLevel text files process =
        .ok { (default : Settings) with logLevel := level } ∧
        (Text.lowerCase text ∈ truthWords → level = Text.lowerCase text) ∧
        (∀ value, IsInteger text.toList value → level = toString value) ∧
        ((¬∃ value, IsInteger text.toList value) →
          ∀ value, IsFloat text.toList value →
            value.IsPlainForm level ∧ IsFloat level.toList value) ∧
        (Text.lowerCase text ∉ truthWords → ¬IsLiteral text.toList → level = text) ∧
        ((∃ character ∈ text.toList, ¬IsLiteralCharacter character) → level = text) ∧
        (text = "" → level = "") := by
  refine ⟨levelText text, loadLevel_eq text files process,
    fun isWord => if_pos isWord, fun _ => levelText_of_isInteger, ?_,
    levelText_of_not_isLiteral, levelText_of_foreign, ?_⟩
  · intro noInteger value isFloat
    rw [levelText_of_isFloat noInteger isFloat]
    have isPlainForm := Binary64.isPlainForm_plain isFloat.isRepresented
    exact ⟨isPlainForm,
      floatLiteral?_eq_some_iff.mp
        (isPlainForm.floatLiteral?_eq isFloat.isRepresented)⟩
  · rintro rfl
    decide +kernel

example :
    ∀ pair ∈ [("TRUE", "true"), ("+007", "7"), ("-0", "0"), ("1e3", "1000"),
        ("-.5e-1", "-0.05"), ("9223372036854775808", "9223372036854776000"),
        ("nan", "NaN"), ("dispatch=debug,warn", "dispatch=debug,warn"),
        (" 1", " 1"), ("yes", "yes")],
      loadLevel pair.1 .empty [] =
          .ok { (default : Settings) with logLevel := pair.2 } := by
  decide +kernel

end Settings

end Dispatch
