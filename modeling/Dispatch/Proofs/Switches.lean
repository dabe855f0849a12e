import Dispatch.Proofs.Layers
import Dispatch.Proofs.LetterCase
import Dispatch.Proofs.NumberLiterals
import Dispatch.Proofs.Underflow

namespace Dispatch

/-!
# Switches in the environment

Two settings are switched on and off by variables.  A text switches if it is one
of six words, in any case, or a number literal: as an integer of 64 bits if it is
one, and otherwise as a floating-point number.  Whatever is not zero switches on.

The text is first looked at as a literal and then, in lower case, as a word, where
also `1` and `0` would count.  No word is a literal, and nothing but these digits
is lowered to them, so it does not matter what is tried first.
-/

namespace Text

/-! ## Digits in lower case -/

theorem isDigit_iff_toNat
    {character : Char} :
    IsDigit character ↔ 48 ≤ character.toNat ∧ character.toNat ≤ 57 :=
  Iff.rfl

/--
The character with a code has this code, or is the null character if there is none.
-/
theorem toNat_ofNat_cases
    (code : Nat) :
    (Char.ofNat code).toNat = code ∨ (Char.ofNat code).toNat = 0 := by
  rw [Char.toNat_ofNat]
  exact ite_eq_or_eq _ _ _

/-- What a run lowers a character to is not a digit. -/
theorem not_isDigit_of_run
    {run : CaseRun}
    (member : run ∈ caseRuns)
    {character : Char}
    (contained : run.contains character.toNat = true) :
    ¬IsDigit (Char.ofNat ((character.toNat : Int) + run.offset).toNat) := by
  have beyond : ∀ run ∈ caseRuns, (57 : Int) < run.first + run.offset := by
    decide +kernel
  have runBeyond := beyond run member
  simp only [CaseRun.contains, Bool.and_eq_true, decide_eq_true_eq] at contained
  rw [isDigit_iff_toNat]
  rcases toNat_ofNat_cases ((character.toNat : Int) + run.offset).toNat with
    isCode | isNull
  · omega
  · omega

/-- A character that is lowered to a digit is this digit. -/
theorem lowerCharacter_of_isDigit
    {character : Char}
    (isDigit : IsDigit (lowerCharacter character)) :
    lowerCharacter character = character := by
  by_cases ascii : character.toNat < 0x80
  · rw [lowerCharacter_of_ascii ascii] at isDigit ⊢
    apply toLower_of_not_isAlpha
    rw [← Char.isAlpha_toLower_eq_isAlpha, Bool.eq_false_iff]
    intro isAlpha
    have := toNat_of_isAlpha isAlpha
    have := isDigit_iff_toNat.mp isDigit
    omega
  · cases found : caseRuns.find? fun run => run.contains character.toNat with
    | none =>
        simp only [lowerCharacter, if_neg ascii, found]
    | some run =>
        have contained : run.contains character.toNat = true :=
          List.find?_some
            (p := fun run : CaseRun => run.contains character.toNat) found
        simp only [lowerCharacter, if_neg ascii, found] at isDigit
        exact absurd isDigit
          (not_isDigit_of_run (List.mem_of_find?_eq_some found) contained)

/-- No character vanishes in lower case. -/
theorem lowerInContext_ne_nil
    (before : List Char)
    (character : Char)
    (after : List Char) :
    lowerInContext before character after ≠ [] := by
  unfold lowerInContext
  split
  · split <;> exact List.cons_ne_nil _ _
  · split <;> exact List.cons_ne_nil _ _

/-- A text that is lowered to a digit is this digit. -/
theorem eq_of_lowerAfter_eq_digit
    {before characters : List Char}
    {digit : Char}
    (isDigit : IsDigit digit)
    (lowered : lowerAfter before characters = [digit]) :
    characters = [digit] := by
  cases characters with
  | nil =>
      cases lowered
  | cons character after =>
      have isLast : after = [] := by
        cases after with
        | nil => rfl
        | cons next later =>
            have length := congrArg List.length lowered
            have first := List.length_pos_of_ne_nil
              (lowerInContext_ne_nil before character (next :: later))
            have second := List.length_pos_of_ne_nil
              (lowerInContext_ne_nil (character :: before) next later)
            simp only [lowerAfter, List.length_append,
              List.length_singleton] at length
            omega
      subst isLast
      rw [lowerAfter, lowerAfter, List.append_nil] at lowered
      unfold lowerInContext at lowered
      split at lowered
      · split at lowered <;> cases lowered <;>
          exact absurd isDigit (by unfold IsDigit; decide)
      · split at lowered
        · cases lowered
        · cases lowered
          rw [lowerCharacter_of_isDigit isDigit]

end Text

namespace Settings

open Decimal

/-! ## Words and literals -/

/-- A literal of an integer of 64 bits or of a floating-point number. -/
def IsLiteral
    (characters : List Char) : Prop :=
  (∃ value, IsInteger characters value) ∨
    (∃ value, IsNumberWord characters value) ∨
      ∃ negative digits power, IsDecimal characters negative digits power

/--
A literal whose value is zero: as an integer, if it is one of 64 bits, and
otherwise as the nearest floating-point number.  Zero is nearest to all that is at
most half of the least positive number, `2 ^ -1074`.
-/
def IsZeroLiteral
    (characters : List Char) : Prop :=
  IsInteger characters 0 ∨
    (¬∃ value, IsInteger characters value) ∧
      ∃ negative digits power,
        IsDecimal characters negative digits power ∧
          (digits : ℚ) * 10 ^ power ≤ 2 ^ (-1075 : Int)

/-- The words for a switch that is on, and for one that is off. -/
def switchWords : Bool → List String
  | true => ["true", "on", "yes"]
  | false => ["false", "off", "no"]

theorem isLiteral_iff
    {characters : List Char} :
    IsLiteral characters ↔
      (∃ value, integerLiteral? characters = some value) ∨
        ∃ value, floatLiteral? characters = some value := by
  simp only [IsLiteral, integerLiteral?_eq_some_iff, floatLiteral?_eq_some_iff]
  apply or_congr_right
  constructor
  · rintro (⟨value, isWord⟩ | ⟨negative, digits, power, isDecimal⟩)
    · exact ⟨value, .inl isWord⟩
    · exact ⟨_, .inr ⟨negative, digits, power, isDecimal, rfl⟩⟩
  · rintro ⟨value, isWord | ⟨negative, digits, power, isDecimal, -⟩⟩
    · exact .inl ⟨value, isWord⟩
    · exact .inr ⟨negative, digits, power, isDecimal⟩

/-- The characters that a number may start with. -/
def StartsNumber
    (character : Char) : Prop :=
  character = '+' ∨ character = '-' ∨ character = '.' ∨ IsDigit character

theorem StartsNumber.lt
    {character : Char}
    (starts : StartsNumber character) :
    character.toNat < 65 := by
  rcases starts with rfl | rfl | rfl | isDigit
  · decide
  · decide
  · decide
  · have := Text.isDigit_iff_toNat.mp isDigit
    omega

theorem StartsNumber.not_isAlpha
    {character : Char}
    (starts : StartsNumber character) :
    character.isAlpha = false := by
  rw [Bool.eq_false_iff]
  intro isAlpha
  have := starts.lt
  have := Text.toNat_of_isAlpha isAlpha
  omega

/-- A literal starts like a number, unless it is a word for one. -/
theorem IsLiteral.shape
    {characters : List Char}
    (isLiteral : IsLiteral characters) :
    (∃ first rest, characters = first :: rest ∧ StartsNumber first) ∨
      characters.map Char.toLower ∈
          ["inf".toList, "infinity".toList, "nan".toList] := by
  have signed
      {sign unsigned : List Char}
      {negative : Bool}
      (isSign : IsSign sign negative) :
      sign = [] ∨
        ∃ first rest, sign ++ unsigned = first :: rest ∧ StartsNumber first := by
    cases isSign with
    | absent => exact .inl rfl
    | plus => exact .inr ⟨'+', unsigned, rfl, .inl rfl⟩
    | minus => exact .inr ⟨'-', unsigned, rfl, .inr (.inl rfl)⟩
  rcases isLiteral with
    ⟨value, isWhole, -⟩ | ⟨value, isWord⟩ | ⟨negative, digits, power, isDecimal⟩
  · obtain ⟨isSign, notEmpty, areDigits⟩ := isWhole
    rcases signed isSign with rfl | starts
    · obtain ⟨first, rest, rfl⟩ := List.exists_cons_of_ne_nil notEmpty
      have isDigit := areDigits first List.mem_cons_self
      exact .inl ⟨first, rest, rfl, .inr (.inr (.inr isDigit))⟩
    · exact .inl starts
  · cases isWord with
    | infinite isSign isWord =>
        rcases signed isSign with rfl | starts
        · rcases isWord with isWord | isWord <;> simp [isWord]
        · exact .inl starts
    | nan isSign isWord =>
        rcases signed isSign with rfl | starts
        · simp [isWord]
        · exact .inl starts
  · obtain ⟨isSign, isDecimal⟩ := isDecimal
    rcases signed isSign with rfl | starts
    · obtain ⟨first, rest, rfl, starts⟩ := isDecimal.head
      exact .inl ⟨first, rest, rfl, .inr (.inr starts.symm)⟩
    · exact .inl starts

/-- No literal is a word for a switch. -/
theorem IsLiteral.not_mem_switchWords
    {text : String}
    (isLiteral : IsLiteral text.toList)
    (value : Bool) :
    Text.lowerCase text ∉ switchWords value := by
  rcases isLiteral.shape with ⟨first, rest, isText, starts⟩ | isWord
  · have begins :
        ∀ word ∈ switchWords value, word.toList.head?.all Char.isAlpha = true := by
      cases value <;> decide
    have ascii : first.toNat < 0x80 := starts.lt.trans (by decide)
    have lowered : (Text.lowerCase text).toList.head? = some first := by
      rw [Text.lowerCase, isText, Text.lowerAfter,
        Text.lowerInContext_of_ascii ascii,
        Text.toLower_of_not_isAlpha starts.not_isAlpha]
      simp
    intro member
    have isAlpha := begins _ member
    rw [lowered, Option.all_some, starts.not_isAlpha] at isAlpha
    cases isAlpha
  · have apart :
        ∀ word ∈ ["inf".toList, "infinity".toList, "nan".toList],
          Text.lowerCase (String.ofList word) ∉ switchWords value := by
      cases value <;> decide +kernel
    rw [← Text.lowerCase_lowerAscii]
    exact apart _ isWord

/-! ## Truth values -/

/-- The truth value that a text stands for, as a word or else as a literal. -/
def truth?
    (text : String) : Option Bool :=
  if Text.lowerCase text ∈ switchWords true then
    some true
  else if Text.lowerCase text ∈ switchWords false then
    some false
  else
    match integerLiteral? text.toList with
    | some value => some (value != 0)
    | none => (floatLiteral? text.toList).map fun value => !value.isZero

/-- A literal is not looked at as a word. -/
theorem truth?_of_isLiteral
    {text : String}
    (isLiteral : IsLiteral text.toList) :
    truth? text =
      match integerLiteral? text.toList with
      | some value => some (value != 0)
      | none => (floatLiteral? text.toList).map fun value => !value.isZero := by
  rw [truth?, if_neg (isLiteral.not_mem_switchWords true),
    if_neg (isLiteral.not_mem_switchWords false)]

/-- A text that is no integer is not lowered to a digit that is one. -/
theorem lowerCase_ne_digit
    {text : String}
    (noInteger : integerLiteral? text.toList = none)
    (digit : Char)
    (isDigit : IsDigit digit)
    (isInteger : (integerLiteral? [digit]).isSome = true) :
    Text.lowerCase text ≠ String.ofList [digit] := by
  intro lowered
  rw [Text.lowerCase, String.ofList_inj] at lowered
  rw [Text.eq_of_lowerAfter_eq_digit isDigit lowered] at noInteger
  rw [noInteger] at isInteger
  cases isInteger

/-- It does not matter whether words or literals are tried first. -/
theorem toBoolean_ofText
    (key text : String)
    (origin : Option String) :
    toBoolean key (.scalar (Scalar.ofText text) origin) =
      match truth? text with
      | some value => .ok value
      | none => .error
          ⟨.string (Text.lowerCase text), .boolean, some key, origin⟩ := by
  unfold Scalar.ofText
  by_cases isTrue : Text.lowerCase text = "true"
  · simp [isTrue, truth?, switchWords, toBoolean]
  by_cases isFalse : Text.lowerCase text = "false"
  · simp [isFalse, truth?, switchWords, toBoolean]
  simp only [if_neg isTrue, if_neg isFalse]
  cases integer : integerLiteral? text.toList with
  | some value =>
      rw [truth?_of_isLiteral (isLiteral_iff.mpr (.inl ⟨value, integer⟩)), integer]
      rfl
  | none =>
      cases float : floatLiteral? text.toList with
      | some value =>
          rw [truth?_of_isLiteral (isLiteral_iff.mpr (.inr ⟨value, float⟩)),
            integer, float]
          rfl
      | none =>
          have notOne : Text.lowerCase text ≠ "1" :=
            lowerCase_ne_digit integer '1' (by unfold IsDigit; decide) (by decide)
          have notZero : Text.lowerCase text ≠ "0" :=
            lowerCase_ne_digit integer '0' (by unfold IsDigit; decide) (by decide)
          have onWords :
              Text.lowerCase text ∈ trueWords ↔
                  Text.lowerCase text ∈ switchWords true :=
            List.mem_cons.trans (or_iff_right notOne)
          have offWords :
              Text.lowerCase text ∈ falseWords ↔
                  Text.lowerCase text ∈ switchWords false :=
            List.mem_cons.trans (or_iff_right notZero)
          simp only [toBoolean, onWords, offWords, truth?, integer, float]
          split
          · rfl
          · split <;> rfl

/-- What is no literal is looked at as a word only. -/
theorem truth?_of_not_isLiteral
    {text : String}
    (notLiteral : ¬IsLiteral text.toList) :
    truth? text =
      if Text.lowerCase text ∈ switchWords true then
        some true
      else if Text.lowerCase text ∈ switchWords false then
        some false
      else
        none := by
  obtain ⟨noInteger, noFloat⟩ := not_or.mp (mt isLiteral_iff.mpr notLiteral)
  rw [truth?, Option.eq_none_iff_forall_ne_some.mpr (not_exists.mp noInteger),
    Option.eq_none_iff_forall_ne_some.mpr (not_exists.mp noFloat), Option.map_none]

/-- Just the words and the literals have a truth value. -/
theorem exists_truth?_iff
    {text : String} :
    (∃ value, truth? text = some value) ↔
      (∃ value, Text.lowerCase text ∈ switchWords value) ∨
          IsLiteral text.toList := by
  by_cases isLiteral : IsLiteral text.toList
  · rw [truth?_of_isLiteral isLiteral]
    refine iff_of_true ?_ (.inr isLiteral)
    rcases isLiteral_iff.mp isLiteral with ⟨value, integer⟩ | ⟨value, float⟩
    · exact ⟨value != 0, by rw [integer]⟩
    · cases integer : integerLiteral? text.toList with
      | some value => exact ⟨value != 0, rfl⟩
      | none => exact ⟨!value.isZero, by rw [float, Option.map_some]⟩
  · rw [or_iff_left isLiteral, truth?_of_not_isLiteral isLiteral]
    by_cases isOn : Text.lowerCase text ∈ switchWords true
    · exact iff_of_true ⟨true, if_pos isOn⟩ ⟨true, isOn⟩
    by_cases isOff : Text.lowerCase text ∈ switchWords false
    · exact iff_of_true ⟨false, by rw [if_neg isOn, if_pos isOff]⟩ ⟨false, isOff⟩
    rw [if_neg isOn, if_neg isOff]
    refine iff_of_false (by simp) ?_
    rintro ⟨_ | _, isWord⟩
    · exact isOff isWord
    · exact isOn isWord

theorem isZeroLiteral_iff
    {characters : List Char} :
    IsZeroLiteral characters ↔
      integerLiteral? characters = some 0 ∨
        integerLiteral? characters = none ∧
          ∃ value, floatLiteral? characters = some value ∧ value.isZero = true := by
  have noInteger :
      integerLiteral? characters = none ↔ ¬∃ value, IsInteger characters value := by
    simp only [Option.eq_none_iff_forall_ne_some, ne_eq,
      integerLiteral?_eq_some_iff, not_exists]
  rw [IsZeroLiteral, integerLiteral?_eq_some_iff, noInteger]
  apply or_congr_right
  apply and_congr_right
  intro _
  constructor
  · rintro ⟨negative, digits, power, isDecimal, small⟩
    exact ⟨_, floatLiteral?_eq_some_iff.mpr
      (.inr ⟨negative, digits, power, isDecimal, rfl⟩),
      (Binary64.isZero_ofDecimal_iff negative digits power).mpr small⟩
  · rintro ⟨value, isRead, isZero⟩
    rcases floatLiteral?_eq_some_iff.mp isRead with
      isWord | ⟨negative, digits, power, isDecimal, rfl⟩
    · -- Neither an infinity nor a NaN is zero.
      cases isWord <;> cases isZero
    · exact ⟨negative, digits, power, isDecimal,
        (Binary64.isZero_ofDecimal_iff negative digits power).mp isZero⟩

theorem IsZeroLiteral.isLiteral
    {characters : List Char}
    (isZero : IsZeroLiteral characters) :
    IsLiteral characters := by
  rcases isZero with isInteger | ⟨-, negative, digits, power, isDecimal, -⟩
  · exact .inl ⟨0, isInteger⟩
  · exact .inr (.inr ⟨negative, digits, power, isDecimal⟩)

/-- Just the words for it and the literals of zero mean that a switch is off. -/
theorem truth?_eq_some_false_iff
    {text : String} :
    truth? text = some false ↔
      Text.lowerCase text ∈ switchWords false ∨ IsZeroLiteral text.toList := by
  by_cases isLiteral : IsLiteral text.toList
  · rw [truth?_of_isLiteral isLiteral,
      or_iff_right (isLiteral.not_mem_switchWords false), isZeroLiteral_iff]
    cases integer : integerLiteral? text.toList with
    | some value => simp
    | none => cases float : floatLiteral? text.toList <;> simp
  · have apart : ∀ word ∈ switchWords true, word ∉ switchWords false := by
      decide
    rw [or_iff_left (mt IsZeroLiteral.isLiteral isLiteral),
      truth?_of_not_isLiteral isLiteral]
    split
    · rename_i isOn
      exact iff_of_false (by simp) (apart _ isOn)
    · split
      · rename_i isOff
        exact iff_of_true rfl isOff
      · rename_i notOff
        exact iff_of_false (by simp) notOff

/-- The message on a text that has no truth value. -/
theorem message_of_word
    (key word : String) :
    (DispatchError.configuration
        (.wrongType ⟨.string word, .boolean, some key,
          some environmentOrigin⟩)).message =
      "Configuration error: invalid type: string " ++ Text.quoted word ++
        ", expected a boolean for key `" ++ key ++ "` in the environment" := by
  have start :
      "Configuration error: invalid type: string " =
        "Configuration error: " ++ ("invalid type: " ++ "string ") := by
    decide +kernel
  have middle :
      ", expected a boolean for key `" =
        ", expected " ++ ("a boolean" ++ " for key `") := by
    decide +kernel
  have ending : "` in the environment" = "`" ++ (" in " ++ environmentOrigin) := by
    decide +kernel
  calc
    _ = "Configuration error: " ++
          ("invalid type: " ++ ("string " ++ Text.quoted word) ++ ", expected " ++
            "a boolean" ++
            (" for key `" ++ key ++ "`") ++ (" in " ++ environmentOrigin)) := rfl
    _ = _ := by
        simp only [start, middle, ending, String.append_assoc, -String.reduceAppend]

/-! ## Switches -/

/-- Without a file, settings are made of the variables. -/
theorem load_without_file
    (files : FileTree)
    (environment process : Variables) :
    load files none (some environment) process =
        ofLayers [] (ofVariables environment) :=
  rfl

/-- The settings that are switched on and off. -/
inductive Switch
  | strict
  | logJson
deriving DecidableEq

namespace Switch

/-- The name that a switch has in every layer. -/
def key : Switch → String
  | strict => Field.strict.key
  | logJson => Field.logJson.key

/-- The variable that turns a switch. -/
def variableName : Switch → String
  | strict => "SCHEME_REGISTRY_STRICT"
  | logJson => "SCHEME_REGISTRY_LOG_JSON"

/-- The defaults, but for the switch. -/
def turned
    (value : Bool) : Switch → Settings
  | strict => { default with strict := value }
  | logJson => { default with logJson := value }

/-- What is loaded without a file and with one variable, that of the switch. -/
def load
    (switch : Switch)
    (text : String)
    (files : FileTree)
    (process : Variables) : Except LoadError Settings :=
  Settings.load files none (some [(switch.variableName, text)]) process

/-- The error on a text that has no truth value. -/
def refusal
    (switch : Switch)
    (text : String) : LoadError :=
  .wrongType
    ⟨.string (Text.lowerCase text), .boolean, some switch.key,
      some environmentOrigin⟩

/-- The switch is turned to the truth value of the text, if it has one. -/
theorem load_eq
    (switch : Switch)
    (text : String)
    (files : FileTree)
    (process : Variables) :
    switch.load text files process =
      match truth? text with
      | some value => .ok (switch.turned value)
      | none => .error (switch.refusal text) := by
  have key : keyOfVariable? switch.variableName = some switch.key := by
    cases switch <;> decide +kernel
  have read :
      ofVariables [(switch.variableName, text)] =
        [(switch.key, .scalar (Scalar.ofText text) (some environmentOrigin))] := by
    simp [ofVariables, key]
  have converted := toBoolean_ofText switch.key text (some environmentOrigin)
  generalize Scalar.ofText text = value at read converted
  have merged :
      layered [] [(switch.key, .scalar value (some environmentOrigin))] =
        .table (Association.set switch.key (.scalar value (some environmentOrigin))
          (toTree default)) := by
    cases switch <;> rfl
  have settings :
      ofTree (.table
        (Association.set switch.key (.scalar value (some environmentOrigin))
          (toTree default))) =
        (toBoolean switch.key (.scalar value (some environmentOrigin))).map
            switch.turned := by
    cases switch <;> rfl
  calc
    switch.load text files process =
        ofLayers [] (ofVariables [(switch.variableName, text)]) :=
      load_without_file files _ process
    _ = (ofTree (layered []
      [(switch.key, .scalar value (some environmentOrigin))])).mapError
          .wrongType := by
        rw [read, ofLayers]
    _ = ((toBoolean switch.key (.scalar value (some environmentOrigin))).map
          switch.turned).mapError .wrongType := by
        rw [merged, settings]
    _ = match truth? text with
        | some value => .ok (switch.turned value)
        | none => .error (switch.refusal text) := by
        rw [converted]
        cases truth? text <;> rfl

end Switch

/--
A boolean setting from a variable.  With no file and no other variable, loading
succeeds just for six words, in any case, and for number literals.  Then every
other setting has its default, and the switch is off just for the words for it and
for literals of zero.  Any other text is a mismatch that tells the text in lower
case, the key and the environment.
-/
theorem switch_from_variable
    (switch : Switch)
    (text : String)
    (files : FileTree)
    (process : Variables) :
    ((∃ settings, switch.load text files process = .ok settings) ↔
        (∃ value, Text.lowerCase text ∈ switchWords value) ∨ IsLiteral text.toList) ∧
      (∀ settings, switch.load text files process = .ok settings →
        ∃ value,
          settings = switch.turned value ∧
            (value = false ↔
              Text.lowerCase text ∈ switchWords false ∨ IsZeroLiteral text.toList)) ∧
      (¬((∃ value, Text.lowerCase text ∈ switchWords value) ∨
        IsLiteral text.toList) →
        (switch.load text files process).mapError DispatchError.configuration =
            .error (.configuration (switch.refusal text)) ∧
          (DispatchError.configuration (switch.refusal text)).message =
            "Configuration error: invalid type: string " ++
              Text.quoted (Text.lowerCase text) ++
                ", expected a boolean for key `" ++
              switch.key ++ "` in the environment") := by
  rw [← exists_truth?_iff, ← truth?_eq_some_false_iff, switch.load_eq]
  cases truth? text with
  | some value =>
      simp
  | none =>
      refine ⟨by simp, by simp, ?_⟩
      intro _
      exact ⟨rfl, message_of_word switch.key _⟩

example :
    Switch.strict.load "-0" .empty [] = .ok (Switch.strict.turned false) ∧
      Switch.strict.load "0e9" .empty [] = .ok (Switch.strict.turned false) ∧
      Switch.strict.load "1e-400" .empty [] = .ok (Switch.strict.turned false) ∧
      Switch.logJson.load "NaN" .empty [] = .ok (Switch.logJson.turned true) ∧
      Switch.logJson.load "-inf" .empty [] = .ok (Switch.logJson.turned true) := by
  decide +kernel

example :
    ∀ text ∈ ["", " true", "0x1", "1_000"],
      Switch.strict.load text .empty [] = .error (Switch.strict.refusal text) := by
  decide +kernel

end Settings

end Dispatch
