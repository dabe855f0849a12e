import Dispatch.Text.LowerCase
import Dispatch.Text.Quoted

namespace Dispatch

/-!
# Locators

A locator is a text that names a value.  The part before its first colon names
the scheme that resolves it, provided that part is a scheme name: a letter
followed by letters, digits and `+`, `-`, `.`, all of them ASCII.  Any other
text is relative and has no scheme.  Scheme names are kept in lower case; the
body is kept as it was written.
-/

/-- Characters that may follow the first letter of a scheme name. -/
def isSchemeCharacter
    (character : Char) : Bool :=
  character.isAlphanum || character == '+' || character == '-' || character == '.'

/-- The characters form a scheme name, in either case. -/
def isSchemeName : List Char → Bool
  | [] =>
      false
  | first :: rest =>
      first.isAlpha && rest.all isSchemeCharacter

/-- What stands before and after the first colon. -/
def splitAtColon : List Char → Option (List Char × List Char)
  | [] =>
      none
  | character :: rest =>
      if character = ':' then
        some ([], rest)
      else
        (splitAtColon rest).map fun parts => (character :: parts.1, parts.2)

/-- A parsed locator: its scheme in lower case, if it has one, and the rest. -/
structure Locator where
  scheme : Option String
  body : String
deriving Repr, DecidableEq, Hashable

/-- Text from which no locator can be read. -/
inductive LocatorError
  | empty
deriving Repr, DecidableEq

/-- The text of a locator error. -/
def LocatorError.message : LocatorError → String
  | .empty => "empty locator"

namespace Locator

/-- The scheme and the body of the characters of a locator. -/
def ofCharacters
    (characters : List Char) : Locator :=
  match splitAtColon characters with
  | some (before, after) =>
      if isSchemeName before then
        ⟨some (String.ofList (before.map Char.toLower)), String.ofList after⟩
      else
        ⟨none, String.ofList characters⟩
  | none =>
      ⟨none, String.ofList characters⟩

/-- Reads a locator.  Every text but the empty one is a locator. -/
def parse
    (text : String) : Except LocatorError Locator :=
  if text.isEmpty then
    .error .empty
  else
    .ok (ofCharacters text.toList)

/-- The normal form of a locator: its scheme in lower case, a colon, the body. -/
def text
    (locator : Locator) : String :=
  match locator.scheme with
  | some scheme => scheme ++ ":" ++ locator.body
  | none => locator.body

/-- A locator is displayed as its normal form. -/
instance : ToString Locator where
  toString := text

/-- The locator names its scheme. -/
def isAbsolute
    (locator : Locator) : Bool :=
  locator.scheme.isSome

/-- The locator names no scheme. -/
def isRelative
    (locator : Locator) : Bool :=
  locator.scheme.isNone

/--
The length of the scheme in bytes, which is where the normal form has its first
colon.
-/
def schemeLength
    (locator : Locator) : Option Nat :=
  locator.scheme.map String.utf8ByteSize

/-- The locator with its stored parts, for diagnostics. -/
def describe
    (locator : Locator) : String :=
  let length :=
    match locator.schemeLength with
    | some bytes => "Some(" ++ toString bytes ++ ")"
    | none => "None"
  "Locator \x7b text: " ++ Text.quoted locator.text ++
    ", scheme_len: " ++ length ++ " \x7d"

end Locator

/-- The error with its kind, for diagnostics. -/
def LocatorError.describe : LocatorError → String
  | .empty => "Empty"

/-- The parts around the first colon make up the whole. -/
theorem splitAtColon_eq_some
    {characters before after : List Char}
    (split : splitAtColon characters = some (before, after)) :
    characters = before ++ ':' :: after ∧ ':' ∉ before := by
  induction characters generalizing before with
  | nil =>
      simp [splitAtColon] at split
  | cons character rest inductionHypothesis =>
      rw [splitAtColon] at split
      split at split
      · rename_i isColon
        simp only [Option.some.injEq, Prod.mk.injEq] at split
        obtain ⟨rfl, rfl⟩ := split
        simp [isColon]
      · rename_i notColon
        obtain ⟨⟨first, second⟩, restSplit, partsEq⟩ :=
          Option.map_eq_some_iff.mp split
        simp only [Prod.mk.injEq] at partsEq
        obtain ⟨rfl, rfl⟩ := partsEq
        obtain ⟨shape, fresh⟩ := inductionHypothesis restSplit
        refine ⟨by rw [shape]; rfl, ?_⟩
        simp only [List.mem_cons, not_or]
        exact ⟨fun equal => notColon equal.symm, fresh⟩

end Dispatch
