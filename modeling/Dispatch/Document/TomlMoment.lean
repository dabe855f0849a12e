import Dispatch.Decimal.Literal
import Dispatch.Value

namespace Dispatch.Toml

/-!
# Dates and times in TOML

A date, a time of day, or both with an offset.  They have no type of their own
among values: a document means the string in a normal form, with `T` between
date and time, `Z` in capitals, no zeros at the end of a fraction, and an offset
in hours and minutes.

While a document is read, a date is a table whose first name is `momentMark`.
A document may write such a table itself, with a string that holds just what a
literal may hold.
-/

/-! ## Parts -/

/-- The value of exactly the given number of digits, within bounds. -/
def fixedNumber?
    (count least greatest : Nat)
    (characters : List Char) : Option (Nat × List Char) :=
  let digits := characters.take count
  let value := Decimal.digitsValue digits
  if digits.length = count ∧ digits.all Char.isDigit ∧
      least ≤ value ∧ value ≤ greatest then
    some (value, characters.drop count)
  else
    none

/-- Reads one given character. -/
def expect
    (expected : Char) : List Char → Option (List Char)
  | [] => none
  | character :: rest => if character = expected then some rest else none

/-- The number of days of a month. -/
def daysOfMonth
    (year month : Nat) : Nat :=
  if month = 2 then
    if year % 4 = 0 ∧ (year % 100 ≠ 0 ∨ year % 400 = 0) then 29 else 28
  else if month = 4 ∨ month = 6 ∨ month = 9 ∨ month = 11 then
    30
  else
    31

/-- Reads a date; what was read is its normal form. -/
def date
    (characters : List Char) : Option (List Char × List Char) := do
  let (year, afterYear) ← fixedNumber? 4 0 9999 characters
  let (month, afterMonth) ← fixedNumber? 2 1 12 (← expect '-' afterYear)
  let (_, afterDay) ←
    fixedNumber? 2 1 (daysOfMonth year month) (← expect '-' afterMonth)
  return (characters.take 10, afterDay)

/--
The digits of a fraction of a second that count: at most nine, without zeros at the
end.
-/
def fractionDigits
    (digits : List Char) : List Char :=
  ((digits.take 9).reverse.dropWhile (· == '0')).reverse

/-- Reads a time of day and gives its normal form. -/
def timeOfDay
    (characters : List Char) : Option (List Char × List Char) := do
  let (_, afterHour) ← fixedNumber? 2 0 23 characters
  let (_, afterMinute) ← fixedNumber? 2 0 59 (← expect ':' afterHour)
  let (_, afterSecond) ← fixedNumber? 2 0 60 (← expect ':' afterMinute)
  let clock := characters.take 8
  match afterSecond with
  | '.' :: rest =>
      let digits := rest.takeWhile Char.isDigit
      if digits.isEmpty then
        none
      else
        let counted := fractionDigits digits
        let shown := if counted.isEmpty then [] else '.' :: counted
        some (clock ++ shown, rest.dropWhile Char.isDigit)
  | _ =>
      some (clock, afterSecond)

/-- A number below one hundred in two digits. -/
def twoDigits
    (value : Nat) : List Char :=
  [Nat.digitChar (value / 10), Nat.digitChar (value % 10)]

/--
Reads an offset from universal time, which is less than a day, and gives its
normal form; none is one of length zero.
-/
def offset
    (characters : List Char) : Option (List Char × List Char) :=
  match characters with
  | 'Z' :: rest => some (['Z'], rest)
  | 'z' :: rest => some (['Z'], rest)
  | sign :: rest =>
      if sign = '+' ∨ sign = '-' then do
        let (hours, afterHours) ← fixedNumber? 2 0 23 rest
        let (minutes, afterMinutes) ← fixedNumber? 2 0 59 (← expect ':' afterHours)
        let shownSign := if hours = 0 ∧ minutes = 0 then '+' else sign
        some
          (shownSign :: twoDigits hours ++ ':' :: twoDigits minutes, afterMinutes)
      else
        some ([], characters)
  | [] =>
      some ([], [])

/-! ## Whole texts -/

/-- A time of day with an offset, to the end of the characters. -/
def offsetTime?
    (characters : List Char) : Option (List Char) := do
  let (clock, afterClock) ← timeOfDay characters
  let (zone, rest) ← offset afterClock
  if rest.isEmpty then some (clock ++ zone) else none

/-- Characters between a date and a time. -/
def isTimeMark
    (character : Char) : Bool :=
  character == 'T' || character == 't' || character == ' '

/--
A date, a time of day, or both with an offset, to the end of the characters; in
its normal form.
-/
def moment?
    (characters : List Char) : Option (List Char) :=
  match date characters with
  | some (day, []) =>
      some day
  | some (day, mark :: rest) =>
      if isTimeMark mark then
        (offsetTime? rest).map fun time => day ++ 'T' :: time
      else
        none
  | none =>
      match timeOfDay characters with
      | some (time, []) => some time
      | _ => none

/-! ## Marked tables -/

/-- The first name of a table that stands for a date. -/
def momentMark : String := "$__toml_private_datetime"

/-- The table that stands for a date in normal form. -/
def markedMoment
    (text : List Char) : Value :=
  .object [(momentMark, .string (String.ofList text))]

/-- The string that a marked table means. -/
def spelledMoment? : Value → Option Value
  | .string text =>
      (moment? text.toList).map fun moment =>
        .string (String.ofList moment)
  | _ =>
      none

/-- The members begin with the mark of a date. -/
def isMarked
    (members : Association Value) : Bool :=
  (members.head?).any fun member => member.1 == momentMark

mutual

/-- Turns marked tables into strings; one that holds no date is an error. -/
def withMoments? : Value → Option Value
  | .array elements =>
      (elementsWithMoments? elements).map Value.array
  | .object members =>
      if isMarked members then
        (Association.find? momentMark members).bind spelledMoment?
      else
        (membersWithMoments? members).map Value.object
  | other =>
      some other

/-- Turns marked tables among and inside elements into strings. -/
def elementsWithMoments? :
    List Value → Option (List Value)
  | [] =>
      some []
  | element :: rest => do
      let first ← withMoments? element
      let others ← elementsWithMoments? rest
      return first :: others

/-- Turns marked tables among and inside members into strings. -/
def membersWithMoments? :
    List (String × Value) → Option (List (String × Value))
  | [] =>
      some []
  | (name, value) :: rest => do
      let first ← withMoments? value
      let others ← membersWithMoments? rest
      return (name, first) :: others

end

end Dispatch.Toml
