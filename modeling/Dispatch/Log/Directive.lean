import Dispatch.Decimal.Literal
import Dispatch.Log.Pattern
import Dispatch.Registry.Event
import Dispatch.Text.Bytes

namespace Dispatch.Log

/-!
# Directives of log filters

A directive lets records up to a level through.  It may be limited to targets
that begin with a given text, to spans of a given name, and to records that have
a given field, or have it with a given value.  In full it is written

    target[span{field=value}]=level

and every part but one may be left out.  A word alone is a level if it names one
and otherwise a target.
-/

/-- The least severe level that is let through; none lets nothing through. -/
abbrev Threshold := Option Level

/-- A level is let through. -/
def admits
    (threshold : Threshold)
    (level : Level) : Bool :=
  match threshold with
  | some limit => decide (level.rank ≤ limit.rank)
  | none => false

/--
What a directive demands of a field: that it is there, or that it has some value.
-/
structure FieldTest where
  name : String
  testsValue : Bool
deriving Repr, DecidableEq

/-- One part of a filter. -/
structure Directive where
  target : Option String
  span : Option String
  field : Option FieldTest
  threshold : Threshold
deriving Repr, DecidableEq

/-! ## Levels -/

/-- The thresholds in the order of their numbers. -/
def thresholds : List (String × Threshold) :=
  [("off", none), ("error", some .error), ("warn", some .warn),
    ("info", some .info), ("debug", some .debug), ("trace", some .trace)]

/-- A number in digits, with a plus in front or without. -/
def unsignedNumber? : List Char → Option Nat
  | '+' :: digits =>
      if Decimal.areDigits digits then some (Decimal.digitsValue digits) else none
  | digits =>
      if Decimal.areDigits digits then some (Decimal.digitsValue digits) else none

/-- The threshold of a level name in any case, or of its number. -/
def threshold?
    (characters : List Char) : Option Threshold :=
  match unsignedNumber? characters with
  | some number =>
      (thresholds[number]?).map Prod.snd
  | none =>
      let word := String.ofList (characters.map Char.toLower)
      (thresholds.find? fun named => named.1 = word).map Prod.snd

/--
The threshold that is written after a directive; an empty one lets everything
through.
-/
def thresholdOrAll?
    (characters : List Char) : Option Threshold :=
  if characters.isEmpty then some (some .trace) else threshold? characters

/-! ## Fields -/

/--
Reads the test of a field.  A value is a literal or a well-formed pattern, and
what follows a second `=` is ignored.
-/
def FieldTest.ofCharacters?
    (characters : List Char) : Option FieldTest :=
  let name := String.ofList (characters.takeWhile (· != '='))
  match characters.dropWhile (· != '=') with
  | [] =>
      some ⟨name, false⟩
  | _ :: rest =>
      let value := rest.takeWhile (· != '=')
      if (Decimal.floatLiteral? value).isSome || Pattern.isWellFormed value then
        some ⟨name, true⟩
      else
        none

/-! ## The layout of a directive -/

/-- Where a piece of a text stands: after how many bytes, and how many it has. -/
structure Place where
  start : Nat
  length : Nat
deriving Repr, DecidableEq

/-- The piece of a text. -/
def Place.cut
    (place : Place)
    (text : List Char) : List Char :=
  Text.takeBytes place.length (Text.dropBytes place.start text)

/-- Where the parts of a directive stand. -/
inductive Layout
  /-- One word. -/
  | word
  /-- Parts, the level up to the end. -/
  | parts (target span field : Option Place) (level : Option Nat)
deriving Repr, DecidableEq

namespace Layout

/-- Characters that a directive may begin with, apart from a bracket. -/
def canBegin
    (character : Char) : Bool :=
  Text.isAlphanumeric character ||
    character == '-' || character == ':' || character == '_'

/-- Reads what follows target and brackets, which end at a position. -/
def ofEnd?
    (target span field : Option Place)
    (position : Nat) : List Char → Option Layout
  | [] => some (.parts target span field none)
  | '=' :: _ => some (.parts target span field (some (position + 1)))
  | _ => none

/-- Reads brackets, in which a span, a field in braces, or both are named. -/
def ofBracket?
    (target : Option Place)
    (position : Nat)
    (characters : List Char) : Option Layout :=
  let span := characters.takeWhile fun character =>
    character != ']' && character != '\x7b'
  let spanPlace : Place := ⟨position, Text.byteLength span⟩
  let afterSpan := position + spanPlace.length + 1
  match characters.drop span.length with
  | ']' :: rest =>
      ofEnd? target (some spanPlace) none afterSpan rest
  | '\x7b' :: inside =>
      let field := inside.takeWhile (· != '\x7d')
      match inside.drop field.length with
      | '\x7d' :: ']' :: rest =>
          if field.isEmpty then
            none
          else
            ofEnd? target
              (if span.isEmpty then none else some spanPlace)
              (some ⟨afterSpan, Text.byteLength field⟩)
              (afterSpan + Text.byteLength field + 2) rest
      | _ =>
          none
  | _ =>
      none

/-- Reads the layout of a directive without white space around it. -/
def ofCharacters?
    (characters : List Char) : Option Layout :=
  match characters with
  | [] =>
      none
  | '[' :: rest =>
      ofBracket? none 1 rest
  | first :: _ =>
      if canBegin first then
        let name := characters.takeWhile fun character =>
          character != '=' && character != '['
        let target : Place := ⟨0, Text.byteLength name⟩
        match characters.drop name.length with
        | [] => some .word
        | '=' :: _ =>
            some (.parts (some target) none none (some (target.length + 1)))
        | _ :: rest => ofBracket? (some target) (target.length + 1) rest
      else
        none

end Layout

/-! ## Directives -/

namespace Directive

/--
The directive of one word: a level, or else a target that everything is let through
for.
-/
def ofWord
    (word : List Char) : Directive :=
  match threshold? word with
  | some threshold => ⟨none, none, none, threshold⟩
  | none => ⟨some (String.ofList word), none, none, some .trace⟩

/--
Reads a directive.  White space around it plays no part in its layout, but the
parts are cut out of the text as it stands, so a level with white space around
it is none.
-/
def ofCharacters?
    (text : List Char) : Option Directive := do
  match ← Layout.ofCharacters? (Text.trimWhiteSpace text) with
  | .word =>
      return ofWord text
  | .parts target span field level =>
      let test ←
        match field with
        | some place => (FieldTest.ofCharacters? (place.cut text)).map some
        | none => some none
      let threshold ←
        match level with
        | some position => thresholdOrAll? (Text.dropBytes position text)
        | none => some (some .trace)
      let piece := fun place : Place => String.ofList (place.cut text)
      return ⟨target.map piece, span.map piece, test, threshold⟩

/--
A directive concerns events unless it is about spans; the values of fields are
those of spans, too.
-/
def concernsEvents
    (directive : Directive) : Bool :=
  directive.span.isNone && !directive.field.any FieldTest.testsValue

/-- A directive applies to an event of its target that has its field. -/
def applies
    (directive : Directive)
    (event : Event) : Bool :=
  directive.concernsEvents &&
    directive.target.all
      (fun start => start.toList.isPrefixOf event.target.toList) &&
    directive.field.all fun test => test.name ∈ event.fieldNames

/-- How specific a target is: none least, then by length. -/
def weight
    (directive : Directive) : Nat :=
  match directive.target with
  | some start => start.utf8ByteSize + 1
  | none => 0

/--
Another directive is at least as specific: it has a longer target, or else a
field where this one has none, or else a field of a name that is not earlier in
the alphabet.
-/
def yieldsTo
    (directive other : Directive) : Bool :=
  if directive.weight = other.weight then
    match directive.field, other.field with
    | none, _ => true
    | some _, none => false
    | some mine, some others => !decide (others.name < mine.name)
  else
    decide (directive.weight < other.weight)

end Directive

end Dispatch.Log
