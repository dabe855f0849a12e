import Dispatch.Log.Pattern.CharacterSet
import Dispatch.Log.Pattern.Group

namespace Dispatch.Log

/-!
# Patterns for values of fields

A filter may demand a value of a field by a regular expression.  Only whether
such a pattern is well-formed matters here: its groups and character sets are
closed, no two groups share a name, every repetition has something to repeat,
every backslash begins a known escape, all that is used is available under the
options in force, and nothing is nested too deeply.  Counted repetitions need
braces, which the text of a pattern never holds in pairs, so an opening brace is
an error outside a set.
-/

namespace Pattern

/-- A group that is being read. -/
structure OpenGroup where
  /-- The options that hold again after the group. -/
  outside : Options
  /-- The alternatives before the last bar. -/
  alternatives : Parts
  /-- The parts since then, without the last. -/
  parts : Parts
  /-- The nesting of the last part, if it may be repeated. -/
  last : Option Nat
deriving Repr, DecidableEq

namespace OpenGroup

/-- A group after its parenthesis. -/
def start
    (outside : Options) : OpenGroup :=
  ⟨outside, .empty, .empty, none⟩

/-- The parts since the last bar. -/
def sequence
    (group : OpenGroup) : Parts :=
  match group.last with
  | some nesting => group.parts.add nesting
  | none => group.parts

/-- One part more. -/
def add
    (group : OpenGroup)
    (nesting : Nat) : OpenGroup :=
  { group with parts := group.sequence, last := some nesting }

/-- Options, which are a part that may not be repeated. -/
def addOptions
    (group : OpenGroup) : OpenGroup :=
  { group with parts := group.sequence.add 0, last := none }

/-- A bar. -/
def alternate
    (group : OpenGroup) : OpenGroup :=
  ⟨group.outside, group.alternatives.add group.sequence.nesting, .empty, none⟩

/-- The nesting of what the group holds. -/
def inside
    (group : OpenGroup) : Nat :=
  (group.alternatives.add group.sequence.nesting).nesting

/-- The last part is repeated. -/
def repeat?
    (group : OpenGroup) : Option OpenGroup :=
  group.last.map fun nesting => { group with last := some (nesting + 1) }

end OpenGroup

/-- Drops the mark after a repetition that makes it as short as possible. -/
def dropShortMark : List Char → List Char
  | '?' :: rest => rest
  | characters => characters

/-- A name that the group has is among those of other groups. -/
def isTaken
    (names : List (List Char))
    (name : Option (List Char)) : Bool :=
  name.any (· ∈ names)

/--
A character may stand as it is: for itself, for a position, or for any character.
-/
def allowsPlain
    (options : Options)
    (character : Char) : Bool :=
  match character with
  | '^' => true
  | '$' => true
  | '.' => options.isUnicode
  | '\x7b' => false
  | _ => options.allowsLiteral

/-- An escape is available outside a set. -/
def allowsEscaped
    (options : Options) : Escaped → Bool
  | .single _ => options.allowsLiteral
  | .set => true
  | .position => true

/--
Reads the rest of a pattern, with the groups `outer` open around the current one
and the `names` of groups so far, and answers the nesting of the whole.
-/
def nestingFrom? :
    (limit : Nat) → (names : List (List Char)) → Options → OpenGroup →
      (outer : List OpenGroup) → List Char → Option Nat
  | 0, _, _, _, _, _ =>
      none
  | limit + 1, names, options, group, outer, characters =>
      match options.skip characters with
      | [] =>
          if outer.isEmpty then some group.inside else none
      | '(' :: rest =>
          match groupStart? options rest with
          | some (.opens inside name, rest') =>
              if isTaken names name then
                none
              else
                nestingFrom? limit (name.toList ++ names) inside (.start options)
                  (group :: outer) rest'
          | some (.changes changed, rest') =>
              nestingFrom? limit names changed group.addOptions outer rest'
          | none =>
              none
      | ')' :: rest =>
          match outer with
          | [] => none
          | enclosing :: others =>
              nestingFrom? limit names group.outside
                (enclosing.add (group.inside + 1))
                others rest
      | '|' :: rest =>
          nestingFrom? limit names options group.alternate outer rest
      | '[' :: rest => do
          let (nesting, rest') ← characterSet? options rest
          nestingFrom? limit names options (group.add nesting) outer rest'
      | '\\' :: rest => do
          let (escaped, rest') ← escape? options rest
          if allowsEscaped options escaped then
            nestingFrom? limit names options (group.add 0) outer rest'
          else
            none
      | character :: rest =>
          if character ∈ ['*', '+', '?'] then do
            nestingFrom? limit names options (← group.repeat?) outer
              (dropShortMark rest)
          else if allowsPlain options character then
            nestingFrom? limit names options (group.add 0) outer rest
          else
            none

/-- The nesting of a pattern, if it can be read. -/
def nesting?
    (pattern : List Char) : Option Nat :=
  nestingFrom? (pattern.length + 1) [] .standard (.start .standard) [] pattern

/-- A pattern is well-formed. -/
def isWellFormed
    (pattern : List Char) : Bool :=
  (nesting? pattern).any fun nesting => decide (nesting ≤ nestingLimit)

example : nesting? "a.*(b|[^]x-z]+)?".toList = some 7 := by decide +kernel

example : isWellFormed "(a".toList = false ∧ isWellFormed "a|*".toList = false ∧
    isWellFormed "[z-a]".toList = false ∧ isWellFormed "\\q".toList = false ∧
    isWellFormed "\\d".toList = false ∧ isWellFormed "(?-u)\\d".toList = true := by
  decide +kernel

end Pattern

end Dispatch.Log
