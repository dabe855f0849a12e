import Dispatch.Log.Pattern.Escape
import Dispatch.Log.Pattern.Nesting

namespace Dispatch.Log.Pattern

/-!
# Sets of characters in patterns

A set in brackets lists characters, ranges, named classes and further sets.  Two
signs of a kind (`&&`, `--` or `~~`) combine all that stands before them with
what follows, up to the next such signs or the closing bracket.
-/

/-! ## Members -/

/--
Reads one character of a set or an escape in it; only a single character has a
value.
-/
def setMember?
    (options : Options) :
    List Char → Option (Option Char × List Char)
  | [] =>
      none
  | '\\' :: rest =>
      match escape? options rest with
      | some (.single character, rest') =>
          if options.allowsMember character then
            some (some character, rest')
          else
            none
      | some (.set, rest') => some (none, rest')
      | _ => none
  | character :: rest =>
      if options.allowsMember character then some (some character, rest) else none

/--
Reads a member of a set, or a range of characters from lower to higher.  A hyphen
before a closing bracket or another hyphen makes no range.
-/
def setItem?
    (options : Options)
    (characters : List Char) : Option (List Char) := do
  let (first, afterFirst) ← setMember? options characters
  match options.skip afterFirst with
  | '-' :: rest =>
      if options.glance? rest = some ']' ∨ options.glance? rest = some '-' then
        return '-' :: rest
      else
        let (last, afterLast) ← setMember? options (options.skip rest)
        match first, last with
        | some low, some high => if low ≤ high then return afterLast else none
        | _, _ => none
  | rest =>
      return rest

/-- Names of classes of ASCII characters. -/
def classNames : List String :=
  ["alnum", "alpha", "ascii", "blank", "cntrl", "digit", "graph", "lower", "print",
    "punct", "space", "upper", "word", "xdigit"]

/--
Reads the name of a class, after its bracket, between colons and to its bracket;
the flag tells whether it is negated.
-/
def className? : List Char → Option (Bool × List Char)
  | ':' :: rest =>
      let (isNegated, start) :=
        match rest with
        | '^' :: start => (true, start)
        | _ => (false, rest)
      let name := start.takeWhile (· != ':')
      match start.drop name.length with
      | ':' :: ']' :: rest' =>
          if String.ofList name ∈ classNames then some (isNegated, rest') else none
      | _ => none
  | _ =>
      none

/-- A set or class may be negated, which takes it beyond ASCII. -/
def Options.allowsNegation
    (options : Options) : Bool :=
  options.isUnicode

/-! ## Sets -/

/-- A set that is being read. -/
structure OpenSet where
  /-- The nesting of all that stands before the last signs, if there are any. -/
  before : Option Nat
  /-- The members since then. -/
  members : Parts
  /-- Only hyphens have been read since the opening bracket. -/
  isAtStart : Bool
deriving Repr, DecidableEq

namespace OpenSet

/-- A set after its bracket. -/
def start : OpenSet :=
  ⟨none, .empty, true⟩

/-- One member more. -/
def add
    (set : OpenSet)
    (nesting : Nat) : OpenSet :=
  { set with members := set.members.add nesting, isAtStart := false }

/-- One of the hyphens at the start. -/
def addHyphen
    (set : OpenSet) : OpenSet :=
  { set.add 0 with isAtStart := true }

/-- The nesting of all that has been read. -/
def inside
    (set : OpenSet) : Nat :=
  match set.before with
  | some before => max before set.members.nesting + 1
  | none => set.members.nesting

/-- Signs that combine what has been read with what follows. -/
def combine
    (set : OpenSet) : OpenSet :=
  ⟨some set.inside, .empty, false⟩

/-- The nesting of the set. -/
def nesting
    (set : OpenSet) : Nat :=
  set.inside + 1

end OpenSet

/-- Reads a negation after the bracket of a set. -/
def setStart?
    (options : Options)
    (characters : List Char) : Option (List Char) :=
  match options.skip characters with
  | '^' :: rest => if options.allowsNegation then some rest else none
  | rest => some rest

/--
Reads a set to its closing bracket, with the sets `outer` open around it, and
answers its nesting.  Hyphens at the start are members, and so is a closing
bracket in the very first place.
-/
def set?
    (options : Options) :
    (limit : Nat) → OpenSet → (outer : List OpenSet) →
      List Char → Option (Nat × List Char)
  | 0, _, _, _ =>
      none
  | limit + 1, current, outer, characters =>
      match options.skip characters with
      | [] =>
          none
      | '-' :: rest =>
          if current.isAtStart then
            if options.allowsMember '-' then
              set? options limit current.addHyphen outer rest
            else
              none
          else
            match rest with
            | '-' :: rest' => set? options limit current.combine outer rest'
            | _ => do
                set? options limit (current.add 0) outer
                  (← setItem? options ('-' :: rest))
      | ']' :: rest =>
          if current.isAtStart && current.members.count == 0 then
            if options.allowsMember ']' then
              set? options limit (current.add 0) outer rest
            else
              none
          else
            match outer with
            | [] => some (current.nesting, rest)
            | enclosing :: others =>
                set? options limit (enclosing.add current.nesting) others rest
      | '[' :: rest =>
          match className? rest with
          | some (isNegated, rest') =>
              if options.allowsLiteral && (!isNegated || options.allowsNegation) then
                set? options limit (current.add 0) outer rest'
              else
                none
          | none => do
              set? options limit .start (current :: outer) (← setStart? options rest)
      | '&' :: '&' :: rest =>
          set? options limit current.combine outer rest
      | '~' :: '~' :: rest =>
          set? options limit current.combine outer rest
      | start => do
          set? options limit (current.add 0) outer (← setItem? options start)

/-- Reads a set after its bracket and answers its nesting. -/
def characterSet?
    (options : Options)
    (characters : List Char) : Option (Nat × List Char) := do
  let start ← setStart? options characters
  set? options (start.length + 1) .start [] start

example : characterSet? .standard "]a-z]b".toList = some (2, ['b']) ∧
    characterSet? .standard "[:alpha:]--[x]]".toList = some (3, []) ∧
    characterSet? .standard "z-a]".toList = none := by
  decide +kernel

end Dispatch.Log.Pattern
