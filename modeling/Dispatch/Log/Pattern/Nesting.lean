namespace Dispatch.Log.Pattern

/-!
# Nesting of patterns

A pattern is a tree.  Every group, repetition and set is a level of it, and so is
every sequence and every choice of at least two parts.  The nesting of a tree is
the number of levels above its deepest leaf.
-/

/-- The greatest nesting that a pattern may have. -/
def nestingLimit : Nat := 250

/--
The parts of a sequence or a choice: how many, and the greatest nesting of any.
-/
structure Parts where
  count : Nat
  deepest : Nat
deriving Repr, DecidableEq

namespace Parts

/-- No parts. -/
def empty : Parts :=
  ⟨0, 0⟩

/-- One part more. -/
def add
    (parts : Parts)
    (nesting : Nat) : Parts :=
  ⟨parts.count + 1, max parts.deepest nesting⟩

/-- The nesting of the whole; a single part stands for itself. -/
def nesting
    (parts : Parts) : Nat :=
  if 2 ≤ parts.count then parts.deepest + 1 else parts.deepest

end Parts

end Dispatch.Log.Pattern
