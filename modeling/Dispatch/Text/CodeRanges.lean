namespace Dispatch.Text

/-!
# Sets of characters as ranges of code points

The character properties that text rules depend on are tabulated as increasing
lists of closed ranges.  Membership is a plain search through the list.
-/

/-- A closed range of code points, first and last. -/
abbrev CodeRange := Nat × Nat

/-- A character lies in one of the ranges. -/
def inRanges
    (ranges : List CodeRange)
    (character : Char) : Bool :=
  ranges.any fun range =>
    decide (range.1 ≤ character.toNat) &&
      decide (character.toNat ≤ range.2)

theorem inRanges_iff
    {ranges : List CodeRange}
    {character : Char} :
    inRanges ranges character = true ↔
      ∃ range ∈ ranges,
        range.1 ≤ character.toNat ∧ character.toNat ≤ range.2 := by
  simp [inRanges]

/-- The white space characters of the Unicode standard. -/
def whiteSpaceRanges : List CodeRange :=
  [
    (0x9, 0xd), (0x20, 0x20), (0x85, 0x85), (0xa0, 0xa0), (0x1680, 0x1680),
    (0x2000, 0x200a), (0x2028, 0x2029), (0x202f, 0x202f), (0x205f, 0x205f),
    (0x3000, 0x3000)]

/-- White space in the sense of the Unicode standard. -/
def isWhiteSpace
    (character : Char) : Bool :=
  inRanges whiteSpaceRanges character

example : isWhiteSpace ' ' = true ∧ isWhiteSpace '\u00a0' = true ∧
    isWhiteSpace 'x' = false := by
  decide

/-- Drops the white space at the front. -/
def dropWhiteSpace
    (characters : List Char) : List Char :=
  characters.dropWhile isWhiteSpace

/-- Drops the white space at the end. -/
def dropTrailingWhiteSpace
    (characters : List Char) : List Char :=
  (characters.reverse.dropWhile isWhiteSpace).reverse

/-- Drops the white space at both ends. -/
def trimWhiteSpace
    (characters : List Char) : List Char :=
  dropTrailingWhiteSpace (dropWhiteSpace characters)

end Dispatch.Text
