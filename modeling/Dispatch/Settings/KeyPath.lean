import Dispatch.Settings.Tree
import Dispatch.Text.LowerCase

namespace Dispatch.Settings

/-!
# Key paths

A key such as `a.b[2]` is a path into the tree: a name, then entries of tables
and elements of lists.  Names in a path are runs of ASCII letters, digits,
spaces, `_` and `-`.  A key that is no path in this sense is a plain name.

Setting a path turns whatever stands in its way into a table or a list.
-/

/-- One step of a path after its first name. -/
inductive PathStep
  | entry (name : String)
  | element (index : Int)
deriving Repr, DecidableEq

/-- A path into a tree. -/
structure KeyPath where
  root : String
  steps : List PathStep
deriving Repr, DecidableEq

/-- Characters of the names in a path. -/
def isNameCharacter
    (character : Char) : Bool :=
  character.isAlphanum || character == ' ' || character == '_' || character == '-'

/-- Spaces and tabs, which may surround an index. -/
def isIndexBlank
    (character : Char) : Bool :=
  character == ' ' || character == '\t'

/--
The position that an index text stands for: digits, with a minus in front or
without.
-/
def indexValue?
    (characters : List Char) : Option Int :=
  let trimmed := characters.dropWhile isIndexBlank
  let core := (trimmed.reverse.dropWhile isIndexBlank).reverse
  match core with
  | '+' :: _ => none
  | _ => Decimal.integerLiteral? core

namespace KeyPath

/-- Reads the steps after the first name.  `limit` bounds their number. -/
def readSteps :
    (limit : Nat) → List Char → Option (List PathStep)
  | _, [] =>
      some []
  | 0, _ =>
      none
  | limit + 1, '.' :: rest =>
      let name := rest.takeWhile isNameCharacter
      if name.isEmpty then
        none
      else
        (readSteps limit (rest.dropWhile isNameCharacter)).map
          (.entry (String.ofList name) :: ·)
  | limit + 1, '[' :: rest =>
      match rest.dropWhile (· != ']') with
      | ']' :: afterIndex => do
          let index ← indexValue? (rest.takeWhile (· != ']'))
          let steps ← readSteps limit afterIndex
          return .element index :: steps
      | _ =>
          none
  | _, _ =>
      none

/-- Reads a path. -/
def ofCharacters?
    (characters : List Char) : Option KeyPath :=
  let name := characters.takeWhile isNameCharacter
  if name.isEmpty then
    none
  else
    (readSteps characters.length (characters.dropWhile isNameCharacter)).map
      fun steps => ⟨String.ofList name, steps⟩

end KeyPath

/-- A position in a list; a negative index counts from the end. -/
def positionOf
    (index : Int)
    (length : Nat) : Nat :=
  if 0 ≤ index then index.toNat else length - index.natAbs

namespace Tree

/-- Replaces an element of a list; missing elements before it are filled in. -/
def setElement
    (position : Nat)
    (value : Tree)
    (elements : List Tree) : List Tree :=
  (elements ++ List.replicate (position + 1 - elements.length) absent).set
    position value

/-- Puts a tree at the end of a path that starts at another tree. -/
def place
    (value : Tree) :
    List PathStep → Tree → Tree
  | [], _ =>
      value
  | [.entry name], tree =>
      assign name value tree
  | .entry name :: rest, tree =>
      setEntry name (place value rest ((tree.find? name).getD absent)) tree
  | .element index :: rest, tree =>
      let (elements, origin) := tree.asList
      let position := positionOf index elements.length
      let current := elements[position]?.getD absent
      list (setElement position (place value rest current) elements) origin

/-- Sets a key, which is lowered first, as a path or else as a plain name. -/
def setKey
    (key : String)
    (value tree : Tree) : Tree :=
  let lowered := Text.lowerCase key
  match KeyPath.ofCharacters? lowered.toList with
  | some path => place value (.entry path.root :: path.steps) tree
  | none => assign lowered value tree

/-- Sets the keys of one source, one after another. -/
def merge
    (source : List (String × Tree))
    (tree : Tree) : Tree :=
  source.foldl (fun tree (key, value) => setKey key value tree) tree

end Tree

end Dispatch.Settings
