import Dispatch.Log.Pattern.Options
import Dispatch.Text.AlphanumericTable

namespace Dispatch.Log.Pattern

/-!
# Starts of groups in patterns

A parenthesis opens a group.  A question mark after it begins the name of the
group or its options; options that end at a closing parenthesis hold for the
rest of the group around them instead.
-/

/-- What stands after an opening parenthesis. -/
inductive GroupStart
  /-- A group is opened; it may have a name. -/
  | opens (options : Options) (name : Option (List Char))
  /-- Options are changed. -/
  | changes (options : Options)
deriving Repr, DecidableEq

/-! ## Options -/

/-- Letters of the options that a group may set. -/
def optionLetters : List Char :=
  ['i', 'm', 's', 'U', 'u', 'x', 'R']

/-- Options without repetition, at most one minus among them and none at the end. -/
def areOptions
    (letters : List Char) : Bool :=
  letters.all (fun letter => letter == '-' || letter ∈ optionLetters) &&
    decide letters.Nodup && letters.getLast? != some '-'

/-- Reads options after a question mark. -/
def options?
    (options : Options)
    (characters : List Char) : Option (GroupStart × List Char) :=
  let letters := characters.takeWhile fun character =>
    character != ':' && character != ')'
  if areOptions letters then
    match characters.drop letters.length with
    | ':' :: rest =>
        some (.opens (options.change true letters) none, rest)
    | ')' :: rest =>
        if letters.isEmpty then
          none
        else
          some (.changes (options.change true letters), rest)
    | _ =>
        none
  else
    none

/-! ## Names -/

/-- A name of a group. -/
def isGroupName : List Char → Bool
  | [] =>
      false
  | first :: rest =>
      (first == '_' || Text.isAlphabetic first) &&
        rest.all fun character =>
          Text.isAlphanumeric character || character ∈ ['_', '.', '[', ']']

/-- Reads the name of a group and the bracket after it. -/
def groupName?
    (characters : List Char) : Option (List Char × List Char) :=
  let name := characters.takeWhile (· != '>')
  match characters.drop name.length with
  | '>' :: rest => if isGroupName name then some (name, rest) else none
  | _ => none

/-! ## Starts -/

/-- Reads what stands after an opening parenthesis. -/
def groupStart?
    (options : Options)
    (characters : List Char) : Option (GroupStart × List Char) :=
  match options.skip characters with
  | '?' :: 'P' :: '<' :: rest =>
      (groupName? rest).map fun (name, rest') => (.opens options (some name), rest')
  | '?' :: '<' :: rest =>
      (groupName? rest).map fun (name, rest') => (.opens options (some name), rest')
  | '?' :: rest =>
      options? options rest
  | rest =>
      some (.opens options none, rest)

example : groupStart? .standard "?x-u)a".toList =
      some (.changes ⟨false, false, true⟩, ['a']) ∧
    groupStart? .standard "?<a>b".toList =
      some (.opens .standard (some ['a']), ['b']) ∧
    groupStart? .standard "?)".toList = none := by
  decide +kernel

end Dispatch.Log.Pattern
