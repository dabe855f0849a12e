import Mathlib.Data.List.Nodup
import Mathlib.Tactic.Choose
import Dispatch.Error
import Dispatch.Settings.Load

namespace Dispatch.Settings

/-!
# Layers of settings

Each setting is decided by the last layer that has a value for it, and nothing
else that the layers hold plays a part.  A table without entries is no value.

What a tree becomes as a setting depends on its outermost form only, so it is
enough to follow this form of each setting through the merging of the layers.
-/

namespace Tree

/-- A tree without what its table holds. -/
def outer : Tree → Tree
  | table _ => table []
  | other => other

/-- Everything but a table without entries is a value. -/
def isValue : Tree → Bool
  | table [] => false
  | _ => true

/-- The outermost form of the value under a key. -/
def settled?
    (key : String)
    (tree : Tree) : Option Tree :=
  ((tree.find? key).filter isValue).map outer

/-- Putting a tree under a key leaves something in the table. -/
theorem assign_eq_table
    (key : String)
    (value tree : Tree) :
    ∃ entry rest, assign key value tree = table (entry :: rest) := by
  have filled :
      ∀ placed : Tree,
          ∃ entry rest, setEntry key placed tree = table (entry :: rest) := by
    intro placed
    rw [setEntry]
    cases tree.entries with
    | nil =>
        exact ⟨_, _, rfl⟩
    | cons entry rest =>
        rw [Association.set]
        split <;> exact ⟨_, _, rfl⟩
  cases value <;> exact filled _

/-- Putting trees under their keys leaves a table with something in it. -/
theorem assignAll_eq_table
    (entry : String × Tree)
    (rest : List (String × Tree))
    (tree : Tree) :
    ∃ first later, assignAll (entry :: rest) tree = table (first :: later) := by
  induction rest generalizing entry tree with
  | nil =>
      exact assign_eq_table entry.1 entry.2 tree
  | cons next rest inductionHypothesis =>
      exact inductionHypothesis next (assign entry.1 entry.2 tree)

/--
A value that is put under a key counts there; a table without entries changes
nothing.
-/
theorem settled?_assign
    (key : String)
    (value tree : Tree) :
    (assign key value tree).settled? key =
      ((some value).filter isValue |>.map outer).or (tree.settled? key) := by
  cases value with
  | scalar value origin =>
      simp only [settled?, assign, find?_setEntry, if_true]
      rfl
  | list elements origin =>
      simp only [settled?, assign, find?_setEntry, if_true]
      rfl
  | table incoming =>
      simp only [settled?, assign, find?_setEntry, if_true]
      cases incoming with
      | nil =>
          cases tree.find? key <;> rfl
      | cons entry rest =>
          obtain ⟨first, later, isTable⟩ :=
            assignAll_eq_table entry rest ((tree.find? key).getD (table []))
          rw [isTable]
          rfl

end Tree

/-! ## Keys -/

/-- A key that is the name of a setting and no path into one. -/
def IsPlain
    (key : String) : Prop :=
  ∀ path,
    KeyPath.ofCharacters? (Text.lowerCase key).toList = some path → path.steps = []

/-- The name under which a key, or the path that it is, starts. -/
def rootOf
    (key : String) : String :=
  match KeyPath.ofCharacters? (Text.lowerCase key).toList with
  | some path => path.root
  | none => Text.lowerCase key

/-- A path has no steps only where no characters are left. -/
theorem KeyPath.eq_nil_of_readSteps
    {limit : Nat}
    {characters : List Char}
    (noSteps : readSteps limit characters = some []) :
    characters = [] := by
  fun_cases readSteps limit characters <;>
    simp_all [readSteps, Option.bind_eq_some_iff]

/-- A plain key is the name that it starts under. -/
theorem IsPlain.rootOf_eq
    {key : String}
    (plain : IsPlain key) :
    rootOf key = Text.lowerCase key := by
  unfold rootOf
  cases read : KeyPath.ofCharacters? (Text.lowerCase key).toList with
  | none =>
      rfl
  | some path =>
      have noSteps := plain path read
      simp only [KeyPath.ofCharacters?] at read
      split at read
      · cases read
      · obtain ⟨steps, isRead, rfl⟩ := Option.map_eq_some_iff.mp read
        obtain rfl : steps = [] := noSteps
        have all := List.takeWhile_append_dropWhile
          (p := isNameCharacter) (l := (Text.lowerCase key).toList)
        rw [KeyPath.eq_nil_of_readSteps isRead, List.append_nil] at all
        simp [all]

namespace Tree

/-- A plain key is set as it stands. -/
theorem setKey_of_plain
    {key : String}
    (plain : IsPlain key)
    (value tree : Tree) :
    setKey key value tree = assign (Text.lowerCase key) value tree := by
  have isRoot := plain.rootOf_eq
  unfold rootOf at isRoot
  cases read : KeyPath.ofCharacters? (Text.lowerCase key).toList with
  | none =>
      simp only [setKey, read]
  | some path =>
      simp only [read] at isRoot
      simp only [setKey, read, plain path read, isRoot, place]

/-- Setting a key changes only the entry that it starts under. -/
theorem find?_setKey_of_ne
    {key other : String}
    (different : other ≠ rootOf key)
    (value tree : Tree) :
    (setKey key value tree).find? other = tree.find? other := by
  unfold rootOf at different
  cases read : KeyPath.ofCharacters? (Text.lowerCase key).toList with
  | none =>
      simp only [read] at different
      simp only [setKey, read, find?_assign_of_ne different]
  | some path =>
      obtain ⟨root, steps⟩ := path
      simp only [read] at different
      cases steps with
      | nil =>
          simp only [setKey, read, place, find?_assign_of_ne different]
      | cons step rest =>
          simp only [setKey, read, place, find?_setEntry, if_neg different]

end Tree

/-! ## Layers -/

/-- The keys that one source sets, and the name of this source in messages. -/
structure Layer where
  origin : Option String
  entries : List (String × Tree)

/-- The value that keys set under a name, written in any case. -/
def valueIn?
    (name : String)
    (entries : List (String × Tree)) : Option Tree :=
  ((entries.find? fun entry => Text.lowerCase entry.1 == name).map Prod.snd).filter
    Tree.isValue

/-- The last of the layers that has a value under a name, with this value. -/
def deciding?
    (name : String) :
    List Layer → Option (Layer × Tree)
  | [] =>
      none
  | layer :: later =>
      (deciding? name later).or
        ((valueIn? name layer.entries).map fun value => (layer, value))

/-- The keys set a name at most once, and as a whole. -/
structure SetsWhole
    (name : String)
    (entries : List (String × Tree)) : Prop where
  plain : ∀ entry ∈ entries, rootOf entry.1 = name → IsPlain entry.1
  once : (entries.filter fun entry => Text.lowerCase entry.1 == name).length ≤ 1

/-- A name that is a path of its own, without steps. -/
def IsName
    (name : String) : Prop :=
  KeyPath.ofCharacters? name.toList = some ⟨name, []⟩

theorem IsName.rootOf_eq
    {name key : String}
    (isName : IsName name)
    (lowered : Text.lowerCase key = name) :
    rootOf key = name := by
  rw [rootOf, lowered, isName]

theorem IsName.isPlain
    {name key : String}
    (isName : IsName name)
    (lowered : Text.lowerCase key = name) :
    IsPlain key := by
  intro path isPath
  rw [lowered, isName] at isPath
  cases isPath
  rfl

theorem valueIn?_cons_of_ne
    {name key : String}
    (different : Text.lowerCase key ≠ name)
    (value : Tree)
    (rest : List (String × Tree)) :
    valueIn? name ((key, value) :: rest) = valueIn? name rest := by
  simp [valueIn?, different]

theorem SetsWhole.tail
    {name : String}
    {entry : String × Tree}
    {rest : List (String × Tree)}
    (whole : SetsWhole name (entry :: rest)) :
    SetsWhole name rest where
  plain other member := whole.plain other (List.mem_cons_of_mem _ member)
  once := Nat.le_trans (by rw [List.filter_cons]; split <;> simp) whole.once

/-- No other key sets the name that a key has set. -/
theorem SetsWhole.valueIn?_tail
    {name : String}
    {entry : String × Tree}
    {rest : List (String × Tree)}
    (whole : SetsWhole name (entry :: rest))
    (same : Text.lowerCase entry.1 = name) :
    valueIn? name rest = none := by
  have once := whole.once
  rw [List.filter_cons_of_pos (by simpa using same), List.length_cons] at once
  have none :
      rest.filter (fun entry => Text.lowerCase entry.1 == name) = [] :=
    List.eq_nil_of_length_eq_zero (by omega)
  have absent :
      rest.find? (fun entry => Text.lowerCase entry.1 == name) = .none := by
    rw [List.find?_eq_none]
    exact List.filter_eq_nil_iff.mp none
  simp [valueIn?, absent]

/--
A merged source decides a name if it has a value for it, and else leaves it as it
was.
-/
theorem settled?_merge
    {name : String}
    (isName : IsName name)
    {entries : List (String × Tree)}
    (whole : SetsWhole name entries)
    (tree : Tree) :
    (Tree.merge entries tree).settled? name =
      ((valueIn? name entries).map Tree.outer).or (tree.settled? name) := by
  induction entries generalizing tree with
  | nil =>
      rfl
  | cons entry rest inductionHypothesis =>
      obtain ⟨key, value⟩ := entry
      have merged : Tree.merge ((key, value) :: rest) tree =
          Tree.merge rest (Tree.setKey key value tree) := rfl
      rw [merged, inductionHypothesis whole.tail]
      by_cases same : Text.lowerCase key = name
      · have plain := whole.plain _ List.mem_cons_self (isName.rootOf_eq same)
        rw [whole.valueIn?_tail same, Tree.setKey_of_plain plain, same,
          Tree.settled?_assign]
        simp [valueIn?, same]
      · rw [valueIn?_cons_of_ne same]
        by_cases inside : rootOf key = name
        · -- The key would be a path into the name, which only plain keys set.
          have plain := whole.plain _ List.mem_cons_self inside
          exact absurd (plain.rootOf_eq ▸ inside) same
        · rw [Tree.settled?, Tree.find?_setKey_of_ne (Ne.symm inside), Tree.settled?]

/-- The settings, each on its own. -/
inductive Field
  | strict
  | logLevel
  | logJson
deriving DecidableEq

namespace Field

/-- The name that a setting has in every layer. -/
def key : Field → String
  | strict => "strict"
  | logLevel => "log_level"
  | logJson => "log_json"

/-- What a setting is. -/
@[reducible] def Content : Field → Type
  | strict => Bool
  | logLevel => String
  | logJson => Bool

/-- A setting among all settings. -/
def of
    (settings : Settings) :
    (field : Field) → field.Content
  | strict => settings.strict
  | logLevel => settings.logLevel
  | logJson => settings.logJson

/-- What a tree is as a setting. -/
def convert :
    (field : Field) → Tree → Except Mismatch field.Content
  | strict => toBoolean strict.key
  | logLevel => toText logLevel.key
  | logJson => toBoolean logJson.key

/-- The settings that three parts make up, which are looked at in their order. -/
def assemble
    (parts : (field : Field) → Except Mismatch field.Content) :
    Except Mismatch Settings := do
  let strict ← parts .strict
  let logLevel ← parts .logLevel
  let logJson ← parts .logJson
  return ⟨strict, logLevel, logJson⟩

theorem isName_key
    (field : Field) :
    IsName field.key := by
  cases field <;> rfl

/-- Only the outermost form of a tree is converted. -/
theorem convert_outer
    (field : Field)
    (tree : Tree) :
    field.convert tree.outer = field.convert tree := by
  cases tree <;> cases field <;> rfl

theorem assemble_eq_ok_iff
    {parts : (field : Field) → Except Mismatch field.Content}
    {settings : Settings} :
    assemble parts = .ok settings ↔
        ∀ field, parts field = .ok (of settings field) := by
  constructor
  · intro assembled field
    unfold assemble at assembled
    cases isStrict : parts .strict with
    | error mismatch => simp [isStrict, bind, Except.bind] at assembled
    | ok strict =>
      cases isLevel : parts .logLevel with
      | error mismatch => simp [isStrict, isLevel, bind, Except.bind] at assembled
      | ok logLevel =>
        cases isJson : parts .logJson with
        | error mismatch =>
            simp [isStrict, isLevel, isJson, bind, Except.bind] at assembled
        | ok logJson =>
          simp [isStrict, isLevel, isJson, bind, Except.bind, pure,
            Except.pure] at assembled
          subst assembled
          cases field <;> assumption
  · intro parts
    simp [assemble, parts, of, bind, Except.bind, pure, Except.pure]

/-- The settings of a tree are made up of what is under their names. -/
theorem ofTree_eq_assemble
    (tree : Tree) :
    ofTree tree = assemble fun field =>
      match tree.find? field.key with
      | some value => field.convert value
      | none => .ok (of default field) :=
  rfl

/-- Where every setting is settled, the settings are made up of what is settled. -/
theorem ofTree_of_settled
    {tree : Tree}
    {decided : Field → Tree}
    (settled :
      ∀ field : Field, tree.settled? field.key = some (decided field).outer) :
    ofTree tree = assemble fun field => field.convert (decided field) := by
  rw [ofTree_eq_assemble]
  congr 1
  funext field
  obtain ⟨value, found, alike⟩ := Option.map_eq_some_iff.mp (settled field)
  obtain ⟨isFound, -⟩ := Option.filter_eq_some_iff.mp found
  rw [isFound, ← convert_outer field (decided field), ← alike, convert_outer]

end Field

theorem mapError_eq_ok_iff
    {made : Except Mismatch Settings}
    {settings : Settings} :
    made.mapError LoadError.wrongType = .ok settings ↔ made = .ok settings := by
  cases made <;> simp [Except.mapError]

/-! ## The origin of leaves -/

/-- Of keys that are distinct up to case, at most one sets a name. -/
theorem length_filter_le_one
    {entries : List (String × Tree)}
    (distinct : (entries.map fun entry => Text.lowerCase entry.1).Nodup)
    (name : String) :
    (entries.filter fun entry => Text.lowerCase entry.1 == name).length ≤ 1 := by
  have counted := List.nodup_iff_count_le_one.mp distinct name
  rwa [List.count_eq_countP, List.countP_map,
    List.countP_eq_length_filter] at counted

end Dispatch.Settings
