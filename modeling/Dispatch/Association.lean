namespace Dispatch

/-!
# Association lists

Finite maps from names to values as lists of pairs.  Setting a name keeps its
place if it has one, so the order of a list is the order in which its names
first appeared.
-/

/-- A list of named values. -/
abbrev Association (α : Type) := List (String × α)

namespace Association

variable {α : Type}

/-- The value at the first occurrence of a name. -/
def find?
    (name : String) :
    Association α → Option α
  | [] =>
      none
  | (key, value) :: rest =>
      if key = name then some value else find? name rest

/-- Gives a name a value, where it stands or else at the end. -/
def set
    (name : String)
    (value : α) :
    Association α → Association α
  | [] =>
      [(name, value)]
  | (key, current) :: rest =>
      if key = name then
        (name, value) :: rest
      else
        (key, current) :: set name value rest

/-- Removes every occurrence of a name. -/
def erase
    (name : String)
    (entries : Association α) : Association α :=
  entries.filter fun entry => decide (entry.1 ≠ name)

/-- The names in order. -/
def names
    (entries : Association α) : List String :=
  entries.map Prod.fst

@[simp] theorem find?_nil
    (name : String) :
    find? name ([] : Association α) = none :=
  rfl

theorem find?_cons
    (name key : String)
    (value : α)
    (rest : Association α) :
    find? name ((key, value) :: rest) =
      if key = name then some value else find? name rest :=
  rfl

/-- A name that has been set has the new value; other names keep theirs. -/
theorem find?_set
    (name other : String)
    (value : α)
    (entries : Association α) :
    find? other (set name value entries) =
      if other = name then some value else find? other entries := by
  induction entries with
  | nil =>
      simp only [set, find?_cons, find?_nil]
      grind
  | cons entry rest inductionHypothesis =>
      obtain ⟨key, current⟩ := entry
      rw [set, find?_cons]
      split <;> simp only [find?_cons, inductionHypothesis] <;> grind

/-- An erased name has no value; other names keep theirs. -/
theorem find?_erase
    (name other : String)
    (entries : Association α) :
    find? other (erase name entries) =
      if other = name then none else find? other entries := by
  induction entries with
  | nil =>
      simp [erase]
  | cons entry rest inductionHypothesis =>
      obtain ⟨key, current⟩ := entry
      rw [erase] at inductionHypothesis
      rw [erase, List.filter_cons, find?_cons]
      split <;> simp only [find?_cons, inductionHypothesis] <;> grind

/-- A name has a value exactly when it occurs. -/
theorem find?_isSome_iff
    {name : String}
    {entries : Association α} :
    (find? name entries).isSome = true ↔ name ∈ names entries := by
  induction entries with
  | nil =>
      simp [names]
  | cons entry rest inductionHypothesis =>
      obtain ⟨key, current⟩ := entry
      rw [find?_cons]
      simp only [names, List.map_cons, List.mem_cons] at inductionHypothesis ⊢
      split
      · rename_i isName
        simp [isName]
      · rename_i notName
        have notKey : name ≠ key := fun equal => notName equal.symm
        simp [inductionHypothesis, notKey]

/-- Setting a name adds it at the end unless it occurs already. -/
theorem names_set
    (name : String)
    (value : α)
    (entries : Association α) :
    names (set name value entries) =
      if name ∈ names entries then names entries else names entries ++ [name] := by
  induction entries with
  | nil =>
      simp [set, names]
  | cons entry rest inductionHypothesis =>
      obtain ⟨key, current⟩ := entry
      rw [set]
      split
      · rename_i isName
        simp [names, isName]
      · rename_i notName
        have notKey : name ≠ key := fun equal => notName equal.symm
        have tail := inductionHypothesis
        simp only [names] at tail
        simp only [names, List.map_cons, tail, List.mem_cons, notKey, false_or]
        by_cases occurs : name ∈ List.map Prod.fst rest <;> simp [occurs]

/-- Setting a name keeps the names distinct. -/
theorem names_set_nodup
    {entries : Association α}
    (distinct : (names entries).Nodup)
    (name : String)
    (value : α) :
    (names (set name value entries)).Nodup := by
  rw [names_set]
  split
  · exact distinct
  · rename_i fresh
    refine List.nodup_append.mpr ⟨distinct, by simp, ?_⟩
    intro key member other isOther equal
    rw [List.mem_singleton.mp isOther] at equal
    exact fresh (equal ▸ member)

/-- Erasing a name keeps the names distinct. -/
theorem names_erase_nodup
    {entries : Association α}
    (distinct : (names entries).Nodup)
    (name : String) :
    (names (erase name entries)).Nodup :=
  distinct.sublist (List.Sublist.map _ List.filter_sublist)

end Association

/--
A finite map from names to values.  Every name occurs once, so the number of
entries is the number of names that have a value.
-/
structure Table (α : Type) where
  entries : Association α
  distinct : (Association.names entries).Nodup

namespace Table

variable {α : Type}

/-- The table without entries. -/
def empty : Table α :=
  ⟨[], by simp [Association.names]⟩

/-- The value of a name. -/
def find?
    (table : Table α)
    (name : String) : Option α :=
  Association.find? name table.entries

/-- Gives a name a value, whether it had one or not. -/
def set
    (table : Table α)
    (name : String)
    (value : α) : Table α :=
  ⟨Association.set name value table.entries,
    Association.names_set_nodup table.distinct name value⟩

/-- Takes a name out of the table. -/
def erase
    (table : Table α)
    (name : String) : Table α :=
  ⟨Association.erase name table.entries,
    Association.names_erase_nodup table.distinct name⟩

/-- A name has a value. -/
def contains
    (table : Table α)
    (name : String) : Bool :=
  (table.find? name).isSome

/-- The number of names that have a value. -/
def size
    (table : Table α) : Nat :=
  table.entries.length

/-- No name has a value. -/
def isEmpty
    (table : Table α) : Bool :=
  table.entries.isEmpty

/-- The names that have a value, in the order they were first set. -/
def names
    (table : Table α) : List String :=
  Association.names table.entries

@[simp] theorem find?_empty
    (name : String) :
    (empty : Table α).find? name = none :=
  rfl

theorem find?_set
    (table : Table α)
    (name other : String)
    (value : α) :
    (table.set name value).find? other =
      if other = name then some value else table.find? other :=
  Association.find?_set name other value table.entries

theorem find?_erase
    (table : Table α)
    (name other : String) :
    (table.erase name).find? other =
      if other = name then none else table.find? other :=
  Association.find?_erase name other table.entries

theorem contains_iff_mem_names
    {table : Table α}
    {name : String} :
    table.contains name = true ↔ name ∈ table.names :=
  Association.find?_isSome_iff

/-- The size counts distinct names. -/
theorem size_eq_length_names
    (table : Table α) :
    table.size = table.names.length := by
  simp [size, names, Association.names]

end Table

end Dispatch
