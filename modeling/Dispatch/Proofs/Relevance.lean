import Dispatch.Proofs.Layers
import Dispatch.Proofs.LetterCase

namespace Dispatch.Settings

/-!
# Input that counts

A setting is made up of the keys that are its name, in any case, or a path into
it.  No other key of a file and no other variable has any influence, and neither
has the case of ASCII letters.

Setting a key touches nothing but the entry of the tree that the key starts
under, and depends on nothing else in the tree.  So what is merged under the name
of a setting is merged from the keys that start under it alone.
-/

/-- Named values, with small letters for the ASCII letters in their names. -/
def withSmallLetters
    {α : Type}
    (entries : List (String × α)) : List (String × α) :=
  entries.map fun entry => (Text.lowerAscii entry.1, entry.2)

/--
Two lists of named values are the same to every setting: the values that set it,
or a part of it, are the same in both, in the same order, under names that are
equal but for the case of ASCII letters.
-/
def SameToAll
    {α : Type}
    (sets : Field → String → Bool)
    (entries others : List (String × α)) : Prop :=
  ∀ field,
    withSmallLetters (entries.filter fun entry => sets field entry.1) =
      withSmallLetters (others.filter fun entry => sets field entry.1)

/-! ## Changes that make no difference -/

namespace SameToAll

variable
  {α : Type}
  {sets : Field → String → Bool}
  {first second third : List (String × α)}

protected theorem refl
    (entries : List (String × α)) :
    SameToAll sets entries entries :=
  fun _ => rfl

protected theorem trans
    (same : SameToAll sets first second)
    (alsoSame : SameToAll sets second third) :
    SameToAll sets first third :=
  fun field => (same field).trans (alsoSame field)

/-- A value whose name sets nothing may be added anywhere. -/
theorem insert
    {name : String}
    (aside : ∀ field, sets field name = false)
    (value : α)
    (before after : List (String × α)) :
    SameToAll sets (before ++ after) (before ++ (name, value) :: after) := by
  intro field
  simp [aside field]

end SameToAll

/-! ## Keys -/

namespace Tree

theorem ofMembers_eq_map
    (origin : String)
    (members : List (String × Value)) :
    ofMembers origin members =
      members.map fun member => (member.1, ofValue origin member.2) := by
  induction members with
  | nil =>
      rfl
  | cons member rest inductionHypothesis =>
      rw [ofMembers, inductionHypothesis, List.map_cons]

end Tree

/-! ## Variables -/

/-- The file that a path selects, which messages show under a name, holds a table. -/
def Reads
    (files : FileTree)
    (path : Option String)
    (shown : String)
    (members : List (String × Value)) : Prop :=
  ∃ selected text,
    path.bind (select? files) = some selected ∧
      selected.path = shown ∧
      String.fromUTF8? selected.content = some text ∧
      selected.format.parse text = some (.object members)

theorem Reads.ofPath_eq
    {files : FileTree}
    {path : Option String}
    {shown : String}
    {members : List (String × Value)}
    (reads : Reads files path shown members) :
    ofPath files path = .ok (Tree.ofMembers shown members) := by
  obtain ⟨selected, text, isSelected, rfl, isText, isTable⟩ := reads
  simp only [ofPath, isSelected, ofSelected, isText, isTable, ofDocument]

/-- A tree with one file below the working directory. -/
def lone
    (content : ByteArray) : FileTree :=
  ⟨["srv"], [("conf/app.json", content)]⟩

/-- The file is selected by its path from the root. -/
theorem select?_lone
    (content : ByteArray) :
    select? (lone content) "/srv/conf/app.json" =
        some ⟨"conf/app.json", .json, content⟩ := by
  have parts :
      pathParts "/srv/conf/app.json" = ["", "srv", "conf", "app.json"] ∧
        properParts "conf/app.json" = ["conf", "app.json"] := by
    decide +kernel
  have rooted :
      isRooted "/srv/conf/app.json" = true ∧ isRooted "conf/app.json" = false := by
    decide +kernel
  have extension :
      (lastPart? "/srv/conf/app.json").bind extensionOf? = some "json" := by
    decide +kernel
  have format : Format.ofExtension? "json" = some .json := by
    decide +kernel
  have shown : (lone content).shownPath "/srv/conf/app.json" = "conf/app.json" := by
    change (⟨["srv"], []⟩ : FileTree).shownPath "/srv/conf/app.json" =
      "conf/app.json"
    decide +kernel
  have read : (lone content).read? "/srv/conf/app.json" = some content := by
    simp [FileTree.read?, FileTree.follow, FileTree.isDirectory, FileTree.contentAt?,
      FileTree.partsFromRoot, FileTree.start, lone, parts, rooted]
  simp only [select?, read, extension, Option.bind_some, format, shown]
  rfl

end Dispatch.Settings
