import Dispatch.Proofs.Relevance
import Dispatch.Settings.Strict

namespace Dispatch

/-!
# Agreement of the two readers of settings

Settings are read strictly from a single value, or leniently from layers, one of
which may be a JSON file.  The lenient reader takes more for a boolean or a string
than the strict one, it takes keys in any case, and it takes some keys for paths.
Where no key of an object is affected by the latter two, the lenient reader agrees
with the strict one on all that the strict one accepts, whatever else the object
holds.
-/

/-! ## Names in JSON objects -/

namespace Json

variable {element : List Char → Option (Value × List Char)}

/--
Members that are read have distinct names: a later one takes the place of an earlier
one.
-/
theorem nodup_of_members
    {earlier found : List (String × Value)}
    (distinct : (Association.names earlier).Nodup)
    {limit : Nat}
    {characters rest : List Char}
    (isRead : members element earlier limit characters = some (found, rest)) :
    (Association.names found).Nodup := by
  induction limit generalizing earlier characters with
  | zero =>
      cases isRead
  | succ limit inductionHypothesis =>
      rw [members] at isRead
      obtain ⟨⟨⟨name, value⟩, afterFirst⟩, -, onward⟩ :=
        Option.bind_eq_some_iff.mp isRead
      have known := Association.names_set_nodup distinct name value
      dsimp only at onward
      split at onward
      · exact inductionHypothesis known onward
      · cases onward
        exact known
      · cases onward

/-- What is read as a number is no object. -/
theorem number_ne_object
    {characters rest : List Char}
    {members : List (String × Value)} :
    number characters ≠ some (.object members, rest) := by
  intro isRead
  obtain ⟨⟨token, _⟩, -, onward⟩ := Option.bind_eq_some_iff.mp isRead
  dsimp only at onward
  split at onward
  · cases onward
  · obtain ⟨_, -, same⟩ := Option.map_eq_some_iff.mp onward
    cases same

/-- What is read as a word stands for the value of the word. -/
theorem literal_ne_object
    {expected characters rest : List Char}
    {value : Value}
    {members : List (String × Value)}
    (different : value ≠ .object members) :
    literal expected value characters ≠ some (.object members, rest) := by
  intro isRead
  unfold literal at isRead
  split at isRead
  · exact different (Prod.mk.inj (Option.some.inj isRead)).1
  · cases isRead

/-- An object that is read has distinct names. -/
theorem nodup_of_value
    {depth : Nat}
    {characters rest : List Char}
    {found : List (String × Value)}
    (isRead : value depth characters = some (.object found, rest)) :
    (Association.names found).Nodup := by
  unfold value at isRead
  split at isRead
  · obtain ⟨_, -, same⟩ := Option.map_eq_some_iff.mp isRead
    cases same
  · -- A bracket opens an array.
    split at isRead
    · cases isRead
    · split at isRead
      · cases isRead
      · obtain ⟨_, -, same⟩ := Option.map_eq_some_iff.mp isRead
        cases same
  · split at isRead
    · cases isRead
    · split at isRead
      · cases isRead
        exact List.nodup_nil
      · obtain ⟨⟨_, _⟩, areRead, same⟩ := Option.map_eq_some_iff.mp isRead
        cases same
        have noNames : (Association.names ([] : Association Value)).Nodup :=
          List.nodup_nil
        exact nodup_of_members noNames areRead
  iterate 3
    · exact absurd isRead (literal_ne_object (by simp))
  · exact absurd isRead number_ne_object

/-- So does one that is a whole document. -/
theorem nodup_of_parse
    {text : String}
    {found : List (String × Value)}
    (parsed : parse text = some (.object found)) :
    (Association.names found).Nodup := by
  obtain ⟨⟨_, _⟩, isRead, onward⟩ := Option.bind_eq_some_iff.mp parsed
  dsimp only at onward
  split at onward
  · cases onward
    exact nodup_of_value isRead
  · cases onward

end Json

namespace Settings

/-! ## Keys -/

/-- A key that leads from the name of a setting, by dots, to something below it. -/
def IsDottedPath
    (field : Field)
    (key : String) : Prop :=
  ∃ names : List (List Char),
    names ≠ [] ∧
      (∀ name ∈ names, name ≠ [] ∧
        ∀ character ∈ name, isNameCharacter character = true) ∧
      key.toList = field.key.toList ++ names.flatMap ('.' :: ·)

/-- A key in lower case, without brackets, that leads into no setting. -/
structure IsTame (key : String) : Prop where
  lowered : Text.lowerCase key = key
  unbracketed : '[' ∉ key.toList
  undotted : ∀ field, ¬IsDottedPath field key

/-- Such a key starts with the name of the setting and a dot. -/
theorem IsDottedPath.starts
    {field : Field}
    {key : String}
    (dotted : IsDottedPath field key) :
    field.key.toList ++ ['.'] <+: key.toList := by
  obtain ⟨names, notEmpty, -, shape⟩ := dotted
  obtain ⟨name, rest, rfl⟩ := List.exists_cons_of_ne_nil notEmpty
  rw [shape, List.flatMap_cons, List.prefix_append_right_inj]
  exact ⟨name ++ rest.flatMap ('.' :: ·), rfl⟩

/-- Without brackets, the steps of a path are names after dots. -/
theorem KeyPath.names_of_readSteps
    {limit : Nat}
    {characters : List Char}
    (unbracketed : '[' ∉ characters)
    (isRead : (readSteps limit characters).isSome = true) :
    ∃ names : List (List Char),
      (∀ name ∈ names, name ≠ [] ∧
        ∀ character ∈ name, isNameCharacter character = true) ∧
        characters = names.flatMap ('.' :: ·) := by
  fun_induction readSteps limit characters with
  | case1 =>
      exact ⟨[], by simp, rfl⟩
  | case4 limit rest name isName inductionHypothesis =>
      rw [Option.isSome_map] at isRead
      have unbracketedLater : '[' ∉ rest.dropWhile isNameCharacter := fun member =>
        unbracketed (List.mem_cons_of_mem _
          ((List.dropWhile_sublist _).subset member))
      obtain ⟨names, areNames, shape⟩ := inductionHypothesis unbracketedLater isRead
      refine ⟨name :: names, ?_, ?_⟩
      · rw [List.forall_mem_cons]
        refine ⟨⟨by simpa using isName, fun character member => ?_⟩, areNames⟩
        exact List.mem_takeWhile_imp member
      · rw [List.flatMap_cons, ← shape, List.cons_append,
          List.takeWhile_append_dropWhile]
  | case5 =>
      exact absurd List.mem_cons_self unbracketed
  | _ =>
      cases isRead

/-- A tame key that starts under the name of a setting is this name. -/
theorem IsTame.eq_key
    {key : String}
    (tame : IsTame key)
    {field : Field}
    (starts : rootOf key = field.key) :
    key = field.key := by
  unfold rootOf at starts
  rw [tame.lowered] at starts
  cases read : KeyPath.ofCharacters? key.toList with
  | none =>
      rwa [read] at starts
  | some path =>
      simp only [read] at starts
      simp only [KeyPath.ofCharacters?] at read
      split at read
      · cases read
      · obtain ⟨steps, isRead, rfl⟩ := Option.map_eq_some_iff.mp read
        have all :=
          List.takeWhile_append_dropWhile (p := isNameCharacter) (l := key.toList)
        have root : key.toList.takeWhile isNameCharacter = field.key.toList := by
          rw [← starts, String.toList_ofList]
        have unbracketed : '[' ∉ key.toList.dropWhile isNameCharacter :=
          fun member =>
          tame.unbracketed ((List.dropWhile_sublist _).subset member)
        obtain ⟨names, areNames, shape⟩ :=
          KeyPath.names_of_readSteps unbracketed (by rw [isRead]; rfl)
        rw [root, shape] at all
        by_cases none : names = []
        · rw [none, List.flatMap_nil, List.append_nil] at all
          exact String.toList_inj.mp all.symm
        · exact absurd ⟨names, none, areNames, all.symm⟩ (tame.undotted field)

/-! ## Objects with such keys -/

section

variable {members : List (String × Value)}

theorem map_fst_ofMembers
    (origin : String)
    (members : List (String × Value)) :
    (Tree.ofMembers origin members).map Prod.fst = Association.names members := by
  rw [Tree.ofMembers_eq_map, List.map_map]
  rfl

/-- Tame keys set each setting at most once, and as a whole. -/
theorem setsWhole_ofMembers
    (tame : ∀ name ∈ Association.names members, IsTame name)
    (distinct : (Association.names members).Nodup)
    (field : Field)
    (origin : String) :
    SetsWhole field.key (Tree.ofMembers origin members) := by
  have isTame {entry : String × Tree}
    (member : entry ∈ Tree.ofMembers origin members) :
      IsTame entry.1 := by
    refine tame entry.1 ?_
    rw [← map_fst_ofMembers origin]
    exact List.mem_map_of_mem member
  refine ⟨fun entry member starts => ?_, ?_⟩
  · refine field.isName_key.isPlain ?_
    rw [(isTame member).lowered, (isTame member).eq_key starts]
  · refine length_filter_le_one ?_ field.key
    rw [← map_fst_ofMembers origin] at distinct
    have lowered :
        (Tree.ofMembers origin members).map (fun entry => Text.lowerCase entry.1) =
          (Tree.ofMembers origin members).map Prod.fst :=
      List.map_congr_left fun entry member => (isTame member).lowered
    rwa [lowered]

/-- What keys in lower case set is found under them. -/
theorem valueIn?_ofMembers
    (lowered : ∀ name ∈ Association.names members, Text.lowerCase name = name)
    (name origin : String) :
    valueIn? name (Tree.ofMembers origin members) =
      ((Association.find? name members).map (Tree.ofValue origin)).filter
          Tree.isValue := by
  induction members with
  | nil =>
      rfl
  | cons member rest inductionHypothesis =>
      obtain ⟨key, value⟩ := member
      obtain ⟨keyLowered, restLowered⟩ := List.forall_mem_cons.mp lowered
      rw [Tree.ofMembers, Association.find?_cons]
      dsimp only at keyLowered
      split
      · rename_i same
        subst same
        simp [valueIn?, keyLowered]
      · rename_i different
        rw [valueIn?_cons_of_ne (by rwa [keyLowered]),
          inductionHypothesis restLowered]

end

/-! ## One setting -/

namespace Field

variable {field : Field}

/-- A setting as the strict reader takes it from the member that bears its name. -/
def strictly :
    (field : Field) → Option Value → Except StrictError field.Content
  | strict => strictBoolean default.strict
  | logLevel => strictString default.logLevel
  | logJson => strictBoolean default.logJson

/-- A sequence succeeds only if both of its parts do. -/
theorem exists_of_bind_eq_ok
    {ε α β : Type}
    {first : Except ε α}
    {next : α → Except ε β}
    {made : β}
    (succeeded : first >>= next = .ok made) :
    ∃ value, first = .ok value ∧ next value = .ok made := by
  cases first with
  | error error => cases succeeded
  | ok value => exact ⟨value, rfl, succeeded⟩

/-- The strict reader takes each setting by itself. -/
theorem strictly_of_ofValue
    {members : List (String × Value)}
    {settings : Settings}
    (accepted : ofValue (.object members) = .ok settings)
    (field : Field) :
    field.strictly (Association.find? field.key members) =
        .ok (field.of settings) := by
  obtain ⟨logJson, isLogJson, onward⟩ := exists_of_bind_eq_ok accepted
  obtain ⟨logLevel, isLogLevel, onward⟩ := exists_of_bind_eq_ok onward
  obtain ⟨strict, isStrict, made⟩ := exists_of_bind_eq_ok onward
  cases made
  cases field <;> assumption

/-- What is absent has its default. -/
theorem of_default_of_strictly
    {content : field.Content}
    (accepted : field.strictly none = .ok content) :
    content = field.of default := by
  cases field <;> cases accepted <;> rfl

/-- What the strict reader accepts, the lenient one converts to the same. -/
theorem convert_of_strictly
    {value : Value}
    {content : field.Content}
    (accepted : field.strictly (some value) = .ok content)
    (origin : String) :
    (Tree.ofValue origin value).isValue = true ∧
      field.convert (Tree.ofValue origin value) = .ok content := by
  cases field <;> cases value <;> cases accepted <;> exact ⟨rfl, rfl⟩

end Field

/-! ## The whole -/

/-- A source without keys changes nothing. -/
theorem Tree.merge_nil
    (tree : Tree) :
    merge [] tree = tree :=
  rfl

/--
With nothing layered above them, tame keys settle what they set, and defaults the
rest.
-/
theorem settled?_tame
    {members : List (String × Value)}
    (tame : ∀ name ∈ Association.names members, IsTame name)
    (distinct : (Association.names members).Nodup)
    (field : Field)
    (origin : String) :
    (layered (Tree.ofMembers origin members) []).settled? field.key =
      ((((Association.find? field.key members).map (Tree.ofValue origin)).filter
          Tree.isValue).map Tree.outer).or
        ((Tree.merge (toTree default) (.table [])).settled? field.key) := by
  have lowered : ∀ name ∈ Association.names members, Text.lowerCase name = name :=
    fun name member => (tame name member).lowered
  rw [layered, Tree.merge_nil,
    settled?_merge field.isName_key (setsWhole_ofMembers tame distinct field origin),
    valueIn?_ofMembers lowered]

/--
The lenient reader agrees with the strict one.  Take a JSON file that holds an
object, whose keys are in lower case, have no brackets and lead into no setting by
dots.  If the strict reader accepts this object, then loading the file without
variables succeeds with the same settings, whatever else there is in the object.
-/
theorem readers_agree
    {files : FileTree}
    {path text : String}
    {selected : Selected}
    {members : List (String × Value)}
    {settings : Settings}
    (chosen : select? files path = some selected)
    (isJson : selected.format = .json)
    (isText : String.fromUTF8? selected.content = some text)
    (parsed : Json.parse text = some (.object members))
    (tame : ∀ name ∈ Association.names members, IsTame name)
    (accepted : ofValue (.object members) = .ok settings)
    (process : Variables) :
    load files (some path) (some []) process = .ok settings := by
  have read : ofPath files (some path) =
      .ok (Tree.ofMembers selected.path members) :=
    Reads.ofPath_eq
      ⟨selected, text, chosen, rfl, isText, by rw [isJson]; exact parsed⟩
  have distinct := Json.nodup_of_parse parsed
  -- What decides a setting, and that it is converted to what the strict reader
  -- gives.
  have decided (field : Field) :
      ∃ tree : Tree,
        (layered (Tree.ofMembers selected.path members) []).settled? field.key =
            some tree.outer ∧
          field.convert tree = .ok (field.of settings) := by
    have isStrictly := Field.strictly_of_ofValue accepted field
    rw [settled?_tame tame distinct]
    cases found : Association.find? field.key members with
    | none =>
        rw [found] at isStrictly
        rw [Field.of_default_of_strictly isStrictly]
        cases field <;> exact ⟨_, rfl, rfl⟩
    | some value =>
        rw [found] at isStrictly
        obtain ⟨isValue, isConverted⟩ :=
          Field.convert_of_strictly isStrictly selected.path
        refine ⟨_, ?_, isConverted⟩
        simp [Option.filter_some, isValue]
  choose tree isSettled isConverted using decided
  have made :
      ofTree (layered (Tree.ofMembers selected.path members) []) = .ok settings := by
    rw [Field.ofTree_of_settled isSettled, Field.assemble_eq_ok_iff]
    exact isConverted
  simp only [load, loadFrom, read]
  exact mapError_eq_ok_iff.mpr made

/--
A file that sets one thing, among other keys with a path, a null, and a table with
capitals.
-/
def crowdedText : String :=
  "\x7b\"strict\":false,\"a.b\":1.5,\"stricter.\":null,\"notes\":\x7b\"STRICT\":[null]\x7d\x7d"

/-- What the file holds. -/
def crowdedMembers : List (String × Value) :=
  [("strict", .boolean false),
    ("a.b", .float (Decimal.Binary64.ofDecimal false 15 (-1))),
    ("stricter.", .null), ("notes", .object [("STRICT", .array [.null])])]

/--
Keys are tame if they are in lower case and start neither a path into a setting nor
an index.
-/
theorem isTame_crowded :
    ∀ name ∈ Association.names crowdedMembers, IsTame name := by
  have isTame {name : String}
      (lowered : Text.lowerCase name = name)
      (unbracketed : '[' ∉ name.toList)
      (aside : ∀ field : Field, ¬field.key.toList ++ ['.'] <+: name.toList) :
      IsTame name :=
    ⟨lowered, unbracketed, fun field dotted => aside field dotted.starts⟩
  intro name member
  simp only [crowdedMembers, Association.names, List.map_cons, List.map_nil,
    List.mem_cons, List.not_mem_nil, or_false] at member
  rcases member with rfl | rfl | rfl | rfl <;>
    refine isTame (by decide +kernel) (by decide +kernel) fun field => ?_ <;>
    cases field <;> decide +kernel

/--
The strict reader accepts the object, and the file is loaded as the same settings.
-/
theorem crowded_agree :
    select? (lone crowdedText.toUTF8) "/srv/conf/app.json" =
        some ⟨"conf/app.json", .json, crowdedText.toUTF8⟩ ∧
      String.fromUTF8? crowdedText.toUTF8 = some crowdedText ∧
      Json.parse crowdedText = some (.object crowdedMembers) ∧
      (∀ name ∈ Association.names crowdedMembers, IsTame name) ∧
      ofValue (.object crowdedMembers) = .ok ⟨false, "info", false⟩ ∧
      load (lone crowdedText.toUTF8) (some "/srv/conf/app.json") (some [])
          [("SCHEME_REGISTRY_STRICT", "true")] =
        .ok ⟨false, "info", false⟩ := by
  have decoded : String.fromUTF8? crowdedText.toUTF8 = some crowdedText := by
    decide +kernel
  have parsed : Json.parse crowdedText = some (.object crowdedMembers) := rfl
  have accepted : ofValue (.object crowdedMembers) = .ok ⟨false, "info", false⟩ :=
    rfl
  exact ⟨select?_lone _, decoded, parsed, isTame_crowded, accepted,
    readers_agree (select?_lone _) rfl decoded parsed isTame_crowded accepted _⟩

end Settings

end Dispatch
