import Dispatch.Proofs.ReaderAgreement

namespace Dispatch

/-!
# What the strict reader accepts

Settings have two shapes as a single value: an object, whose members bear the
names of settings, and an array, whose elements stand for them by position.  The
strict reader accepts just these, and looks at nothing but what is supplied for
each setting.  So both shapes are read alike, unless several settings are wrong: of
an array the first wrong element is reported, and of an object the wrong member whose
name comes first.
-/

namespace Association

variable {α : Type}

/-- Where names are distinct, a name has the value that it stands with. -/
theorem find?_eq_some_iff
    {entries : Association α}
    (distinct : (names entries).Nodup)
    {name : String}
    {value : α} :
    find? name entries = some value ↔ (name, value) ∈ entries := by
  induction entries with
  | nil =>
      simp
  | cons entry rest inductionHypothesis =>
      obtain ⟨key, current⟩ := entry
      obtain ⟨fresh, restDistinct⟩ := List.nodup_cons.mp distinct
      rw [find?_cons, List.mem_cons, Prod.mk.injEq]
      split
      · rename_i same
        subst same
        have absent : (key, value) ∉ rest := fun member =>
          fresh (List.mem_map.mpr ⟨(key, value), member, rfl⟩)
        simp [absent, eq_comm]
      · rename_i different
        simp [inductionHypothesis restDistinct, Ne.symm different]

/-- The order of distinct names plays no part in finding one. -/
theorem find?_of_perm
    {entries others : Association α}
    (same : entries.Perm others)
    (distinct : (names entries).Nodup)
    (name : String) :
    find? name entries = find? name others := by
  have otherDistinct : (names others).Nodup :=
    (same.map Prod.fst).nodup_iff.mp distinct
  refine Option.ext fun value => ?_
  rw [find?_eq_some_iff distinct, find?_eq_some_iff otherDistinct]
  exact same.mem_iff

/-- Entries under other names do not stand in the way of a name. -/
theorem find?_append_of_not_mem
    {name : String}
    {others : Association α}
    (aside : name ∉ names others)
    (entries : Association α) :
    find? name (entries ++ others) = find? name entries := by
  induction entries with
  | nil =>
      rw [List.nil_append, find?_nil, ← Option.not_isSome_iff_eq_none,
        find?_isSome_iff]
      exact aside
  | cons entry rest inductionHypothesis =>
      rw [List.cons_append, find?_cons, find?_cons, inductionHypothesis]

end Association

namespace Settings

namespace Field

/-- The settings in the order of an array. -/
def all : List Field :=
  [strict, logLevel, logJson]

/-- The settings in the order of their names. -/
def byName : List Field :=
  [logJson, logLevel, strict]

/-- The place of a setting in an array. -/
def position : Field → Nat
  | strict => 0
  | logLevel => 1
  | logJson => 2

/-- What stands for a setting, as messages put it. -/
def expected : Field → Expected
  | strict => .boolean
  | logLevel => .string
  | logJson => .boolean

/-- A value of the type of a setting, with what the setting is then. -/
inductive Holds : (field : Field) → Value → field.Content → Prop
  | strict
      (content : Bool) :
      Holds strict (.boolean content) content
  | logLevel
      (content : String) :
      Holds logLevel (.string content) content
  | logJson
      (content : Bool) :
      Holds logJson (.boolean content) content

/-- A value of the type of a setting. -/
def Fits
    (field : Field)
    (value : Value) : Prop :=
  ∃ content, field.Holds value content

/-- What is supplied for a setting is of another type. -/
def IsWrong
    (parts : Field → Option Value)
    (field : Field) : Prop :=
  ∃ part, parts field = some part ∧ ¬field.Fits part

theorem mem_all
    (field : Field) :
    field ∈ all := by
  cases field <;> decide

theorem mem_byName
    (field : Field) :
    field ∈ byName := by
  cases field <;> decide

theorem sorted_all :
    all.Pairwise fun first second => first.position < second.position := by
  decide

theorem sorted_byName :
    byName.Pairwise fun first second => first.key < second.key := by
  decide

variable
  {field : Field}
  {part : Value}

/-- What fits is read as what it holds. -/
theorem strictly_eq_ok_iff
    {content : field.Content} :
    field.strictly (some part) = .ok content ↔ field.Holds part content := by
  constructor
  · intro accepted
    cases field <;> cases part <;> cases accepted <;> constructor
  · intro holds
    cases holds <;> rfl

/-- What does not fit is refused, with what was expected. -/
theorem strictly_of_not_fits
    (wrong : ¬field.Fits part) :
    field.strictly (some part) =
      .error (.wrongType (Found.ofValue part) field.expected) := by
  cases field with
  | strict =>
      cases part with
      | boolean content => exact absurd ⟨content, .strict content⟩ wrong
      | _ => rfl
  | logLevel =>
      cases part with
      | string content => exact absurd ⟨content, .logLevel content⟩ wrong
      | _ => rfl
  | logJson =>
      cases part with
      | boolean content => exact absurd ⟨content, .logJson content⟩ wrong
      | _ => rfl

/-- What is absent is the default. -/
theorem strictly_none
    (field : Field) :
    field.strictly none = .ok (field.of default) := by
  cases field <;> rfl

/-- A null is of no setting's type. -/
theorem not_fits_null
    (field : Field) :
    ¬field.Fits .null := by
  rintro ⟨content, holds⟩
  cases holds

/-- A setting that is not wrong is read. -/
theorem exists_strictly_of_not_isWrong
    {parts : Field → Option Value}
    (right : ¬field.IsWrong parts) :
    ∃ content, field.strictly (parts field) = .ok content := by
  cases supplied : parts field with
  | none =>
      exact ⟨_, field.strictly_none⟩
  | some part =>
      obtain ⟨content, holds⟩ : field.Fits part := by
        by_contra wrong
        exact right ⟨part, supplied, wrong⟩
      exact ⟨content, strictly_eq_ok_iff.mpr holds⟩

end Field

/-! ## Parts -/

/-- What a setting is with its part, or else by default. -/
def Field.held
    (parts : Field → Option Value)
    (field : Field) : field.Content :=
  (field.strictly (parts field)).toOption.getD (field.of default)

/-- Checks what is supplied for settings, one after the other. -/
def check
    (parts : Field → Option Value) : List Field → Except StrictError Unit
  | [] =>
      .ok ()
  | field :: later => do
      let _ ← field.strictly (parts field)
      check parts later

/--
The settings with the parts that are supplied for them, which are checked in an
order.
-/
def ofSupplied
    (order : List Field)
    (parts : Field → Option Value) : Except StrictError Settings := do
  check parts order
  return ⟨Field.held parts .strict, Field.held parts .logLevel,
    Field.held parts .logJson⟩

section

variable
  {order : List Field}
  {parts : Field → Option Value}
  {settings : Settings}
  {field : Field}

/-- What is checked is found right if none of it is wrong. -/
theorem check_eq_ok_iff :
    check parts order = .ok () ↔ ∀ field ∈ order, ¬field.IsWrong parts := by
  induction order with
  | nil =>
      simp [check]
  | cons first later inductionHypothesis =>
      rw [List.forall_mem_cons, ← inductionHypothesis]
      constructor
      · intro accepted
        obtain ⟨content, isContent, onward⟩ := Field.exists_of_bind_eq_ok accepted
        refine ⟨?_, onward⟩
        rintro ⟨part, supplied, wrong⟩
        rw [supplied] at isContent
        exact wrong ⟨content, Field.strictly_eq_ok_iff.mp isContent⟩
      · rintro ⟨right, onward⟩
        obtain ⟨content, isContent⟩ := Field.exists_strictly_of_not_isWrong right
        rw [check, isContent]
        exact onward

/-- Of what is checked, the first that is wrong is reported. -/
theorem check_of_first
    {before : Field → Field → Prop}
    (sorted : order.Pairwise before)
    (checked : field ∈ order)
    {part : Value}
    (supplied : parts field = some part)
    (wrong : ¬field.Fits part)
    (first : ∀ other : Field, before other field → ¬other.IsWrong parts) :
    check parts order = .error (.wrongType (Found.ofValue part) field.expected) := by
  induction order with
  | nil =>
      cases checked
  | cons head later inductionHypothesis =>
      obtain ⟨headBefore, laterSorted⟩ := List.pairwise_cons.mp sorted
      rcases List.mem_cons.mp checked with rfl | isLater
      · rw [check, supplied, Field.strictly_of_not_fits wrong]
        rfl
      · obtain ⟨content, isContent⟩ :=
          Field.exists_strictly_of_not_isWrong
            (first head (headBefore field isLater))
        rw [check, isContent]
        exact inductionHypothesis laterSorted isLater

/-- If every setting is checked, each is read by itself. -/
theorem ofSupplied_eq_ok_iff
    (complete : ∀ field, field ∈ order) :
    ofSupplied order parts = .ok settings ↔
      ∀ field : Field, field.strictly (parts field) = .ok (field.of settings) := by
  constructor
  · intro accepted field
    obtain ⟨⟨⟩, isRight, made⟩ := Field.exists_of_bind_eq_ok accepted
    obtain ⟨content, isContent⟩ :=
      Field.exists_strictly_of_not_isWrong
        (check_eq_ok_iff.mp isRight field (complete field))
    have held : field.held parts = content := by
      rw [Field.held, isContent]
      rfl
    cases made
    rw [isContent, ← held]
    cases field <;> rfl
  · intro read
    have isRight : check parts order = .ok () := by
      rw [check_eq_ok_iff]
      rintro field - ⟨part, supplied, wrong⟩
      have isContent := read field
      rw [supplied] at isContent
      exact wrong ⟨_, Field.strictly_eq_ok_iff.mp isContent⟩
    have held (field : Field) : field.held parts = field.of settings := by
      rw [Field.held, read]
      rfl
    rw [ofSupplied, isRight, held, held, held]
    rfl

/--
Each setting is the default if nothing is supplied for it, and else what its part
holds.
-/
theorem ofSupplied_eq_ok_iff_holds
    (complete : ∀ field, field ∈ order) :
    ofSupplied order parts = .ok settings ↔
      ∀ field : Field,
        parts field = none ∧ field.of settings = field.of default ∨
          ∃ part,
              parts field = some part ∧ field.Holds part (field.of settings) := by
  rw [ofSupplied_eq_ok_iff complete]
  refine forall_congr' fun field => ?_
  cases parts field with
  | none => simp [field.strictly_none, eq_comm]
  | some part => simp [Field.strictly_eq_ok_iff]

/-- Settings are read unless one of them is wrong. -/
theorem exists_ofSupplied_iff
    (complete : ∀ field, field ∈ order) :
    (∃ settings, ofSupplied order parts = .ok settings) ↔
      ∀ field : Field, ¬field.IsWrong parts := by
  constructor
  · rintro ⟨settings, accepted⟩ field
    obtain ⟨⟨⟩, isRight, -⟩ := Field.exists_of_bind_eq_ok accepted
    exact check_eq_ok_iff.mp isRight field (complete field)
  · intro right
    rw [ofSupplied, check_eq_ok_iff.mpr fun field _ => right field]
    exact ⟨_, rfl⟩

/-- The first setting that is wrong is reported. -/
theorem ofSupplied_of_first
    {before : Field → Field → Prop}
    (sorted : order.Pairwise before)
    (complete : ∀ field, field ∈ order)
    {part : Value}
    (supplied : parts field = some part)
    (wrong : ¬field.Fits part)
    (first : ∀ other : Field, before other field → ¬other.IsWrong parts) :
    ofSupplied order parts =
        .error (.wrongType (Found.ofValue part) field.expected) := by
  rw [ofSupplied, check_of_first sorted (complete field) supplied wrong first]
  rfl

end

/-! ## Shapes -/

/-- What the elements of an array supply. -/
def elementFor
    (elements : List Value)
    (field : Field) : Option Value :=
  elements[field.position]?

/-- What the members of an object supply. -/
def memberFor
    (members : List (String × Value))
    (field : Field) : Option Value :=
  Association.find? field.key members

/-- A value of one of the two shapes, with what it supplies for each setting. -/
inductive Supplies : Value → (Field → Option Value) → Prop
  | object
      (members : List (String × Value)) :
      Supplies (.object members) (memberFor members)
  | array
      {elements : List Value}
      (few : elements.length ≤ 3) :
      Supplies (.array elements) (elementFor elements)

/-- The elements of an array are checked by position. -/
theorem ofElements_eq
    (elements : List Value) :
    ofElements elements = ofSupplied Field.all (elementFor elements) := by
  simp only [ofElements, ofSupplied, Field.all, check, Field.held, Field.strictly,
    elementFor, Field.position]
  cases strictBoolean default.strict elements[0]? <;>
    cases strictString default.logLevel elements[1]? <;>
    cases strictBoolean default.logJson elements[2]? <;>
    rfl

/-- The members of an object are checked by name. -/
theorem ofMembers_eq
    (members : List (String × Value)) :
    ofMembers members = ofSupplied Field.byName (memberFor members) := by
  simp only [ofMembers, ofSupplied, Field.byName, check, Field.held, Field.strictly,
    memberFor, Field.key]
  cases strictBoolean default.logJson (Association.find? "log_json" members) <;>
    cases strictString default.logLevel (Association.find? "log_level" members) <;>
    cases strictBoolean default.strict (Association.find? "strict" members) <;>
    rfl

/-- An array is read by its elements, and refused if there are more than three. -/
theorem ofValue_array
    (elements : List Value) :
    ofValue (.array elements) =
      (ofSupplied Field.all (elementFor elements) >>= fun settings =>
        if 3 < elements.length then .error (.wrongLength elements.length)
        else .ok settings) := by
  rw [← ofElements_eq]
  rfl

theorem ofValue_object
    (members : List (String × Value)) :
    ofValue (.object members) = ofSupplied Field.byName (memberFor members) :=
  ofMembers_eq members

/--
Nothing but what it supplies counts of a value, and the order that this is checked
in.
-/
theorem Supplies.exists_order
    {value : Value}
    {parts : Field → Option Value}
    (supplies : Supplies value parts) :
    ∃ order,
      (∀ field, field ∈ order) ∧
        order.Nodup ∧
        ofValue value = ofSupplied order parts := by
  cases supplies with
  | object members =>
      exact ⟨_, Field.mem_byName, by decide, ofValue_object members⟩
  | @array elements few =>
      refine ⟨_, Field.mem_all, by decide, ?_⟩
      rw [ofValue_array]
      simp only [if_neg (Nat.not_lt.mpr few)]
      exact bind_pure _

/--
Of an array, whatever is wrong with its elements is reported before its length.
-/
theorem ofValue_of_wrong
    {elements : List Value}
    {error : StrictError}
    (refused : ofSupplied Field.all (elementFor elements) = .error error) :
    ofValue (.array elements) = .error error := by
  rw [ofValue_array, refused]
  rfl

/-- Only values of the two shapes are accepted. -/
theorem exists_supplies_of_ofValue
    {value : Value}
    {settings : Settings}
    (accepted : ofValue value = .ok settings) :
    ∃ parts, Supplies value parts := by
  cases value with
  | object members =>
      exact ⟨_, .object members⟩
  | array elements =>
      refine ⟨_, .array (Nat.le_of_not_lt fun long => ?_)⟩
      rw [ofValue_array] at accepted
      obtain ⟨_, -, refused⟩ := Field.exists_of_bind_eq_ok accepted
      rw [if_pos long] at refused
      cases refused
  | _ =>
      cases accepted

/-- A value is accepted for what it supplies. -/
theorem ofValue_eq_ok_iff
    {value : Value}
    {settings : Settings} :
    ofValue value = .ok settings ↔
      ∃ parts,
        Supplies value parts ∧
          ∀ field : Field,
            parts field = none ∧ field.of settings = field.of default ∨
              ∃ part,
                  parts field = some part ∧
                    field.Holds part (field.of settings) := by
  constructor
  · intro accepted
    obtain ⟨parts, supplies⟩ := exists_supplies_of_ofValue accepted
    obtain ⟨order, complete, -, read⟩ := supplies.exists_order
    rw [read] at accepted
    exact ⟨parts, supplies, (ofSupplied_eq_ok_iff_holds complete).mp accepted⟩
  · rintro ⟨parts, supplies, holds⟩
    obtain ⟨order, complete, -, read⟩ := supplies.exists_order
    rw [read]
    exact (ofSupplied_eq_ok_iff_holds complete).mpr holds

/-- A value of one of the two shapes is accepted unless a part is wrong. -/
theorem Supplies.exists_ofValue_iff
    {value : Value}
    {parts : Field → Option Value}
    (supplies : Supplies value parts) :
    (∃ settings, ofValue value = .ok settings) ↔
      ∀ field : Field, ¬field.IsWrong parts := by
  obtain ⟨order, complete, -, read⟩ := supplies.exists_order
  rw [read]
  exact exists_ofSupplied_iff complete

/--
An object with the elements of an array under the names of settings supplies the
same.
-/
theorem memberFor_of_perm
    {elements : List Value}
    {members others : List (String × Value)}
    (few : elements.length ≤ 3)
    (same : members.Perm ((Field.all.map Field.key).zip elements ++ others))
    (distinct : (Association.names members).Nodup)
    (unknown : ∀ field : Field, field.key ∉ Association.names others) :
    memberFor members = elementFor elements := by
  funext field
  rw [memberFor, Association.find?_of_perm same distinct,
    Association.find?_append_of_not_mem (unknown field)]
  match elements, few with
  | [], _ => cases field <;> rfl
  | [_], _ => cases field <;> rfl
  | [_, _], _ => cases field <;> rfl
  | [_, _, _], _ => cases field <;> rfl

/-- At most one setting is wrong. -/
def AtMostOneWrong
    (parts : Field → Option Value) : Prop :=
  ∀ first second : Field, first.IsWrong parts → second.IsWrong parts → first = second

/-- If only one part is wrong, it is reported, whatever the shape. -/
theorem Supplies.ofValue_of_only
    {value : Value}
    {parts : Field → Option Value}
    (supplies : Supplies value parts)
    (single : AtMostOneWrong parts)
    {field : Field}
    {part : Value}
    (supplied : parts field = some part)
    (wrong : ¬field.Fits part) :
    ofValue value = .error (.wrongType (Found.ofValue part) field.expected) := by
  obtain ⟨order, complete, distinct, read⟩ := supplies.exists_order
  rw [read]
  refine ofSupplied_of_first distinct complete supplied wrong fun other different
    alsoWrong => ?_
  exact different (single other field alsoWrong ⟨part, supplied, wrong⟩)

/-- Values that supply the same are read alike if at most one part is wrong. -/
theorem Supplies.ofValue_congr
    {value other : Value}
    {parts : Field → Option Value}
    (supplies : Supplies value parts)
    (alsoSupplies : Supplies other parts)
    (single : AtMostOneWrong parts) :
    ofValue value = ofValue other := by
  by_cases right : ∀ field : Field, ¬field.IsWrong parts
  · obtain ⟨settings, accepted⟩ := supplies.exists_ofValue_iff.mpr right
    obtain ⟨order, complete, -, read⟩ := supplies.exists_order
    obtain ⟨otherOrder, otherComplete, -, otherRead⟩ := alsoSupplies.exists_order
    rw [accepted, otherRead, eq_comm, ofSupplied_eq_ok_iff otherComplete,
      ← ofSupplied_eq_ok_iff complete, ← read, accepted]
  · obtain ⟨field, someWrong⟩ := not_forall.mp right
    obtain ⟨part, supplied, wrong⟩ := not_not.mp someWrong
    rw [supplies.ofValue_of_only single supplied wrong,
      alsoSupplies.ofValue_of_only single supplied wrong]

/--
The strict reader accepts just two shapes: an object, and an array of at most three
elements, in which whatever is supplied for a setting is of its type.  Then each
setting is what its part holds, or its default.  An array is read like any object
with the same parts, in any order and among unknown names, as long as at most one
part is wrong.  In an array the first wrong part is reported, and if there is none
its length, if it is too long; in an object the wrong part whose name comes first.
Nothing else is accepted, and no null.
-/
theorem strict_reader_shapes :
    (∀ value settings,
      ofValue value = .ok settings ↔
        ∃ parts,
          Supplies value parts ∧
            ∀ field : Field,
              parts field = none ∧ field.of settings = field.of default ∨
                ∃ part,
                  parts field = some part ∧ field.Holds part (field.of settings)) ∧
    (∀ value,
      (∃ settings, ofValue value = .ok settings) ↔
        ∃ parts, Supplies value parts ∧ ∀ field : Field, ¬field.IsWrong parts) ∧
    (∀ elements members others,
      elements.length ≤ 3 →
      members.Perm ((Field.all.map Field.key).zip elements ++ others) →
      (Association.names members).Nodup →
      (∀ field : Field, field.key ∉ Association.names others) →
      AtMostOneWrong (elementFor elements) →
      ofValue (.array elements) = ofValue (.object members) ∧
        ∀ (field : Field) part,
          elementFor elements field = some part →
          ¬field.Fits part →
          ofValue (.object members) =
            .error (.wrongType (Found.ofValue part) field.expected)) ∧
    (∀ elements,
      (∀ (field : Field) part,
        elementFor elements field = some part →
        ¬field.Fits part →
        (∀ other : Field,
          other.position < field.position → ¬other.IsWrong (elementFor elements)) →
        ofValue (.array elements) =
          .error (.wrongType (Found.ofValue part) field.expected)) ∧
      (3 < elements.length →
        (∀ field : Field, ¬field.IsWrong (elementFor elements)) →
        ofValue (.array elements) = .error (.wrongLength elements.length))) ∧
    (∀ members (field : Field) part,
      memberFor members field = some part →
      ¬field.Fits part →
      (∀ other : Field, other.key < field.key → ¬other.IsWrong (memberFor members)) →
      ofValue (.object members) =
        .error (.wrongType (Found.ofValue part) field.expected)) ∧
    (∀ value,
      (∀ members, value ≠ .object members) →
      (∀ elements, value ≠ .array elements) →
      ofValue value = .error (.wrongType (Found.ofValue value) .settings)) ∧
    (∀ value parts settings (field : Field),
      Supplies value parts → parts field = some .null →
        ofValue value ≠ .ok settings) ∧
    (∀ found : Found,
      (StrictError.wrongType found .settings).message =
        "invalid type: " ++ found.strictText ++ ", expected struct RegistryConfig") ∧
    ∀ length,
      (StrictError.wrongLength length).message =
        "invalid length " ++ toString length ++
            ", expected fewer elements in array" := by
  refine ⟨fun _ _ => ofValue_eq_ok_iff, ?_, ?_, ?_, ?_, ?_, ?_, ?_, fun _ => rfl⟩
  · intro value
    constructor
    · rintro ⟨settings, accepted⟩
      obtain ⟨parts, supplies⟩ := exists_supplies_of_ofValue accepted
      exact ⟨parts, supplies, supplies.exists_ofValue_iff.mp ⟨settings, accepted⟩⟩
    · rintro ⟨parts, supplies, right⟩
      exact supplies.exists_ofValue_iff.mpr right
  · intro elements members others few same distinct unknown single
    have supplies : Supplies (.object members) (elementFor elements) := by
      rw [← memberFor_of_perm few same distinct unknown]
      exact .object members
    exact ⟨(Supplies.array few).ofValue_congr supplies single,
      fun field part supplied wrong =>
        supplies.ofValue_of_only single supplied wrong⟩
  · intro elements
    refine ⟨?_, ?_⟩
    · intro field part supplied wrong first
      exact ofValue_of_wrong
        (ofSupplied_of_first Field.sorted_all Field.mem_all supplied wrong first)
    · intro long right
      obtain ⟨settings, read⟩ := (exists_ofSupplied_iff Field.mem_all).mpr right
      rw [ofValue_array, read]
      exact if_pos long
  · intro members field part supplied wrong first
    rw [ofValue_object]
    exact ofSupplied_of_first Field.sorted_byName Field.mem_byName
      supplied wrong first
  · intro value noObject noArray
    cases value with
    | object members => exact absurd rfl (noObject members)
    | array elements => exact absurd rfl (noArray elements)
    | _ => rfl
  · intro value parts settings field supplies isNull accepted
    exact supplies.exists_ofValue_iff.mp ⟨settings, accepted⟩ field
      ⟨.null, isNull, field.not_fits_null⟩
  · intro found
    have ending :
        ", expected struct RegistryConfig" =
          ", expected " ++ "struct RegistryConfig" := by
      decide +kernel
    rw [ending, ← String.append_assoc]
    rfl

/-- With two wrong parts, an array and an object are refused for different ones. -/
example :
    ofValue (.array [.integer 1, .string "info", .null]) =
        .error (.wrongType (.integer 1) .boolean) ∧
      ofValue (.object [("strict", .integer 1), ("log_level", .string "info"),
          ("log_json", .null)]) =
        .error (.wrongType .null .boolean) :=
  ⟨rfl, rfl⟩

/-- An array with a null for the level. -/
def unlevelled : List Value :=
  [.boolean false, .null]

/-- The same as an object, among a name that is close to one of a setting. -/
def unlevelledMembers : List (String × Value) :=
  [("Strict", .integer 1), ("log_level", .null), ("strict", .boolean false)]

/-- Nothing but the level is wrong. -/
theorem eq_logLevel_of_isWrong
    {field : Field}
    (isWrong : field.IsWrong (elementFor unlevelled)) :
    field = .logLevel := by
  obtain ⟨part, supplied, wrong⟩ := isWrong
  cases field with
  | strict =>
      cases supplied
      exact absurd ⟨false, .strict false⟩ wrong
  | logLevel => rfl
  | logJson => cases supplied

/--
Both are refused for the null, a fourth element for the length, and a text as it is.
-/
theorem unlevelled_shapes :
    unlevelledMembers.Perm
        ((Field.all.map Field.key).zip unlevelled ++ [("Strict", .integer 1)]) ∧
      AtMostOneWrong (elementFor unlevelled) ∧
      ofValue (.array unlevelled) = ofValue (.object unlevelledMembers) ∧
      ofValue (.object unlevelledMembers) = .error (.wrongType .null .string) ∧
      ofValue (.array [.boolean true, .string "info", .boolean false, .null]) =
        .error (.wrongLength 4) ∧
      ofValue (.string "strict") =
          .error (.wrongType (.string "strict") .settings) := by
  obtain ⟨-, -, alike, ofArray, -, ofOther, -⟩ := strict_reader_shapes
  have same :
      unlevelledMembers.Perm
        ((Field.all.map Field.key).zip unlevelled ++ [("Strict", .integer 1)]) :=
    List.reverse_perm
      [("strict", Value.boolean false), ("log_level", .null), ("Strict", .integer 1)]
  have single : AtMostOneWrong (elementFor unlevelled) :=
    fun first second isWrong alsoWrong =>
    (eq_logLevel_of_isWrong isWrong).trans (eq_logLevel_of_isWrong alsoWrong).symm
  obtain ⟨read, reported⟩ :=
    alike unlevelled unlevelledMembers _ (by decide) same (by decide) (by
      intro field
      cases field <;> decide) single
  have right :
      ∀ field : Field,
        ¬field.IsWrong
          (elementFor [.boolean true, .string "info", .boolean false, .null]) := by
    rintro field ⟨part, supplied, wrong⟩
    cases field with
    | strict =>
        cases supplied
        exact wrong ⟨true, .strict true⟩
    | logLevel =>
        cases supplied
        exact wrong ⟨"info", .logLevel "info"⟩
    | logJson =>
        cases supplied
        exact wrong ⟨false, .logJson false⟩
  exact ⟨same, single, read, reported .logLevel .null rfl (Field.not_fits_null _),
    (ofArray _).2 (by decide) right, ofOther _ nofun nofun⟩

end Settings

end Dispatch
