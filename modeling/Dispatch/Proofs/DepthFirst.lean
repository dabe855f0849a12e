import Mathlib.Data.Finset.Card
import Mathlib.Logic.Relation

namespace Dispatch

/-!
# Depth-first traversals

Names need other names, in an order and perhaps repeatedly, but never in a
circle.  `DepthFirst` is the traversal that enters a name, visits what it needs,
and leaves it, and that meets a name again once it has been left.  Names are
left in post-order, each once.
-/

/-- Names that need one another, with no name needing itself in the end. -/
structure Dependencies where
  names : Finset String
  needs : String → List String
  named : "" ∉ names
  closed :
    ∀ {name needed}, name ∈ names → needed ∈ needs name → needed ∈ names
  acyclic :
    ∀ {name},
      name ∈ names →
      ¬ Relation.TransGen (fun name needed => needed ∈ needs name) name name

/-- What happens to a name in a traversal. -/
inductive Mark
  /-- The name is seen for the first time. -/
  | enter (name : String)
  /-- All that the name needs has been visited. -/
  | leave (name : String)
  /-- The name is seen again. -/
  | meet (name : String)
deriving Repr, DecidableEq

namespace Mark

/-- The names that are entered, in order. -/
def entered
    (marks : List Mark) : List String :=
  marks.filterMap fun
    | enter name => some name
    | _ => none

/-- The names that are left, in order. -/
def left
    (marks : List Mark) : List String :=
  marks.filterMap fun
    | leave name => some name
    | _ => none

/-- The names that are seen, for the first time or again, in order. -/
def seen
    (marks : List Mark) : List String :=
  marks.filterMap fun
    | enter name => some name
    | meet name => some name
    | leave _ => none

@[simp] theorem entered_append
    (marks others : List Mark) :
    entered (marks ++ others) = entered marks ++ entered others :=
  List.filterMap_append

@[simp] theorem left_append
    (marks others : List Mark) :
    left (marks ++ others) = left marks ++ left others :=
  List.filterMap_append

@[simp] theorem seen_append
    (marks others : List Mark) :
    seen (marks ++ others) = seen marks ++ seen others :=
  List.filterMap_append

@[simp] theorem left_meet
    (name : String)
    (marks : List Mark) :
    left (.meet name :: marks) = left marks :=
  rfl

@[simp] theorem left_visit
    (name : String)
    (inner marks : List Mark) :
    left (.enter name :: inner ++ .leave name :: marks) =
      left inner ++ name :: left marks :=
  left_append inner (.leave name :: marks)

@[simp] theorem entered_visit
    (name : String)
    (inner marks : List Mark) :
    entered (.enter name :: inner ++ .leave name :: marks) =
      name :: (entered inner ++ entered marks) :=
  congrArg (name :: ·) (entered_append inner (.leave name :: marks))

end Mark

namespace Dependencies

variable (dependencies : Dependencies)

/-- A name needs another one, at once or by way of others. -/
def Requires : String → String → Prop :=
  Relation.TransGen fun name needed => needed ∈ dependencies.needs name

/-- A name is another one or requires it. -/
def Reaches : String → String → Prop :=
  Relation.ReflTransGen fun name needed => needed ∈ dependencies.needs name

/-- Every name comes after all that it requires. -/
def Respects
    (order : List String) : Prop :=
  ∀ earlier name later,
    order = earlier ++ name :: later →
    ∀ required, dependencies.Requires name required → required ∈ earlier

/--
Each of a list of names comes after what it needs, some of which may have been
there before.
-/
def PostOrder
    (done : List String) : List String → Prop
  | [] =>
      True
  | name :: rest =>
      (∀ needed ∈ dependencies.needs name, needed ∈ done) ∧
        PostOrder (done ++ [name]) rest

/-- The depth-first traversal of some names, where others have been left before. -/
inductive DepthFirst : (done todo : List String) → List Mark → Prop
  | nil
      {done : List String} :
      DepthFirst done [] []
  | meet
      {done todo : List String}
      {name : String}
      {marks : List Mark}
      (known : name ∈ done)
      (rest : DepthFirst done todo marks) :
      DepthFirst done (name :: todo) (.meet name :: marks)
  | visit
      {done todo : List String}
      {name : String}
      {inner marks : List Mark}
      (new : name ∉ done)
      (inside : DepthFirst done (dependencies.needs name) inner)
      (rest : DepthFirst (done ++ Mark.left inner ++ [name]) todo marks) :
      DepthFirst done (name :: todo)
        (.enter name :: inner ++ .leave name :: marks)

variable {dependencies}

/-- Where everything needed lies lower, nothing is needed in a circle. -/
theorem acyclic_of_height
    {needs : String → List String}
    (height : String → Nat)
    (falls : ∀ {name needed}, needed ∈ needs name → height needed < height name)
    {name : String} :
    ¬ Relation.TransGen (fun name needed => needed ∈ needs name) name name := by
  have lower :
      ∀ {required},
        Relation.TransGen (fun name needed => needed ∈ needs name) name required →
        height required < height name := by
    intro required requires
    induction requires with
    | single needs =>
        exact falls needs
    | tail _ needs inductionHypothesis =>
        exact Nat.lt_trans (falls needs) inductionHypothesis
  intro circle
  exact Nat.lt_irrefl _ (lower circle)

/-! ## Ranks -/

variable (dependencies) in
open Classical in
/-- How many names a name requires. -/
noncomputable def rank
    (name : String) : Nat :=
  (dependencies.names.filter (dependencies.Requires name)).card

/-- What a name needs has a smaller rank. -/
theorem rank_lt_of_needs
    {name needed : String}
    (present : name ∈ dependencies.names)
    (needs : needed ∈ dependencies.needs name) :
    dependencies.rank needed < dependencies.rank name := by
  classical
  have neededPresent := dependencies.closed present needs
  refine Finset.card_lt_card (Finset.ssubset_iff_of_subset ?_ |>.mpr ?_)
  · intro other member
    rw [Finset.mem_filter] at member ⊢
    exact ⟨member.1, .head needs member.2⟩
  · refine ⟨needed, ?_, ?_⟩
    · exact Finset.mem_filter.mpr ⟨neededPresent, .single needs⟩
    · intro member
      exact dependencies.acyclic neededPresent (Finset.mem_filter.mp member).2

theorem rank_lt_card
    {name : String}
    (present : name ∈ dependencies.names) :
    dependencies.rank name < dependencies.names.card := by
  classical
  refine Finset.card_lt_card (Finset.ssubset_iff_of_subset ?_ |>.mpr ?_)
  · exact Finset.filter_subset _ _
  · refine ⟨name, present, ?_⟩
    intro member
    exact dependencies.acyclic present (Finset.mem_filter.mp member).2

/-! ## Post-orders -/

theorem postOrder_append
    {done first second : List String} :
    dependencies.PostOrder done (first ++ second) ↔
      dependencies.PostOrder done first ∧
        dependencies.PostOrder (done ++ first) second := by
  induction first generalizing done with
  | nil =>
      simp [PostOrder]
  | cons name rest inductionHypothesis =>
      simp only [List.cons_append, PostOrder, inductionHypothesis, and_assoc,
        List.append_assoc, List.nil_append]

theorem PostOrder.mem_of_needs
    {done earlier later : List String}
    {name needed : String}
    (postOrder : dependencies.PostOrder done (earlier ++ name :: later))
    (needs : needed ∈ dependencies.needs name) :
    needed ∈ done ++ earlier :=
  (postOrder_append.mp postOrder).2.1 needed needs

/-- With nothing there before, what a name requires comes before it. -/
theorem PostOrder.respects
    {order : List String}
    (postOrder : dependencies.PostOrder [] order) :
    dependencies.Respects order := by
  intro earlier name later shape required requires
  subst shape
  induction requires with
  | single needs =>
      exact postOrder.mem_of_needs needs
  | @tail between required _ needs inductionHypothesis =>
      obtain ⟨front, back, rfl⟩ := List.append_of_mem inductionHypothesis
      rw [List.append_assoc, List.cons_append] at postOrder
      have inFront : required ∈ front := postOrder.mem_of_needs needs
      exact List.mem_append_left _ inFront

/-! ## Traversals -/

namespace DepthFirst

variable
  {done todo others : List String}
  {marks rest : List Mark}
  {name : String}

theorem of_meet
    (known : name ∈ done) :
    dependencies.DepthFirst done [name] [.meet name] :=
  .meet known .nil

theorem of_visit
    (new : name ∉ done)
    (inside : dependencies.DepthFirst done (dependencies.needs name) marks) :
    dependencies.DepthFirst done [name]
      (.enter name :: marks ++ [.leave name]) :=
  .visit new inside .nil

/-- A traversal goes on where another one has ended. -/
theorem cons
    (first : dependencies.DepthFirst done [name] marks)
    (second : dependencies.DepthFirst (done ++ Mark.left marks) others rest) :
    dependencies.DepthFirst done (name :: others) (marks ++ rest) := by
  cases first with
  | meet known nothing =>
      cases nothing
      rw [Mark.left_meet] at second
      exact .meet known (by simpa [Mark.left] using second)
  | @visit _ _ _ inner _ new inside nothing =>
      cases nothing
      rw [Mark.left_visit, ← List.append_assoc] at second
      simpa using DepthFirst.visit new inside second

/-- Whatever is to be visited has been left in the end. -/
theorem mem_of_todo
    (traversal : dependencies.DepthFirst done todo marks)
    (member : name ∈ todo) :
    name ∈ done ++ Mark.left marks := by
  induction traversal with
  | nil =>
      cases member
  | meet known _ inductionHypothesis =>
      rcases List.mem_cons.mp member with rfl | member
      · exact List.mem_append_left _ known
      · exact inductionHypothesis member
  | visit _ _ _ _ inductionHypothesis =>
      rw [Mark.left_visit]
      rcases List.mem_cons.mp member with rfl | member
      · simp
      · simpa using inductionHypothesis member

/-- A name is left after everything that it needs. -/
theorem postOrder
    (traversal : dependencies.DepthFirst done todo marks) :
    dependencies.PostOrder done (Mark.left marks) := by
  induction traversal with
  | nil =>
      trivial
  | meet _ _ inductionHypothesis =>
      exact inductionHypothesis
  | visit _ inside _ insideHypothesis restHypothesis =>
      rw [Mark.left_visit, postOrder_append]
      refine ⟨insideHypothesis, ?_, restHypothesis⟩
      intro needed needs
      exact inside.mem_of_todo needs

/-- Only what one of the names reaches is left. -/
theorem reaches_of_left
    (traversal : dependencies.DepthFirst done todo marks)
    (member : name ∈ Mark.left marks) :
    ∃ start ∈ todo, dependencies.Reaches start name := by
  induction traversal with
  | nil =>
      cases member
  | meet _ _ inductionHypothesis =>
      obtain ⟨start, among, reaches⟩ := inductionHypothesis member
      exact ⟨start, List.mem_cons_of_mem _ among, reaches⟩
  | @visit _ _ visited _ _ _ _ _ insideHypothesis restHypothesis =>
      rw [Mark.left_visit, List.mem_append, List.mem_cons] at member
      rcases member with within | rfl | after
      · obtain ⟨start, needs, reaches⟩ := insideHypothesis within
        exact ⟨visited, List.mem_cons_self, .head needs reaches⟩
      · exact ⟨name, List.mem_cons_self, .refl⟩
      · obtain ⟨start, among, reaches⟩ := restHypothesis after
        exact ⟨start, List.mem_cons_of_mem _ among, reaches⟩

/-- What has been left before is not left again. -/
theorem not_mem_done
    (traversal : dependencies.DepthFirst done todo marks)
    (member : name ∈ Mark.left marks) :
    name ∉ done := by
  induction traversal with
  | nil =>
      cases member
  | meet _ _ inductionHypothesis =>
      exact inductionHypothesis member
  | visit new _ _ insideHypothesis restHypothesis =>
      rw [Mark.left_visit, List.mem_append, List.mem_cons] at member
      rcases member with within | rfl | after
      · exact insideHypothesis within
      · exact new
      · intro before
        exact restHypothesis after (by simp [before])

/-- A name is not left while what it needs is visited, as no name requires itself. -/
theorem not_mem_left_of_needs
    (present : name ∈ dependencies.names)
    (inside : dependencies.DepthFirst done (dependencies.needs name) marks) :
    name ∉ Mark.left marks := by
  intro member
  obtain ⟨start, needs, reaches⟩ := inside.reaches_of_left member
  exact dependencies.acyclic present (.head' needs reaches)

/-- No name is left twice. -/
theorem nodup_left
    (traversal : dependencies.DepthFirst done todo marks)
    (present : ∀ name ∈ todo, name ∈ dependencies.names) :
    (Mark.left marks).Nodup := by
  induction traversal with
  | nil =>
      exact List.nodup_nil
  | meet _ _ inductionHypothesis =>
      exact inductionHypothesis fun name member =>
        present name (List.mem_cons_of_mem _ member)
  | @visit done todo visited inner marks _ inside rest
      insideHypothesis restHypothesis =>
      have visitedPresent := present visited List.mem_cons_self
      have insideNodup : (Mark.left inner).Nodup :=
        insideHypothesis fun _ => dependencies.closed visitedPresent
      have restNodup : (Mark.left marks).Nodup :=
        restHypothesis fun name member =>
          present name (List.mem_cons_of_mem _ member)
      have notWithin := inside.not_mem_left_of_needs visitedPresent
      have notAfter : visited ∉ Mark.left marks := by
        intro after
        exact rest.not_mem_done after (by simp)
      have apart : ∀ other ∈ Mark.left inner, other ∉ Mark.left marks := by
        intro other within after
        exact rest.not_mem_done after (by simp [within])
      rw [Mark.left_visit, List.nodup_append]
      refine ⟨insideNodup, List.nodup_cons.mpr ⟨notAfter, restNodup⟩, ?_⟩
      intro other within another among same
      subst same
      rcases List.mem_cons.mp among with rfl | after
      · exact notWithin within
      · exact apart other within after

/-- Every name that is entered is left, and no other. -/
theorem entered_perm_left
    (traversal : dependencies.DepthFirst done todo marks) :
    (Mark.entered marks).Perm (Mark.left marks) := by
  induction traversal with
  | nil =>
      exact .refl _
  | meet _ _ inductionHypothesis =>
      exact inductionHypothesis
  | visit _ _ _ insideHypothesis restHypothesis =>
      rw [Mark.entered_visit, Mark.left_visit]
      exact ((insideHypothesis.append restHypothesis).cons _).trans
        List.perm_middle.symm

/-- With nothing there before, everything within reach is left. -/
theorem mem_left_iff
    (traversal : dependencies.DepthFirst [] todo marks) :
    name ∈ Mark.left marks ↔
      ∃ start ∈ todo, dependencies.Reaches start name := by
  constructor
  · exact traversal.reaches_of_left
  · rintro ⟨start, among, reaches⟩
    induction reaches with
    | refl =>
        exact traversal.mem_of_todo among
    | @tail between name _ needs inductionHypothesis =>
        obtain ⟨front, back, shape⟩ := List.append_of_mem inductionHypothesis
        have postOrder := traversal.postOrder
        rw [shape] at postOrder
        rw [shape]
        exact List.mem_append_left _ (postOrder.mem_of_needs needs)

end DepthFirst

end Dependencies

end Dispatch
