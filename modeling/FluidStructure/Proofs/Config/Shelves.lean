import FluidStructure.Config.Shelf
import FluidStructure.Proofs.Config.Paths
import Mathlib.Logic.Relation

/-!
# What the objects on a shelf stand for

An object shows its own values and all that its subsections show.  This comes to an end because each
object can be given a rank above those of its subsections.  A path of names leads from an object to
the objects below it, and what is shown at the end of the path is what that object shows.
-/

namespace FluidStructure.Config.Shelf

/-- One object is a subsection of the other. -/
def Holds (shelf : Shelf) (parent child : Nat) : Prop :=
  ∃ name, (shelf.slot parent).children.get? name = some child

/-- One object is the other, or is below it. -/
def Reaches (shelf : Shelf) : Nat → Nat → Prop := Relation.ReflTransGen shelf.Holds

/-- The object at the end of a path of names. -/
def object? (shelf : Shelf) (id : Nat) : List String → Option Nat
  | [] => some id
  | name :: path => ((shelf.slot id).children.get? name).bind fun child => shelf.object? child path

mutual

/-- Going through an object and everything below it comes to an end, with this section. -/
inductive Shows (shelf : Shelf) : Nat → Section → Prop
  | node {id : Nat} {subsections : List (String × Section)}
      (below : ShowsAll shelf (shelf.slot id).children subsections) :
      Shows shelf id (.node (shelf.slot id).name (shelf.slot id).values subsections)

/-- The same for a list of subsections. -/
inductive ShowsAll (shelf : Shelf) : List (String × Nat) → List (String × Section) → Prop
  | nothing : ShowsAll shelf [] []
  | next {name : String} {child : Nat} {s : Section} {rest : List (String × Nat)}
      {subsections : List (String × Section)} (first : Shows shelf child s)
      (later : ShowsAll shelf rest subsections) :
      ShowsAll shelf ((name, child) :: rest) ((name, s) :: subsections)

end

/-- Objects rank above their subsections, and these are on the shelf, under names in order. -/
structure Ranked (shelf : Shelf) (rank : Nat → Nat) : Prop where
  low : ∀ id < shelf.slots.length, rank id < shelf.slots.length
  falls : ∀ id, ∀ entry ∈ (shelf.slot id).children, rank entry.2 < rank id
  inside : ∀ id, ∀ entry ∈ (shelf.slot id).children, entry.2 < shelf.slots.length
  sorted : ∀ id, (shelf.slot id).children.Sorted

variable {shelf later : Shelf} {rank : Nat → Nat} {id child other : Nat} {name : String}
  {path : List String}

/-! ## Paths -/

theorem slot_of_le (beyond : shelf.slots.length ≤ id) : shelf.slot id = ⟨"", [], []⟩ := by
  unfold slot
  rw [List.getElem?_eq_none beyond]
  rfl

theorem object?_cons (shelf : Shelf) (id : Nat) (name : String) (path : List String) :
    shelf.object? id (name :: path) =
      ((shelf.slot id).children.get? name).bind fun child => shelf.object? child path := rfl

theorem object?_append (shelf : Shelf) (id : Nat) (path inner : List String) :
    shelf.object? id (path ++ inner) =
      (shelf.object? id path).bind fun middle => shelf.object? middle inner := by
  induction path generalizing id with
  | nil => rfl
  | cons name path ih =>
    rw [List.cons_append, object?_cons, object?_cons]
    cases (shelf.slot id).children.get? name with
    | none => rfl
    | some child => exact ih child

/-- What is below an object is at the end of a path. -/
theorem reaches_iff : shelf.Reaches id other ↔ ∃ path, shelf.object? id path = some other := by
  constructor
  · intro reaches
    induction reaches using Relation.ReflTransGen.head_induction_on with
    | refl => exact ⟨[], rfl⟩
    | head held _ ih =>
      obtain ⟨name, found⟩ := held
      obtain ⟨path, leads⟩ := ih
      exact ⟨name :: path, by rw [object?_cons, found, Option.bind_some, leads]⟩
  · rintro ⟨path, leads⟩
    induction path generalizing id with
    | nil =>
      obtain rfl := Option.some.inj leads
      exact .refl
    | cons name path ih =>
      obtain ⟨child, found, leads⟩ := Option.bind_eq_some_iff.1 leads
      exact .head ⟨name, found⟩ (ih leads)

/-- Paths depend on the subsections only. -/
theorem object?_congr (same : ∀ id, (later.slot id).children = (shelf.slot id).children) (id : Nat)
    (path : List String) : later.object? id path = shelf.object? id path := by
  induction path generalizing id with
  | nil => rfl
  | cons name path ih =>
    rw [object?_cons, object?_cons, same, funext ih]

theorem viewTo_zero (shelf : Shelf) (id : Nat) :
    shelf.viewTo 0 id = .node (shelf.slot id).name (shelf.slot id).values [] := rfl

theorem viewTo_succ (shelf : Shelf) (depth id : Nat) :
    shelf.viewTo (depth + 1) id = .node (shelf.slot id).name (shelf.slot id).values
      ((shelf.slot id).children.map fun entry => (entry.1, shelf.viewTo depth entry.2)) := rfl

namespace Ranked

theorem holds_falls (ranked : shelf.Ranked rank) (held : shelf.Holds id child) :
    rank child < rank id := by
  obtain ⟨name, found⟩ := held
  exact ranked.falls id _ (KeyMap.mem_of_get? found)

/-- No object is below itself. -/
theorem acyclic (ranked : shelf.Ranked rank) (id : Nat) :
    ¬ Relation.TransGen shelf.Holds id id := by
  have falls {id other : Nat} (below : Relation.TransGen shelf.Holds id other) :
      rank other < rank id := by
    induction below with
    | single held => exact ranked.holds_falls held
    | tail _ held ih => exact Nat.lt_trans (ranked.holds_falls held) ih
  exact fun below => Nat.lt_irrefl _ (falls below)

/-- A path of some length leads to another object. -/
theorem object?_ne_self (ranked : shelf.Ranked rank) (id : Nat) (name : String)
    (path : List String) : shelf.object? id (name :: path) ≠ some id := by
  intro leads
  obtain ⟨child, found, leads⟩ := Option.bind_eq_some_iff.1 leads
  exact ranked.acyclic id (.head' ⟨name, found⟩ (reaches_iff.2 ⟨path, leads⟩))

/-! ## Views -/

/-- From some depth on, going deeper shows nothing more. -/
theorem viewTo_eq (ranked : shelf.Ranked rank) (depth depth' id : Nat) (deep : rank id ≤ depth)
    (deep' : rank id ≤ depth') : shelf.viewTo depth id = shelf.viewTo depth' id := by
  have flat (id : Nat) (bottom : rank id ≤ 0) : (shelf.slot id).children = [] := by
    refine List.eq_nil_iff_forall_not_mem.2 fun entry member => ?_
    have := ranked.falls id entry member
    omega
  induction depth generalizing depth' id with
  | zero =>
    cases depth' with
    | zero => rfl
    | succ depth' =>
      rw [viewTo_succ, flat id deep]
      rfl
  | succ depth ih =>
    cases depth' with
    | zero =>
      rw [viewTo_succ, flat id deep']
      rfl
    | succ depth' =>
      rw [viewTo_succ, viewTo_succ]
      congr 1
      refine List.map_congr_left fun entry member => ?_
      have less := ranked.falls id entry member
      rw [ih depth' entry.2 (by omega) (by omega)]

/-- An object shows its own values and what its subsections show. -/
theorem view_eq (ranked : shelf.Ranked rank) (id : Nat) :
    shelf.view id = .node (shelf.slot id).name (shelf.slot id).values
      ((shelf.slot id).children.map fun entry => (entry.1, shelf.view entry.2)) := by
  unfold view
  rcases Nat.lt_or_ge id shelf.slots.length with inside | beyond
  · have low := ranked.low id inside
    obtain ⟨depth, size⟩ : ∃ depth, shelf.slots.length = depth + 1 :=
      ⟨shelf.slots.length - 1, by omega⟩
    rw [size, viewTo_succ]
    congr 1
    refine List.map_congr_left fun entry member => ?_
    have less := ranked.falls id entry member
    rw [ranked.viewTo_eq depth (depth + 1) entry.2 (by omega) (by omega)]
  · rw [slot_of_le beyond]
    cases size : shelf.slots.length with
    | zero => rw [viewTo_zero, slot_of_le beyond]; rfl
    | succ depth => rw [viewTo_succ, slot_of_le beyond]; rfl

/-- What is shown at the end of a path is what the object there shows. -/
theorem at?_view (ranked : shelf.Ranked rank) (id : Nat) (path : List String) :
    (shelf.view id).at? path = (shelf.object? id path).map shelf.view := by
  induction path generalizing id with
  | nil => rfl
  | cons name path ih =>
    rw [object?_cons]
    have below : (shelf.view id).subsections.get? name =
        ((shelf.slot id).children.get? name).map shelf.view := by
      rw [ranked.view_eq id]
      exact KeyMap.get?_map shelf.view (shelf.slot id).children name
    unfold Section.at?
    rw [below]
    cases (shelf.slot id).children.get? name with
    | none => rfl
    | some child => exact ih child

theorem name_view (ranked : shelf.Ranked rank) (id : Nat) :
    (shelf.view id).name = (shelf.slot id).name := by
  rw [ranked.view_eq]
  rfl

theorem values_view (ranked : shelf.Ranked rank) (id : Nat) :
    (shelf.view id).values = (shelf.slot id).values := by
  rw [ranked.view_eq]
  rfl

theorem value?_view (ranked : shelf.Ranked rank) (id : Nat) (path : List String) (key : String) :
    (shelf.view id).value? path key =
      (shelf.object? id path).bind fun place => (shelf.slot place).values.get? key := by
  unfold Section.value?
  rw [ranked.at?_view]
  cases shelf.object? id path with
  | none => rfl
  | some place => exact congrArg (KeyMap.get? · key) (ranked.values_view place)

/-- An object shows the same if nothing at it and below it has changed. -/
theorem view_congr {rank' : Nat → Nat} (ranked : shelf.Ranked rank) (ranked' : later.Ranked rank')
    (id : Nat) (same : ∀ place, shelf.Reaches id place → later.slot place = shelf.slot place) :
    later.view id = shelf.view id := by
  generalize height : rank id = bound
  induction bound using Nat.strongRecOn generalizing id with
  | ind bound ih =>
    rw [ranked.view_eq, ranked'.view_eq, same id .refl]
    congr 1
    refine List.map_congr_left fun entry member => ?_
    have held : shelf.Holds id entry.2 :=
      ⟨entry.1, (ranked.sorted id).get?_eq_some member⟩
    rw [ih (rank entry.2) (height ▸ ranked.falls id entry member) entry.2
      (fun place reaches => same place (.head held reaches)) rfl]

/-! ## Dumps -/

theorem shows_view (ranked : shelf.Ranked rank) (id : Nat) : shelf.Shows id (shelf.view id) := by
  generalize height : rank id = bound
  induction bound using Nat.strongRecOn generalizing id with
  | ind bound ih =>
    have all {children : List (String × Nat)}
        (below : ∀ entry ∈ children, rank entry.2 < bound) :
        shelf.ShowsAll children (children.map fun entry => (entry.1, shelf.view entry.2)) := by
      induction children with
      | nil => exact .nothing
      | cons entry rest more =>
        obtain ⟨here, others⟩ := List.forall_mem_cons.1 below
        exact .next (ih _ here entry.2 rfl) (more others)
    rw [ranked.view_eq]
    exact .node (all fun entry member => height ▸ ranked.falls id entry member)

end Ranked

mutual

theorem Shows.unique {shelf : Shelf} {id : Nat} {s t : Section} (h : shelf.Shows id s)
    (k : shelf.Shows id t) : s = t := by
  cases h with
  | node below =>
    cases k with
    | node below' => rw [below.unique below']

theorem ShowsAll.unique {shelf : Shelf} {children : List (String × Nat)}
    {s t : List (String × Section)} (h : shelf.ShowsAll children s)
    (k : shelf.ShowsAll children t) : s = t := by
  cases h with
  | nothing =>
    cases k with
    | nothing => rfl
  | next first more =>
    cases k with
    | next first' more' => rw [first.unique first', more.unique more']

end

/-- Going through the objects always comes to an end, and gives the view. -/
theorem Ranked.shows_iff (ranked : shelf.Ranked rank) {s : Section} :
    shelf.Shows id s ↔ s = shelf.view id :=
  ⟨fun shows => shows.unique (ranked.shows_view id), fun same => same ▸ ranked.shows_view id⟩

end FluidStructure.Config.Shelf
