import FluidStructure.Proofs.Config.Overriding
import FluidStructure.Proofs.Config.ShelfOperations

/-!
# Copies share their subsections, not their values

A program holds section objects, and every operation on one of them may give it another one.  No
object comes to be below itself, because only a new object becomes a subsection, and it comes to be
below the ones that are there.  A copy is nobody's subsection, so a copy and its original can reach
a common object only through the subsections that were there when the copy was made.
-/

namespace FluidStructure.Config

/-- A shelf and the objects that have been handed out. -/
structure Desk where
  shelf : Shelf
  handles : List Nat

namespace Desk

/-- At the start only the root is handed out. -/
def start (root : Section) : Desk :=
  ⟨(Shelf.load root {}).2, [(Shelf.load root {}).1]⟩

/-- A copy is handed out. -/
def copied (desk : Desk) (id : Nat) : Desk :=
  ⟨(desk.shelf.copy id).2, (desk.shelf.copy id).1 :: desk.handles⟩

/-- One operation on an object that has been handed out. -/
inductive Step : Desk → Desk → Prop
  | set {desk : Desk} {id : Nat} (held : id ∈ desk.handles) (key : String) (value : Value) :
      Step desk ⟨desk.shelf.set id key value, desk.handles⟩
  | openChild {desk : Desk} {id : Nat} (held : id ∈ desk.handles) (name : String) :
      Step desk ⟨(desk.shelf.openChild id name).2, (desk.shelf.openChild id name).1 :: desk.handles⟩
  | found {desk : Desk} {id child : Nat} {name : String} (held : id ∈ desk.handles)
      (found : desk.shelf.find id name = .ok child) : Step desk ⟨desk.shelf, child :: desk.handles⟩
  | missing {desk : Desk} {id : Nat} {name : String} {fault : Fault} (held : id ∈ desk.handles)
      (refused : desk.shelf.find id name = .error fault) : Step desk desk
  | copy {desk : Desk} {id : Nat} (held : id ∈ desk.handles) : Step desk (desk.copied id)

/-- Any number of operations. -/
def Leads : Desk → Desk → Prop := Relation.ReflTransGen Step

/-- The handed out objects are on the shelf, on which objects rank above their subsections. -/
structure Tidy (desk : Desk) : Prop where
  ranked : ∃ rank, desk.shelf.Ranked rank
  held : ∀ id ∈ desk.handles, id < desk.shelf.slots.length

variable {desk later : Desk} {root : Section}

theorem Tidy.start (ordered : root.Ordered) :
    (start root).Tidy ∧ (start root).shelf.view (Shelf.load root {}).1 = root := by
  have nothing : (({} : Shelf).Ranked fun id => id) :=
    { low := fun _ bound => absurd bound (Nat.not_lt_zero _)
      falls := fun id entry member => absurd member List.not_mem_nil
      inside := fun id entry member => absurd member List.not_mem_nil
      sorted := fun _ => .nil }
  obtain ⟨extended, inside, shown⟩ := Shelf.load_spec root {} ordered nothing
  refine ⟨⟨⟨_, extended.numbered⟩, fun id held => ?_⟩, shown⟩
  rw [List.mem_singleton.1 held]
  exact inside

theorem Tidy.step (tidy : desk.Tidy) (step : Step desk later) : later.Tidy := by
  obtain ⟨⟨rank, ranked⟩, inside⟩ := tidy
  cases step with
  | set held key value =>
    refine ⟨⟨rank, ranked.set (inside _ held) key value⟩, fun id held => ?_⟩
    rw [Shelf.length_set]
    exact inside id held
  | @openChild id held name =>
    cases there : (desk.shelf.slot id).children.get? name with
    | some child =>
      rw [Shelf.openChild_found there]
      refine ⟨⟨rank, ranked⟩, List.forall_mem_cons.2 ⟨?_, inside⟩⟩
      exact ranked.inside id _ (KeyMap.mem_of_get? there)
    | none =>
      rw [Shelf.openChild_missing there]
      refine ⟨⟨_, ranked.opened (inside id held) name⟩, List.forall_mem_cons.2
        ⟨?_, fun handle old => Shelf.lt_length_opened (inside handle old) id name⟩⟩
      rw [Shelf.length_opened]
      exact Nat.lt_succ_self _
  | @found id child name held found =>
    refine ⟨⟨rank, ranked⟩, List.forall_mem_cons.2 ⟨?_, inside⟩⟩
    unfold Shelf.find at found
    split at found
    · rename_i there
      obtain rfl := Except.ok.inj found
      exact ranked.inside id _ (KeyMap.mem_of_get? there)
    · cases found
  | missing => exact ⟨⟨rank, ranked⟩, inside⟩
  | @copy id held =>
    exact ⟨⟨_, ranked.copy (inside id held)⟩, List.forall_mem_cons.2
      ⟨Shelf.copy_lt_length _ id, fun handle old => Shelf.lt_length_copy (inside handle old) id⟩⟩

theorem Tidy.run (tidy : desk.Tidy) (leads : Leads desk later) : later.Tidy := by
  induction leads with
  | refl => exact tidy
  | tail _ step ih => exact ih.step step

end Desk

namespace Shelf

/-! ## A copy and its original -/

/-- The path goes through one of the subsections. -/
def Through (shared : KeyMap Nat) (path : List String) : Prop :=
  ∃ name rest, path = name :: rest ∧ ∃ child, shared.get? name = some child

/-- Two objects keep the subsections they share, and these lead to all that is below both. -/
structure Parted (shelf : Shelf) (shared : KeyMap Nat) (one other : Nat) : Prop where
  one_inside : one < shelf.slots.length
  other_inside : other < shelf.slots.length
  kept : ∀ name child, shared.get? name = some child →
    shelf.object? one [name] = some child ∧ shelf.object? other [name] = some child
  common : ∀ path path' place, shelf.object? one path = some place →
    shelf.object? other path' = some place → Through shared path ∧ Through shared path'

variable {shelf later : Shelf} {rank : Nat → Nat} {shared : KeyMap Nat} {id one other : Nat}
  {name : String} {path : List String}

theorem Through.append (through : Through shared path) (rest : List String) :
    Through shared (path ++ rest) := by
  obtain ⟨name, front, rfl, there⟩ := through
  exact ⟨name, front ++ rest, rfl, there⟩

namespace Parted

theorem symm (parted : shelf.Parted shared one other) : shelf.Parted shared other one where
  one_inside := parted.other_inside
  other_inside := parted.one_inside
  kept name child there := (parted.kept name child there).symm
  common path path' place leads leads' := (parted.common path' path place leads' leads).symm

theorem unreached (parted : shelf.Parted shared one other) : ¬ shelf.Reaches other one := by
  intro reaches
  obtain ⟨path, leads⟩ := reaches_iff.1 reaches
  obtain ⟨⟨name, rest, impossible, -⟩, -⟩ := parted.common [] path one rfl leads
  cases impossible

/-- It is enough that paths from both lead to the same places. -/
theorem congr (parted : shelf.Parted shared one other)
    (kept : ∀ {id}, id < shelf.slots.length → id < later.slots.length)
    (same : ∀ id < shelf.slots.length, ∀ path, later.object? id path = shelf.object? id path) :
    later.Parted shared one other where
  one_inside := kept parted.one_inside
  other_inside := kept parted.other_inside
  kept name child there := by
    rw [same one parted.one_inside, same other parted.other_inside]
    exact parted.kept name child there
  common path path' place leads leads' := by
    rw [same one parted.one_inside] at leads
    rw [same other parted.other_inside] at leads'
    exact parted.common path path' place leads leads'

/-- A new subsection is below both only if the object that has it is. -/
theorem opened (parted : shelf.Parted shared one other) (ranked : shelf.Ranked rank)
    (inside : id < shelf.slots.length) (missing : (shelf.slot id).children.get? name = none) :
    (shelf.opened id name).Parted shared one other where
  one_inside := lt_length_opened parted.one_inside id name
  other_inside := lt_length_opened parted.other_inside id name
  kept name child there :=
    (parted.kept name child there).imp (object?_opened_of_old inside missing)
      (object?_opened_of_old inside missing)
  common path path' place leads leads' := by
    have old {handle : Nat} {path : List String} (bound : handle < shelf.slots.length)
        (leads : shelf.object? handle path = some shelf.slots.length) : False :=
      Nat.lt_irrefl _ (ranked.object?_lt bound leads)
    -- either both paths end at the new object, or neither does
    rcases ranked.object?_opened inside parted.one_inside leads with
      known | ⟨rfl, front, rfl, reached⟩
    · rcases ranked.object?_opened inside parted.other_inside leads' with
        known' | ⟨rfl, -⟩
      · exact parted.common path path' place known known'
      · exact (old parted.one_inside known).elim
    · rcases ranked.object?_opened inside parted.other_inside leads' with
        known' | ⟨-, front', rfl, reached'⟩
      · exact (old parted.other_inside known').elim
      · exact (parted.common front front' id reached reached').imp (·.append _) (·.append _)

/-- A copy shares the subsections of the original, and nothing else. -/
theorem copied (ranked : shelf.Ranked rank) (inside : id < shelf.slots.length) :
    (shelf.copy id).2.Parted (shelf.slot id).children id (shelf.copy id).1 := by
  have same := ranked.object?_copy id inside
  have below (name : String) (rest : List String) :
      (shelf.copy id).2.object? (shelf.copy id).1 (name :: rest) =
        shelf.object? id (name :: rest) := by
    change (shelf.copy id).2.object? shelf.slots.length (name :: rest) = _
    rw [object?_cons, slot_copied, object?_cons]
    cases found : (shelf.slot id).children.get? name with
    | none => rfl
    | some child => exact ranked.object?_copy id (ranked.inside _ _ (KeyMap.mem_of_get? found)) rest
  have through {name : String} {rest : List String} {place : Nat}
      (leads : shelf.object? id (name :: rest) = some place) :
      Through (shelf.slot id).children (name :: rest) := by
    obtain ⟨child, found, -⟩ := Option.bind_eq_some_iff.1 leads
    exact ⟨name, rest, rfl, child, found⟩
  refine ⟨lt_length_copy inside id, copy_lt_length shelf id, fun name child there => ?_,
    fun path path' place leads leads' => ?_⟩
  · rw [same, below, object?_cons, there]
    exact ⟨rfl, rfl⟩
  · rw [same] at leads
    -- nothing old leads to the copy, and the original is not below its own subsections
    cases path' with
    | nil =>
      obtain rfl := Option.some.inj leads'
      exact absurd (ranked.object?_lt inside leads) (Nat.lt_irrefl _)
    | cons name rest =>
      rw [below] at leads'
      cases path with
      | nil =>
        obtain rfl := Option.some.inj leads
        exact absurd leads' (ranked.object?_ne_self id name rest)
      | cons name' rest' => exact ⟨through leads, through leads'⟩

theorem step {desk next : Desk} (parted : desk.shelf.Parted shared one other) (tidy : desk.Tidy)
    (step : Desk.Step desk next) : next.shelf.Parted shared one other := by
  obtain ⟨⟨rank, ranked⟩, inside⟩ := tidy
  cases step with
  | set held key value =>
    exact parted.congr (Nat.lt_of_lt_of_eq · (length_set _ _ _ _).symm) fun handle _ =>
      object?_congr (children_set (inside _ held) key value) handle
  | @openChild id held name =>
    cases there : (desk.shelf.slot id).children.get? name with
    | some child =>
      rw [openChild_found there]
      exact parted
    | none =>
      rw [openChild_missing there]
      exact parted.opened ranked (inside id held) there
  | found | missing => exact parted
  | @copy id held =>
    exact parted.congr (lt_length_copy · id) fun handle old => ranked.object?_copy id old

theorem run {desk later : Desk} (parted : desk.shelf.Parted shared one other) (tidy : desk.Tidy)
    (leads : Desk.Leads desk later) : later.shelf.Parted shared one other := by
  induction leads with
  | refl => exact parted
  | tail before step ih => exact ih.step (tidy.run before) step

end Parted

/-! ## What is shown -/

/-- What a handle shows when a value has been stored in an object. -/
structure Written (shelf : Shelf) (id : Nat) (key : String) (value : Value) (handle : Nat) :
    Prop where
  values : ∀ path other, ((shelf.set id key value).view handle).value? path other =
    if shelf.object? handle path = some id ∧ other = key then some value
    else (shelf.view handle).value? path other
  sections : ∀ path, (((shelf.set id key value).view handle).at? path).map Section.name =
    ((shelf.view handle).at? path).map Section.name
  shown : shelf.Reaches handle id → ∃ path, shelf.object? handle path = some id ∧
    ((shelf.set id key value).view handle).value? path key = some value
  hidden : ¬ shelf.Reaches handle id →
    (shelf.set id key value).view handle = shelf.view handle

/-- What is done to one object, or in a subsection that it has of its own, does not show in the
other one. -/
structure Apart (shelf : Shelf) (shared : KeyMap Nat) (one other : Nat) : Prop where
  set : ∀ key value, (shelf.set one key value).view other = shelf.view other
  opened : ∀ name, (shelf.openChild one name).2.view other = shelf.view other
  own : ∀ name rest place, shared.get? name = none →
    shelf.object? one (name :: rest) = some place → ¬ shelf.Reaches other place

/-- A shared subsection is the same in both objects, and what is done in it shows in both. -/
structure Together (shelf : Shelf) (shared : KeyMap Nat) (one other : Nat) : Prop where
  found : ∀ name child, shared.get? name = some child → ∀ either ∈ [one, other],
    shelf.find either name = .ok child ∧ shelf.openChild either name = (child, shelf)
  same : ∀ name child, shared.get? name = some child → ∀ path,
    (shelf.view one).at? (name :: path) = (shelf.view other).at? (name :: path)
  set : ∀ name child, shared.get? name = some child → ∀ path place,
    shelf.object? child path = some place → ∀ key value, ∀ either ∈ [one, other],
      ((shelf.set place key value).view either).value? (name :: path) key = some value
  opened : ∀ name child, shared.get? name = some child → ∀ path place,
    shelf.object? child path = some place → ∀ new, (shelf.slot place).children.get? new = none →
      ∀ either ∈ [one, other], ((shelf.openChild place new).2.view either).at?
        (name :: path ++ [new]) = some (.empty new)

theorem Ranked.written (ranked : shelf.Ranked rank) (inside : id < shelf.slots.length)
    (key : String) (value : Value) (handle : Nat) : shelf.Written id key value handle where
  values := ranked.value?_set inside key value handle
  sections := ranked.name_at?_set inside key value handle
  shown reaches := by
    obtain ⟨path, leads⟩ := reaches_iff.1 reaches
    exact ⟨path, leads, (ranked.value?_set inside key value handle path key).trans
      (if_pos ⟨leads, rfl⟩)⟩
  hidden := ranked.view_set inside key value

namespace Parted

theorem apart (parted : shelf.Parted shared one other) (ranked : shelf.Ranked rank) :
    shelf.Apart shared one other where
  set key value := ranked.view_set parted.one_inside key value parted.unreached
  opened name := by
    cases there : (shelf.slot one).children.get? name with
    | some child => rw [openChild_found there]
    | none =>
      rw [openChild_missing there]
      exact ranked.view_opened parted.one_inside parted.other_inside parted.unreached
  own name rest place absent leads reaches := by
    obtain ⟨path, leads'⟩ := reaches_iff.1 reaches
    obtain ⟨⟨name', rest', same, child, there⟩, -⟩ := parted.common _ _ _ leads leads'
    obtain ⟨rfl, -⟩ := List.cons.inj same
    rw [absent] at there
    cases there

/-- What is below a shared subsection is at the same path in both. -/
theorem object?_shared {child : Nat} (parted : shelf.Parted shared one other)
    (there : shared.get? name = some child) (path : List String) :
    ∀ either ∈ [one, other], shelf.object? either (name :: path) = shelf.object? child path := by
  have onward {either : Nat} (first : shelf.object? either [name] = some child) :
      shelf.object? either (name :: path) = shelf.object? child path := by
    rw [← List.singleton_append, object?_append, first, Option.bind_some]
  obtain ⟨first, second⟩ := parted.kept name child there
  exact List.forall_mem_cons.2 ⟨onward first, List.forall_mem_singleton.2 (onward second)⟩

theorem get?_shared {child : Nat} (parted : shelf.Parted shared one other)
    (there : shared.get? name = some child) :
    ∀ either ∈ [one, other], (shelf.slot either).children.get? name = some child := by
  intro either member
  obtain ⟨place, first, here⟩ :=
    Option.bind_eq_some_iff.1 (parted.object?_shared there [] either member)
  obtain rfl := Option.some.inj here
  exact first

theorem together (parted : shelf.Parted shared one other) (ranked : shelf.Ranked rank) :
    shelf.Together shared one other := by
  have inside {name : String} {child place : Nat} {path : List String}
      (there : shared.get? name = some child) (leads : shelf.object? child path = some place) :
      place < shelf.slots.length :=
    ranked.object?_lt parted.one_inside
      ((parted.object?_shared there path one List.mem_cons_self).trans leads)
  refine ⟨fun name child there either member => ⟨?_, ?_⟩, fun name child there path => ?_,
    fun name child there path place leads key value => ?_,
    fun name child there path place leads new missing => ?_⟩
  · unfold find
    rw [parted.get?_shared there either member]
  · exact openChild_found (parted.get?_shared there either member)
  · rw [ranked.at?_view, ranked.at?_view, parted.object?_shared there path one (by simp),
      parted.object?_shared there path other (by simp)]
  · intro either member
    rw [ranked.value?_set (inside there leads), if_pos]
    exact ⟨(parted.object?_shared there path either member).trans leads, rfl⟩
  · intro either member
    rw [openChild_missing missing]
    exact ranked.at?_opened (inside there leads) missing
      ((parted.object?_shared there path either member).trans leads)

end Parted

end Shelf

/-- Whatever is done, going through a section comes to an end.  A value shows where the object is
that it has been stored in.  A copy and its original have what existed below them in common, and
nothing else. -/
theorem copies_share {root : Section}
    (begun : (∃ name, root = .empty name) ∨ ∃ text, read text = .ok root) {desk : Desk}
    (leads : Desk.Leads (.start root) desk) :
    (Desk.start root).shelf.view (Shelf.load root {}).1 = root ∧
    (∀ id, ¬ Relation.TransGen desk.shelf.Holds id id) ∧
    (∀ handle ∈ desk.handles, ∀ s, desk.shelf.Shows handle s ↔ s = desk.shelf.view handle) ∧
    (∀ id ∈ desk.handles, ∀ handle ∈ desk.handles, ∀ key value,
      desk.shelf.Written id key value handle) ∧
    ∀ id ∈ desk.handles,
      (desk.copied id).shelf.view (desk.shelf.copy id).1 = desk.shelf.view id ∧
      (∀ handle ∈ desk.handles, (desk.copied id).shelf.view handle = desk.shelf.view handle) ∧
      ∀ later, Desk.Leads (desk.copied id) later →
        later.shelf.Apart (desk.shelf.slot id).children id (desk.shelf.copy id).1 ∧
        later.shelf.Apart (desk.shelf.slot id).children (desk.shelf.copy id).1 id ∧
        later.shelf.Together (desk.shelf.slot id).children id (desk.shelf.copy id).1 := by
  have ordered : root.Ordered := by
    rcases begun with ⟨name, rfl⟩ | ⟨text, h⟩
    · exact .empty name
    · exact ordered_of_read h
  obtain ⟨tidy, shown⟩ := Desk.Tidy.start ordered
  have kept := tidy.run leads
  have ⟨⟨rank, ranked⟩, inside⟩ := kept
  refine ⟨shown, ranked.acyclic, fun handle _ s => ranked.shows_iff,
    fun id held handle _ key value => ranked.written (inside id held) key value handle,
    fun id held => ⟨ranked.view_copied (inside id held),
      fun handle old => ranked.view_copy (inside id held) (inside handle old),
      fun later more => ?_⟩⟩
  have after := kept.step (.copy held)
  have parted := (Shelf.Parted.copied ranked (inside id held)).run after more
  obtain ⟨⟨rank', ranked'⟩, -⟩ := after.run more
  exact ⟨parted.apart ranked', parted.symm.apart ranked', parted.together ranked'⟩

namespace Shared

/-- A configuration with one section. -/
def text : String := "run:\n  steps: 3\n"

def root : Section := .node "root" [] [("run", .node "run" [("steps", .int 3)] [])]

/-- The root has been copied. -/
def copied : Desk := (Desk.start root).copied 1

/-- The section has then been looked up in the copy. -/
def searched : Desk := ⟨copied.shelf, 0 :: copied.handles⟩

theorem copies_share_searched :
    read text = .ok root ∧ Desk.Leads (.start root) (.start root) ∧ Desk.Leads copied searched ∧
      ∀ either ∈ [1, 2],
        ((searched.shelf.set 0 "steps" (.int 7)).view either).value? ["run"] "steps" =
          some (.int 7) := by
  have parsed : read text = .ok root := rfl
  have here : 1 ∈ (Desk.start root).handles := List.mem_singleton.2 rfl
  have found : copied.shelf.find 2 "run" = .ok 0 := rfl
  have there : Desk.Step copied searched := .found List.mem_cons_self found
  have both := (copies_share (.inr ⟨text, parsed⟩) .refl).2.2.2.2 1 here
  have together := (both.2.2 searched (.single there)).2.2
  exact ⟨parsed, .refl, .single there, together.set "run" 0 rfl [] 0 rfl "steps" (.int 7)⟩

end Shared

end FluidStructure.Config
