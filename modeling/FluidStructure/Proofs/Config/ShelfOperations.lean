import FluidStructure.Proofs.Config.Shelves

/-!
# What the operations do to a shelf

Storing a value changes the values of one object.  Opening a subsection that is missing adds an
object without content, to which only the opened section leads.  Copying and loading put objects on
the shelf and leave all others as they are.
-/

namespace FluidStructure.Config

namespace Shelf

variable {shelf later : Shelf} {rank : Nat → Nat} {id handle place other : Nat}
  {name key : String} {path : List String} {value : Value}

/-! ## What the operations do to the objects -/

theorem slot_add (shelf : Shelf) (s : Slot) (id : Nat) :
    (shelf.add s).2.slot id = if id = shelf.slots.length then s else shelf.slot id := by
  unfold add slot
  split
  · rename_i new
    rw [new, List.getElem?_concat_length]
    rfl
  · rename_i old
    rcases Nat.lt_or_ge id shelf.slots.length with inside | beyond
    · rw [List.getElem?_append_left inside]
    · rw [List.getElem?_eq_none beyond, List.getElem?_eq_none]
      simp only [List.length_append, List.length_singleton]
      omega

theorem length_add (shelf : Shelf) (s : Slot) :
    (shelf.add s).2.slots.length = shelf.slots.length + 1 :=
  List.length_append

theorem slot_modify (inside : id < shelf.slots.length) (change : Slot → Slot) (place : Nat) :
    (shelf.modify id change).slot place =
      if place = id then change (shelf.slot place) else shelf.slot place := by
  unfold modify slot
  rw [List.getElem?_modify]
  by_cases here : place = id
  · subst here
    simp [List.getElem?_eq_getElem inside]
  · simp [here, Ne.symm here]

theorem slot_set (inside : id < shelf.slots.length) (key : String) (value : Value) (place : Nat) :
    (shelf.set id key value).slot place =
      if place = id then { shelf.slot id with values := (shelf.slot id).values.put key value }
      else shelf.slot place := by
  unfold set
  rw [slot_modify inside]
  split
  · rename_i here
    rw [here]
  · rfl

theorem children_set (inside : id < shelf.slots.length) (key : String) (value : Value)
    (place : Nat) :
    ((shelf.set id key value).slot place).children = (shelf.slot place).children := by
  rw [slot_set inside]
  split
  · rename_i here
    rw [here]
  · rfl

theorem length_set (shelf : Shelf) (id : Nat) (key : String) (value : Value) :
    (shelf.set id key value).slots.length = shelf.slots.length :=
  List.length_modify _ _ _

theorem openChild_found (found : (shelf.slot id).children.get? name = some place) :
    shelf.openChild id name = (place, shelf) := by
  unfold openChild
  rw [found]

/-- The shelf with one more object, a subsection without content. -/
def opened (shelf : Shelf) (id : Nat) (name : String) : Shelf :=
  (shelf.add { name }).2.modify id fun s =>
    { s with children := s.children.put name shelf.slots.length }

theorem openChild_missing (missing : (shelf.slot id).children.get? name = none) :
    shelf.openChild id name = (shelf.slots.length, shelf.opened id name) := by
  unfold openChild
  rw [missing]
  rfl

theorem length_opened (shelf : Shelf) (id : Nat) (name : String) :
    (shelf.opened id name).slots.length = shelf.slots.length + 1 := by
  unfold opened modify
  rw [List.length_modify, length_add]

theorem slot_opened (inside : id < shelf.slots.length) (name : String) (place : Nat) :
    (shelf.opened id name).slot place =
      if place = id then { shelf.slot id with
        children := (shelf.slot id).children.put name shelf.slots.length }
      else if place = shelf.slots.length then { name } else shelf.slot place := by
  have grown : id < (shelf.add { name }).2.slots.length := by
    rw [length_add]
    exact Nat.lt_succ_of_lt inside
  unfold opened
  rw [slot_modify grown, slot_add]
  by_cases here : place = id
  · subst here
    simp [Nat.ne_of_lt inside]
  · simp [here]

theorem get?_opened (old : handle < shelf.slots.length) (inside : id < shelf.slots.length)
    (name first : String) :
    ((shelf.opened id name).slot handle).children.get? first =
      if handle = id ∧ first = name then some shelf.slots.length
      else (shelf.slot handle).children.get? first := by
  rw [slot_opened inside]
  by_cases here : handle = id
  · subst here
    by_cases named : first = name
    · subst named
      simp [KeyMap.get?_put_self]
    · simp [named, KeyMap.get?_put_of_ne _ _ (Ne.symm named)]
  · simp [here, Nat.ne_of_lt old]

/-- What is new has no subsections. -/
theorem object?_new (inside : id < shelf.slots.length) (name : String) (path : List String) :
    (shelf.opened id name).object? shelf.slots.length path =
      if path = [] then some shelf.slots.length else none := by
  cases path with
  | nil => rfl
  | cons first rest =>
    rw [object?_cons, slot_opened inside, if_neg (Nat.ne_of_gt inside), if_pos rfl,
      if_neg (List.cons_ne_nil _ _)]
    rfl

theorem slot_copy_of_lt (id : Nat) (old : place < shelf.slots.length) :
    (shelf.copy id).2.slot place = shelf.slot place :=
  (slot_add shelf _ place).trans (if_neg (Nat.ne_of_lt old))

theorem slot_copied (shelf : Shelf) (id : Nat) :
    (shelf.copy id).2.slot shelf.slots.length = shelf.slot id :=
  (slot_add shelf _ _).trans (if_pos rfl)

theorem lt_length_opened (old : place < shelf.slots.length) (id : Nat) (name : String) :
    place < (shelf.opened id name).slots.length := by
  rw [length_opened]
  exact Nat.lt_succ_of_lt old

theorem lt_length_copy (old : place < shelf.slots.length) (id : Nat) :
    place < (shelf.copy id).2.slots.length := by
  unfold copy
  rw [length_add]
  exact Nat.lt_succ_of_lt old

/-- A copy is on the shelf. -/
theorem copy_lt_length (shelf : Shelf) (id : Nat) :
    (shelf.copy id).1 < (shelf.copy id).2.slots.length := by
  unfold copy
  rw [length_add]
  exact Nat.lt_succ_self _

/-- A path leads where it led before if nothing is taken away. -/
theorem object?_mono
    (more : ∀ place name child, (shelf.slot place).children.get? name = some child →
      (later.slot place).children.get? name = some child)
    (leads : shelf.object? handle path = some place) : later.object? handle path = some place := by
  induction path generalizing handle with
  | nil => exact leads
  | cons name path ih =>
    obtain ⟨child, found, leads⟩ := Option.bind_eq_some_iff.1 leads
    rw [object?_cons, more _ _ _ found]
    exact ih leads

theorem object?_opened_of_old (inside : id < shelf.slots.length)
    (missing : (shelf.slot id).children.get? name = none)
    (leads : shelf.object? handle path = some place) :
    (shelf.opened id name).object? handle path = some place := by
  refine object?_mono (fun parent first child found => ?_) leads
  have old : parent < shelf.slots.length := by
    refine Nat.lt_of_not_le fun beyond => ?_
    rw [slot_of_le beyond] at found
    cases found
  rw [get?_opened old inside, if_neg]
  · exact found
  · rintro ⟨rfl, rfl⟩
    rw [missing] at found
    cases found

namespace Ranked

/-! ## Objects stay in ranks -/

theorem reaches_lt (ranked : shelf.Ranked rank) (inside : handle < shelf.slots.length)
    (reaches : shelf.Reaches handle place) : place < shelf.slots.length := by
  induction reaches with
  | refl => exact inside
  | tail _ held _ =>
    obtain ⟨name, found⟩ := held
    exact ranked.inside _ _ (KeyMap.mem_of_get? found)

theorem object?_lt (ranked : shelf.Ranked rank) (inside : handle < shelf.slots.length)
    (leads : shelf.object? handle path = some place) : place < shelf.slots.length :=
  ranked.reaches_lt inside (reaches_iff.2 ⟨path, leads⟩)

theorem set (ranked : shelf.Ranked rank) (inside : id < shelf.slots.length) (key : String)
    (value : Value) : (shelf.set id key value).Ranked rank where
  low := by
    rw [length_set]
    exact ranked.low
  falls place := by
    rw [children_set inside]
    exact ranked.falls place
  inside place := by
    rw [children_set inside, length_set]
    exact ranked.inside place
  sorted place := by
    rw [children_set inside]
    exact ranked.sorted place

/-- Putting an object on the shelf; what it refers to is there already. -/
theorem add (ranked : shelf.Ranked rank) {s : Slot} {height : Nat}
    (low : height ≤ shelf.slots.length) (falls : ∀ entry ∈ s.children, rank entry.2 < height)
    (inside : ∀ entry ∈ s.children, entry.2 < shelf.slots.length) (sorted : s.children.Sorted) :
    (shelf.add s).2.Ranked fun place =>
      if place = shelf.slots.length then height else rank place where
  low place bound := by
    rw [length_add] at bound ⊢
    split
    · omega
    · have := ranked.low place (by omega)
      omega
  falls place entry member := by
    rw [slot_add] at member
    split at member
    · rename_i new
      rw [if_neg (Nat.ne_of_lt (inside entry member)), if_pos new]
      exact falls entry member
    · rename_i old
      rw [if_neg (Nat.ne_of_lt (ranked.inside place entry member)), if_neg old]
      exact ranked.falls place entry member
  inside place entry member := by
    rw [slot_add] at member
    rw [length_add]
    split at member
    · exact Nat.lt_succ_of_lt (inside entry member)
    · exact Nat.lt_succ_of_lt (ranked.inside place entry member)
  sorted place := by
    rw [slot_add]
    split
    · exact sorted
    · exact ranked.sorted place

theorem copy (ranked : shelf.Ranked rank) (inside : id < shelf.slots.length) :
    (shelf.copy id).2.Ranked fun place =>
      if place = shelf.slots.length then rank id else rank place :=
  ranked.add (Nat.le_of_lt (ranked.low id inside)) (ranked.falls id) (ranked.inside id)
    (ranked.sorted id)

/-- All that was there ranks one higher, above the new object. -/
theorem opened (ranked : shelf.Ranked rank) (inside : id < shelf.slots.length) (name : String) :
    (shelf.opened id name).Ranked fun place =>
      if place = shelf.slots.length then 0 else rank place + 1 where
  low place bound := by
    rw [length_opened] at bound ⊢
    split
    · omega
    · have := ranked.low place (by omega)
      omega
  falls place entry member := by
    rw [slot_opened inside] at member
    have old {entry : String × Nat} (member : entry ∈ (shelf.slot place).children) :
        (if entry.2 = shelf.slots.length then 0 else rank entry.2 + 1) <
          if place = shelf.slots.length then 0 else rank place + 1 := by
      rw [if_neg (Nat.ne_of_lt (ranked.inside place entry member)), if_neg]
      · exact Nat.succ_lt_succ (ranked.falls place entry member)
      · rintro rfl
        rw [slot_of_le (Nat.le_refl _)] at member
        cases member
    split at member
    · rename_i here
      subst here
      rcases KeyMap.mem_of_mem_put member with rfl | member
      · rw [if_pos rfl, if_neg (Nat.ne_of_lt inside)]
        exact Nat.succ_pos _
      · exact old member
    · split at member
      · cases member
      · exact old member
  inside place entry member := by
    rw [slot_opened inside] at member
    rw [length_opened]
    split at member
    · rcases KeyMap.mem_of_mem_put member with rfl | member
      · exact Nat.lt_succ_self _
      · exact Nat.lt_succ_of_lt (ranked.inside id entry member)
    · split at member
      · cases member
      · exact Nat.lt_succ_of_lt (ranked.inside place entry member)
  sorted place := by
    rw [slot_opened inside]
    split
    · exact (ranked.sorted id).put _ _
    · split
      · exact .nil
      · exact ranked.sorted place

/-! ## Objects that stay as they are -/

theorem object?_kept (ranked : shelf.Ranked rank)
    (kept : ∀ place < shelf.slots.length, later.slot place = shelf.slot place)
    (inside : handle < shelf.slots.length) (path : List String) :
    later.object? handle path = shelf.object? handle path := by
  induction path generalizing handle with
  | nil => rfl
  | cons name path ih =>
    rw [object?_cons, object?_cons, kept handle inside]
    cases found : (shelf.slot handle).children.get? name with
    | none => rfl
    | some child => exact ih (ranked.inside _ _ (KeyMap.mem_of_get? found))

theorem view_kept {rank' : Nat → Nat} (ranked : shelf.Ranked rank) (ranked' : later.Ranked rank')
    (kept : ∀ place < shelf.slots.length, later.slot place = shelf.slot place)
    (inside : handle < shelf.slots.length) : later.view handle = shelf.view handle :=
  ranked.view_congr ranked' handle fun place reaches =>
    kept place (ranked.reaches_lt inside reaches)

theorem object?_copy (ranked : shelf.Ranked rank) (id : Nat) (old : handle < shelf.slots.length)
    (path : List String) : (shelf.copy id).2.object? handle path = shelf.object? handle path :=
  ranked.object?_kept (fun _ => slot_copy_of_lt id) old path

theorem view_copy (ranked : shelf.Ranked rank) (inside : id < shelf.slots.length)
    (old : handle < shelf.slots.length) : (shelf.copy id).2.view handle = shelf.view handle :=
  ranked.view_kept (ranked.copy inside) (fun _ => slot_copy_of_lt id) old

/-- A copy shows what the original shows. -/
theorem view_copied (ranked : shelf.Ranked rank) (inside : id < shelf.slots.length) :
    (shelf.copy id).2.view (shelf.copy id).1 = shelf.view id := by
  change (shelf.copy id).2.view shelf.slots.length = _
  rw [(ranked.copy inside).view_eq, slot_copied, ranked.view_eq]
  congr 1
  refine List.map_congr_left fun entry member => ?_
  rw [ranked.view_copy inside (ranked.inside id entry member)]

/-- The paths to a new subsection go through the object that has it. -/
theorem object?_opened (ranked : shelf.Ranked rank) (inside : id < shelf.slots.length)
    (old : handle < shelf.slots.length)
    (leads : (shelf.opened id name).object? handle path = some place) :
    shelf.object? handle path = some place ∨
      place = shelf.slots.length ∧
        ∃ front, path = front ++ [name] ∧ shelf.object? handle front = some id := by
  induction path generalizing handle with
  | nil => exact .inl leads
  | cons first rest ih =>
    obtain ⟨child, found, onward⟩ := Option.bind_eq_some_iff.1 leads
    rw [get?_opened old inside] at found
    split at found
    · rename_i here
      obtain ⟨rfl, rfl⟩ := here
      obtain rfl := Option.some.inj found
      rw [object?_new inside] at onward
      split at onward
      · rename_i ends
        subst ends
        exact .inr ⟨(Option.some.inj onward).symm, [], rfl, rfl⟩
      · cases onward
    · rw [object?_cons, found, Option.bind_some]
      rcases ih (ranked.inside _ _ (KeyMap.mem_of_get? found)) onward with
        known | ⟨new, front, rfl, reached⟩
      · exact .inl known
      · refine .inr ⟨new, first :: front, rfl, ?_⟩
        rw [object?_cons, found, Option.bind_some, reached]

/-! ## What a change shows -/

theorem value?_set (ranked : shelf.Ranked rank) (inside : id < shelf.slots.length) (key : String)
    (value : Value) (handle : Nat) (path : List String) (other : String) :
    ((shelf.set id key value).view handle).value? path other =
      if shelf.object? handle path = some id ∧ other = key then some value
      else (shelf.view handle).value? path other := by
  rw [(ranked.set inside key value).value?_view, ranked.value?_view,
    object?_congr (children_set inside key value)]
  cases shelf.object? handle path with
  | none => simp
  | some place =>
    by_cases here : place = id
    · subst here
      by_cases same : other = key
      · subst same
        simp [slot_set inside, KeyMap.get?_put_self]
      · simp [slot_set inside, same, KeyMap.get?_put_of_ne _ _ (Ne.symm same)]
    · simp [slot_set inside, here]

theorem name_at?_set (ranked : shelf.Ranked rank) (inside : id < shelf.slots.length) (key : String)
    (value : Value) (handle : Nat) (path : List String) :
    (((shelf.set id key value).view handle).at? path).map Section.name =
      ((shelf.view handle).at? path).map Section.name := by
  rw [(ranked.set inside key value).at?_view, ranked.at?_view,
    object?_congr (children_set inside key value), Option.map_map, Option.map_map]
  congr 1
  funext place
  change ((shelf.set id key value).view place).name = (shelf.view place).name
  rw [(ranked.set inside key value).name_view, ranked.name_view, slot_set inside]
  split
  · rename_i here
    rw [here]
  · rfl

theorem view_set (ranked : shelf.Ranked rank) (inside : id < shelf.slots.length) (key : String)
    (value : Value) (unreached : ¬ shelf.Reaches handle id) :
    (shelf.set id key value).view handle = shelf.view handle := by
  refine ranked.view_congr (ranked.set inside key value) handle fun place reaches => ?_
  rw [slot_set inside, if_neg]
  rintro rfl
  exact unreached reaches

theorem at?_opened (ranked : shelf.Ranked rank) (inside : id < shelf.slots.length)
    (missing : (shelf.slot id).children.get? name = none)
    (leads : shelf.object? handle path = some id) :
    ((shelf.opened id name).view handle).at? (path ++ [name]) = some (.empty name) := by
  have new : (shelf.opened id name).object? handle (path ++ [name]) =
      some shelf.slots.length := by
    rw [object?_append, object?_opened_of_old inside missing leads, Option.bind_some,
      object?_cons, get?_opened inside inside, if_pos ⟨rfl, rfl⟩]
    rfl
  rw [(ranked.opened inside name).at?_view, new, Option.map_some,
    (ranked.opened inside name).view_eq, slot_opened inside, if_neg (Nat.ne_of_gt inside),
    if_pos rfl]
  rfl

theorem view_opened (ranked : shelf.Ranked rank) (inside : id < shelf.slots.length)
    (old : handle < shelf.slots.length) (unreached : ¬ shelf.Reaches handle id) :
    (shelf.opened id name).view handle = shelf.view handle := by
  refine ranked.view_congr (ranked.opened inside name) handle fun place reaches => ?_
  rw [slot_opened inside, if_neg, if_neg (Nat.ne_of_lt (ranked.reaches_lt old reaches))]
  rintro rfl
  exact unreached reaches

end Ranked

/-! ## Putting a section on the shelf -/

/-- Objects have been put on a shelf, each one after its subsections. -/
structure Extended (shelf later : Shelf) : Prop where
  numbered : later.Ranked fun id => id
  size : shelf.slots.length ≤ later.slots.length
  kept : ∀ place < shelf.slots.length, later.slot place = shelf.slot place

theorem Extended.trans {middle : Shelf} (h : shelf.Extended middle) (k : middle.Extended later) :
    shelf.Extended later where
  numbered := k.numbered
  size := Nat.le_trans h.size k.size
  kept place inside := (k.kept place (Nat.lt_of_lt_of_le inside h.size)).trans (h.kept place inside)

theorem Ranked.extended_add (numbered : shelf.Ranked fun id => id) {s : Slot}
    (inside : ∀ entry ∈ s.children, entry.2 < shelf.slots.length) (sorted : s.children.Sorted) :
    shelf.Extended (shelf.add s).2 where
  numbered := by
    have ranked := numbered.add (Nat.le_refl _) inside inside sorted
    have same : (fun place => if place = shelf.slots.length then shelf.slots.length else place) =
        fun place => place := by
      funext place
      split
      · rename_i new
        exact new.symm
      · rfl
    rwa [same] at ranked
  size := by
    rw [length_add]
    exact Nat.le_succ _
  kept place old := (slot_add shelf s place).trans (if_neg (Nat.ne_of_lt old))

/-- A list of numbered subsections that shows what it was made from. -/
structure Filed (shelf : Shelf) (ids : List (String × Nat))
    (subsections : List (String × Section)) : Prop where
  inside : ∀ entry ∈ ids, entry.2 < shelf.slots.length
  shown : ids.map (fun entry => (entry.1, shelf.view entry.2)) = subsections

theorem load_node (name : String) (values : KeyMap Value) (subsections : List (String × Section))
    (shelf : Shelf) :
    load (.node name values subsections) shelf =
      (loadAll subsections shelf).2.add ⟨name, values, (loadAll subsections shelf).1⟩ := rfl

theorem loadAll_cons (name : String) (s : Section) (rest : List (String × Section))
    (shelf : Shelf) :
    loadAll ((name, s) :: rest) shelf =
      ((name, (load s shelf).1) :: (loadAll rest (load s shelf).2).1,
        (loadAll rest (load s shelf).2).2) := rfl

mutual

theorem load_spec (s : Section) (shelf : Shelf) (ordered : s.Ordered)
    (numbered : shelf.Ranked fun id => id) :
    shelf.Extended (load s shelf).2 ∧ (load s shelf).1 < (load s shelf).2.slots.length ∧
      (load s shelf).2.view (load s shelf).1 = s := by
  cases s with
  | node name values subsections =>
    cases ordered with
    | node _ sorted below =>
      obtain ⟨extended, filed⟩ := loadAll_spec subsections shelf below numbered
      rw [load_node]
      generalize loadAll subsections shelf = r at extended filed
      obtain ⟨ids, later⟩ := r
      have keys : KeyMap.Sorted ids := by
        unfold KeyMap.Sorted at sorted ⊢
        rw [← filed.shown] at sorted
        simpa [KeyMap.keys, Function.comp_def] using sorted
      have added := extended.numbered.extended_add (s := ⟨name, values, ids⟩) filed.inside keys
      refine ⟨extended.trans added, ?_, ?_⟩
      · rw [length_add]
        exact Nat.lt_succ_self _
      · -- the subsections are there already, so the new object does not change what they show
        change (later.add _).2.view later.slots.length = _
        rw [added.numbered.view_eq, slot_add, if_pos rfl]
        refine congrArg (Section.node name values) (Eq.trans ?_ filed.shown)
        refine List.map_congr_left fun entry member => ?_
        rw [extended.numbered.view_kept added.numbered added.kept (filed.inside entry member)]

theorem loadAll_spec (subsections : List (String × Section)) (shelf : Shelf)
    (below : ∀ entry ∈ subsections, entry.2.Ordered) (numbered : shelf.Ranked fun id => id) :
    shelf.Extended (loadAll subsections shelf).2 ∧
      (loadAll subsections shelf).2.Filed (loadAll subsections shelf).1 subsections := by
  match subsections with
  | [] => exact ⟨⟨numbered, Nat.le_refl _, fun _ _ => rfl⟩, ⟨List.forall_mem_nil _, rfl⟩⟩
  | (name, s) :: rest =>
    obtain ⟨here, others⟩ := List.forall_mem_cons.1 below
    obtain ⟨first, inside, shown⟩ := load_spec s shelf here numbered
    obtain ⟨more, filed⟩ := loadAll_spec rest (load s shelf).2 others first.numbered
    rw [loadAll_cons]
    refine ⟨first.trans more, ⟨List.forall_mem_cons.2 ⟨Nat.lt_of_lt_of_le inside more.size,
      filed.inside⟩, ?_⟩⟩
    rw [List.map_cons, filed.shown,
      first.numbered.view_kept more.numbered more.kept inside, shown]

end

end Shelf

end FluidStructure.Config
