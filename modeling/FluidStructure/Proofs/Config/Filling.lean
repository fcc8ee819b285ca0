import FluidStructure.Config.Section

/-!
# Sections filled in any order

Keys are kept in order, so it does not matter in which order a section gets its entries: if each key
comes once, the section that results is the same.  Changes at the end of a path go together to one
change.
-/

namespace FluidStructure

namespace KeyMap

variable {α : Type} {m : KeyMap α} {key : String}

/-- The later of two values under one key counts. -/
theorem put_put (m : KeyMap α) (key : String) (value later : α) :
    (m.put key value).put key later = m.put key later := by
  induction m with
  | nil => simp [put]
  | cons entry rest ih =>
    obtain ⟨k, v⟩ := entry
    by_cases before : key < k
    · simp [put, before]
    · by_cases same : key = k
      · simp [put, same]
      · simp [put, before, same, ih]

/-- A new key adds an entry. -/
theorem put_perm (new : key ∉ m.keys) (value : α) : (m.put key value).Perm ((key, value) :: m) := by
  induction m with
  | nil => exact .refl _
  | cons entry rest ih =>
    obtain ⟨k, v⟩ := entry
    obtain ⟨other, later⟩ : key ≠ k ∧ key ∉ keys rest := by
      simpa only [keys, List.map_cons, List.mem_cons, not_or] using new
    unfold put
    split
    · exact .refl _
    · exact ((ih later).cons _).trans (.swap _ _ _)

/-- All entries of a list, put one after the other. -/
def putAll (m : KeyMap α) (entries : List (String × α)) : KeyMap α :=
  entries.foldl (fun m entry => m.put entry.1 entry.2) m

theorem Sorted.putAll (h : m.Sorted) (entries : List (String × α)) : (m.putAll entries).Sorted := by
  induction entries generalizing m with
  | nil => exact h
  | cons entry rest ih => exact ih (h.put entry.1 entry.2)

theorem putAll_perm {entries : List (String × α)}
    (distinct : ((m ++ entries).map Prod.fst).Nodup) : (m.putAll entries).Perm (m ++ entries) := by
  induction entries generalizing m with
  | nil =>
    rw [List.append_nil]
    exact .refl _
  | cons entry rest ih =>
    have all : (m ++ entry :: rest).Perm (entry :: m ++ rest) := List.perm_middle
    have others := ((all.map Prod.fst).nodup_iff.1 distinct)
    rw [List.cons_append, List.map_cons, List.nodup_cons, List.map_append, List.mem_append,
      not_or] at others
    have one := put_perm others.1.1 entry.2
    refine (ih ?_).trans ((one.append_right rest).trans all.symm)
    exact (((one.append_right rest).trans all.symm).map Prod.fst).nodup_iff.2 distinct

theorem Sorted.ordered (h : m.Sorted) : m.Pairwise fun first second => first.1 < second.1 :=
  List.pairwise_map.1 h

theorem Sorted.nodup (h : m.Sorted) : m.Nodup := by
  refine h.ordered.imp ?_
  rintro first _ less rfl
  exact String.lt_irrefl _ less

/-- There is one order of the entries. -/
theorem Sorted.eq_of_perm {n : KeyMap α} (h : m.Sorted) (k : n.Sorted) (every : m.Perm n) :
    m = n := by
  refine List.Perm.eq_of_pairwise (fun first second _ _ before after => ?_) h.ordered k.ordered
    every
  exact absurd (String.lt_trans before after) (String.lt_irrefl _)

/-- The order in which a map is filled does not matter. -/
theorem putAll_eq {entries : List (String × α)} (sorted : m.Sorted) (every : entries.Perm m) :
    putAll [] entries = m := by
  have distinct : (entries.map Prod.fst).Nodup :=
    (every.map Prod.fst).nodup_iff.2 (List.Pairwise.imp String.ne_of_lt sorted)
  exact (sorted_nil.putAll entries).eq_of_perm sorted ((putAll_perm distinct).trans every)

end KeyMap

namespace Config

/-- What a section holds: a value under a key, or a section below it. -/
inductive Entry where
  | leaf (key : String) (value : Value)
  | branch (name : String) (child : Section)

namespace Entry

def value? : Entry → Option (String × Value)
  | leaf key value => some (key, value)
  | branch _ _ => none

def section? : Entry → Option (String × Section)
  | leaf _ _ => none
  | branch name child => some (name, child)

end Entry

namespace Section

variable {s : Section} {order : List Entry}

/-- All entries, values first. -/
def entries (s : Section) : List Entry :=
  s.values.map (fun entry => .leaf entry.1 entry.2) ++
    s.subsections.map fun entry => .branch entry.1 entry.2

/-- The section with one more entry. -/
def add (s : Section) : Entry → Section
  | .leaf key value => s.set key value
  | .branch name child => .node s.name s.values (s.subsections.put name child)

theorem foldl_add (s : Section) (order : List Entry) :
    order.foldl add s = .node s.name (s.values.putAll (order.filterMap Entry.value?))
      (s.subsections.putAll (order.filterMap Entry.section?)) := by
  induction order generalizing s with
  | nil =>
    cases s
    rfl
  | cons entry rest ih =>
    rw [List.foldl_cons, ih]
    cases entry with
    | leaf key value => rfl
    | branch name child => rfl

theorem filterMap_value? (s : Section) : s.entries.filterMap Entry.value? = s.values := by
  unfold entries
  rw [List.filterMap_append, List.filterMap_map, List.filterMap_map]
  show s.values.filterMap some ++ s.subsections.filterMap (fun _ => none) = _
  simp

theorem filterMap_section? (s : Section) : s.entries.filterMap Entry.section? = s.subsections := by
  unfold entries
  rw [List.filterMap_append, List.filterMap_map, List.filterMap_map]
  show s.values.filterMap (fun _ => none) ++ s.subsections.filterMap some = _
  simp

/-- The order in which a section is filled does not matter. -/
theorem foldl_add_eq (values : s.values.Sorted) (subsections : s.subsections.Sorted)
    (every : order.Perm s.entries) : order.foldl add (empty s.name) = s := by
  rw [foldl_add]
  have first := KeyMap.putAll_eq values (s.filterMap_value? ▸ every.filterMap Entry.value?)
  have second :=
    KeyMap.putAll_eq subsections (s.filterMap_section? ▸ every.filterMap Entry.section?)
  show Section.node s.name (KeyMap.putAll [] _) (KeyMap.putAll [] _) = s
  rw [first, second]
  cases s
  rfl

/-! ## Changes at the end of a path -/

theorem updateAt_append (change : Section → Section) (path inner : List String) (s : Section) :
    s.updateAt change (path ++ inner) = s.updateAt (fun t => t.updateAt change inner) path := by
  induction path generalizing s with
  | nil => rfl
  | cons name path ih =>
    rw [List.cons_append]
    unfold updateAt
    rw [ih]

/-- Two changes at one place, one after the other. -/
theorem updateAt_updateAt (first second : Section → Section) (path : List String) (s : Section) :
    (s.updateAt first path).updateAt second path = s.updateAt (fun t => second (first t)) path := by
  induction path generalizing s with
  | nil => rfl
  | cons name path ih =>
    have child (t : Section) : (Section.node s.name s.values
        (s.subsections.put name t)).childOrEmpty name = t := by
      unfold childOrEmpty
      show (KeyMap.get? (KeyMap.put _ _ _) _).getD _ = _
      rw [KeyMap.get?_put_self]
      rfl
    simp only [updateAt, child, ih]
    show Section.node _ _ (KeyMap.put (KeyMap.put _ _ _) _ _) = _
    rw [KeyMap.put_put]
    rfl

end Section

end Config

end FluidStructure
