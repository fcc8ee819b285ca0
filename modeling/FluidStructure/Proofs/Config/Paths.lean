import FluidStructure.Config.Reader
import FluidStructure.Proofs.Config.Filling

/-!
# Sections by their paths

What a section holds is found by following a path of names and looking up a key.  In the trees that
are read all keys and names are in order, and maps in order are the same if they give the same values.
-/

namespace FluidStructure

namespace KeyMap

variable {α β : Type} {m n : KeyMap α} {key : String} {value : α}

theorem mem_of_get? (found : m.get? key = some value) : (key, value) ∈ m := by
  induction m with
  | nil => cases found
  | cons entry rest ih =>
    obtain ⟨k, v⟩ := entry
    unfold get? at found
    split at found
    · rename_i same
      obtain rfl := Option.some.inj found
      rw [same]
      exact List.mem_cons_self
    · exact List.mem_cons_of_mem _ (ih found)

theorem mem_of_mem_put {entry : String × α} (member : entry ∈ m.put key value) :
    entry = (key, value) ∨ entry ∈ m := by
  induction m with
  | nil => exact .inl (List.mem_singleton.1 member)
  | cons first rest ih =>
    obtain ⟨k, v⟩ := first
    unfold put at member
    split at member
    · exact List.mem_cons.1 member
    · split at member
      · exact (List.mem_cons.1 member).imp_right (List.mem_cons_of_mem _)
      · rcases List.mem_cons.1 member with rfl | later
        · exact .inr List.mem_cons_self
        · exact (ih later).imp_right (List.mem_cons_of_mem _)

theorem get?_eq_none (missing : key ∉ m.keys) : m.get? key = none := by
  cases found : m.get? key with
  | none => rfl
  | some value => exact absurd (List.mem_map_of_mem (mem_of_get? found)) missing

theorem Sorted.tail {entry : String × α} {rest : KeyMap α} (h : Sorted (entry :: rest)) :
    Sorted rest :=
  (List.pairwise_cons.1 h).2

/-- The first key does not come again. -/
theorem Sorted.get?_tail {rest : KeyMap α} (h : Sorted ((key, value) :: rest)) :
    get? rest key = none :=
  get?_eq_none fun member => String.lt_irrefl key ((List.pairwise_cons.1 h).1 key member)

theorem Sorted.get?_eq_some (h : m.Sorted) (member : (key, value) ∈ m) :
    m.get? key = some value := by
  induction m with
  | nil => cases member
  | cons entry rest ih =>
    obtain ⟨k, v⟩ := entry
    unfold get?
    rcases List.mem_cons.1 member with same | later
    · obtain ⟨rfl, rfl⟩ := Prod.mk.inj same
      exact if_pos rfl
    · rw [if_neg, ih h.tail later]
      rintro rfl
      have nothing := h.get?_tail
      rw [ih h.tail later] at nothing
      cases nothing

/-- Maps in order that give the same values are the same. -/
theorem Sorted.ext (h : m.Sorted) (k : n.Sorted) (same : ∀ key, m.get? key = n.get? key) :
    m = n := by
  refine h.eq_of_perm k ((List.perm_ext_iff_of_nodup h.nodup k.nodup).2 fun entry => ?_)
  exact ⟨fun member => mem_of_get? ((same _).symm.trans (h.get?_eq_some member)),
    fun member => mem_of_get? ((same _).trans (k.get?_eq_some member))⟩

/-- The value under a key is the one that was put there last. -/
theorem Sorted.get?_putAll {entries : KeyMap α} (h : entries.Sorted) (m : KeyMap α) (key : String) :
    (m.putAll entries).get? key = (entries.get? key).or (m.get? key) := by
  induction entries generalizing m with
  | nil => rfl
  | cons entry rest ih =>
    obtain ⟨k, v⟩ := entry
    have last : (m.putAll ((k, v) :: rest)).get? key = ((m.put k v).putAll rest).get? key := rfl
    rw [last, ih h.tail]
    by_cases same : k = key
    · subst same
      simp [h.get?_tail, get?, get?_put_self]
    · simp [get?, same, get?_put_of_ne m v same]

theorem get?_map (f : α → β) (m : KeyMap α) (key : String) :
    KeyMap.get? (m.map fun entry => (entry.1, f entry.2)) key = (m.get? key).map f := by
  induction m with
  | nil => rfl
  | cons entry rest ih =>
    rw [List.map_cons]
    unfold get?
    split
    · rfl
    · exact ih

end KeyMap

namespace Config

namespace Section

/-- The section at the end of a path. -/
def at? (s : Section) : List String → Option Section
  | [] => some s
  | name :: path => (s.subsections.get? name).bind fun child => child.at? path

/-- The value under a key of the section at the end of a path. -/
def value? (s : Section) (path : List String) (key : String) : Option Value :=
  (s.at? path).bind fun t => t.values.get? key

/-- Keys and names are in order, in all sections. -/
inductive Ordered : Section → Prop
  | node {name : String} {values : KeyMap Value} {subsections : KeyMap Section}
      (values_sorted : values.Sorted) (subsections_sorted : subsections.Sorted)
      (below : ∀ entry ∈ subsections, entry.2.Ordered) :
      Ordered (.node name values subsections)

namespace Ordered

variable {s t : Section}

theorem values (h : s.Ordered) : s.values.Sorted := by
  cases h with
  | node values_sorted => exact values_sorted

theorem subsections (h : s.Ordered) : s.subsections.Sorted := by
  cases h with
  | node _ subsections_sorted => exact subsections_sorted

theorem child (h : s.Ordered) {name : String} (found : s.subsections.get? name = some t) :
    t.Ordered := by
  cases h with
  | node _ _ below => exact below _ (KeyMap.mem_of_get? found)

theorem at? (h : s.Ordered) {path : List String} (found : s.at? path = some t) : t.Ordered := by
  induction path generalizing s with
  | nil =>
    obtain rfl := Option.some.inj found
    exact h
  | cons name path ih =>
    obtain ⟨child, here, later⟩ := Option.bind_eq_some_iff.1 found
    exact ih (h.child here) later

theorem empty (name : String) : (Section.empty name).Ordered :=
  .node .nil .nil (List.forall_mem_nil _)

theorem childOrEmpty (h : s.Ordered) (name : String) : (s.childOrEmpty name).Ordered := by
  unfold Section.childOrEmpty
  cases found : s.subsections.get? name with
  | none => exact .empty name
  | some child => exact h.child found

theorem set (h : s.Ordered) (key : String) (value : Value) : (s.set key value).Ordered := by
  cases h with
  | node values_sorted subsections_sorted below =>
    exact .node (values_sorted.put key value) subsections_sorted below

theorem updateAt {change : Section → Section} (keeps : ∀ t, t.Ordered → (change t).Ordered)
    (h : s.Ordered) (path : List String) : (s.updateAt change path).Ordered := by
  induction path generalizing s with
  | nil => exact keeps s h
  | cons name path ih =>
    refine .node h.values (h.subsections.put name _) fun entry member => ?_
    rcases KeyMap.mem_of_mem_put member with rfl | other
    · exact ih (h.childOrEmpty name)
    · cases h with
      | node _ _ below => exact below entry other

end Ordered

end Section

end Config

end FluidStructure
