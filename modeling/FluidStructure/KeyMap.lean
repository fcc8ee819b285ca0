/-!
# Maps with text keys

A map is the list of its entries in the order of their keys, each key once.  Two
maps with the same entries are then the same list.
-/

namespace FluidStructure

/-- Entries in increasing order of their keys. -/
abbrev KeyMap (α : Type) := List (String × α)

namespace KeyMap

variable {α : Type}

/-- The value stored under a key. -/
def get? : KeyMap α → String → Option α
  | [], _ => none
  | (k, v) :: rest, key => if k = key then some v else get? rest key

def contains (m : KeyMap α) (key : String) : Bool := (m.get? key).isSome

/-- Stores a value, in place of an earlier one under the same key. -/
def put : KeyMap α → String → α → KeyMap α
  | [], key, value => [(key, value)]
  | (k, v) :: rest, key, value =>
    if key < k then (key, value) :: (k, v) :: rest
    else if key = k then (key, value) :: rest
    else (k, v) :: put rest key value

def keys (m : KeyMap α) : List String := m.map Prod.fst

/-- The form every map built by `put` has. -/
def Sorted (m : KeyMap α) : Prop := m.keys.Pairwise (· < ·)

theorem sorted_nil : Sorted ([] : KeyMap α) := List.Pairwise.nil

theorem get?_put_self (m : KeyMap α) (key : String) (value : α) :
    (m.put key value).get? key = some value := by
  induction m with
  | nil => simp [put, get?]
  | cons entry rest ih =>
    obtain ⟨k, v⟩ := entry
    simp only [put]
    split
    · simp [get?]
    · split
      · simp [get?]
      · next h => simp [get?, Ne.symm h, ih]

theorem get?_put_of_ne (m : KeyMap α) {key other : String} (value : α) (h : key ≠ other) :
    (m.put key value).get? other = m.get? other := by
  induction m with
  | nil => simp [put, get?, h]
  | cons entry rest ih =>
    obtain ⟨k, v⟩ := entry
    simp only [put]
    split
    · simp [get?, h]
    · split
      · next hk => subst hk; simp [get?, h]
      · simp [get?, ih]

theorem mem_keys_put {m : KeyMap α} {key k : String} {value : α} :
    k ∈ (m.put key value).keys ↔ k = key ∨ k ∈ m.keys := by
  induction m with
  | nil => simp [put, keys]
  | cons entry rest ih =>
    obtain ⟨k', v⟩ := entry
    simp only [keys] at ih
    simp only [put]
    split
    · simp [keys]
    · split
      · next hk => subst hk; simp [keys]
      · simp only [keys, List.map_cons, List.mem_cons, ih]
        constructor
        · rintro (h | h | h) <;> simp [h]
        · rintro (h | h | h) <;> simp [h]

theorem Sorted.put {m : KeyMap α} (h : m.Sorted) (key : String) (value : α) :
    (m.put key value).Sorted := by
  induction m with
  | nil => simp [KeyMap.put, Sorted, keys]
  | cons entry rest ih =>
    obtain ⟨k, v⟩ := entry
    have hrest : Sorted rest := (List.pairwise_cons.1 h).2
    have hk : ∀ k' ∈ KeyMap.keys rest, k < k' := (List.pairwise_cons.1 h).1
    simp only [KeyMap.put]
    split
    · next hlt =>
      refine List.pairwise_cons.2 ⟨?_, h⟩
      intro k' hk'
      rcases List.mem_cons.1 hk' with rfl | hk'
      · exact hlt
      · exact String.lt_trans hlt (hk k' hk')
    · next hge =>
      split
      · next heq => subst heq; exact List.pairwise_cons.2 ⟨hk, hrest⟩
      · next hne =>
        refine List.pairwise_cons.2 ⟨?_, ih hrest⟩
        intro k' hk'
        rcases mem_keys_put.1 hk' with rfl | hk'
        · rcases String.le_total k k' with hle | hle
          · exact Std.lt_of_le_of_ne hle (fun e => hne e.symm)
          · exact absurd (Std.lt_of_le_of_ne hle hne) hge
        · exact hk k' hk'

end KeyMap

end FluidStructure
