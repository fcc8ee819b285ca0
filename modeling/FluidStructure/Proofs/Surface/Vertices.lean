import FluidStructure.Surface.Interface

/-!
# The vertices of an interface

An interface lists the vertices of its faces, each once and in increasing order, and counts those
that the mask of its rank marks.
-/

namespace FluidStructure.Surface

/-! ## Sorted sets of ids -/

theorem mem_dropRepeats (id : UInt64) (ids : List UInt64) : id ∈ dropRepeats ids ↔ id ∈ ids := by
  fun_induction dropRepeats ids with
  | case1 a rest ih => simp_all
  | case2 a b rest apart ih => simp_all
  | case3 ids => exact Iff.rfl

theorem pairwise_dropRepeats {ids : List UInt64} (h : ids.Pairwise (· ≤ ·)) :
    (dropRepeats ids).Pairwise (· < ·) := by
  fun_induction dropRepeats ids with
  | case1 a rest ih => exact ih h.of_cons
  | case2 a b rest apart ih =>
    refine List.pairwise_cons.2 ⟨fun id member => ?_, ih h.of_cons⟩
    rw [mem_dropRepeats] at member
    have below : a < b :=
      UInt64.lt_of_le_of_ne ((List.pairwise_cons.1 h).1 b (List.mem_cons_self ..)) apart
    rcases List.mem_cons.1 member with rfl | later
    · exact below
    · exact UInt64.lt_of_lt_of_le below ((List.pairwise_cons.1 h.of_cons).1 id later)
  | case3 ids short =>
    match ids with
    | [] => exact List.Pairwise.nil
    | [a] => exact List.pairwise_singleton _ a
    | a :: b :: rest => exact absurd rfl (short a b rest)

theorem mem_sortedSet (id : UInt64) (ids : List UInt64) : id ∈ sortedSet ids ↔ id ∈ ids := by
  unfold sortedSet
  rw [mem_dropRepeats, List.mem_mergeSort]

theorem pairwise_sortedSet (ids : List UInt64) : (sortedSet ids).Pairwise (· < ·) := by
  refine pairwise_dropRepeats ?_
  have merged : (ids.mergeSort fun a b => decide (a ≤ b)).Pairwise
      fun a b => decide (a ≤ b) = true := by
    refine List.pairwise_mergeSort (fun a b c h l => ?_) (fun a b => ?_) ids
    · exact decide_eq_true (UInt64.le_trans (of_decide_eq_true h) (of_decide_eq_true l))
    · rw [Bool.or_eq_true, decide_eq_true_eq, decide_eq_true_eq]
      exact UInt64.le_total a b
  exact merged.imp of_decide_eq_true

theorem nodup_of_increasing {ids : List UInt64} (h : ids.Pairwise (· < ·)) : ids.Nodup :=
  h.imp UInt64.ne_of_lt

/-- The sorted set is the only increasing list with these ids. -/
theorem sortedSet_eq {ids increasing : List UInt64} (sorted : increasing.Pairwise (· < ·))
    (same : ∀ id, id ∈ increasing ↔ id ∈ ids) : sortedSet ids = increasing := by
  have members id : id ∈ sortedSet ids ↔ id ∈ increasing := by rw [mem_sortedSet, same]
  refine List.Perm.eq_of_pairwise (fun a b _ _ h l => ?_) (pairwise_sortedSet ids) sorted
    ((List.perm_ext_iff_of_nodup (nodup_of_increasing (pairwise_sortedSet ids))
      (nodup_of_increasing sorted)).2 members)
  exact absurd l (UInt64.lt_asymm h)

/-! ## Vertices of faces -/

namespace Connectivity

variable {c : Connectivity} {face v : UInt64}

/-- Where the vertices of a face begin, and those of the face before end. -/
def start (c : Connectivity) (face : Nat) : Nat := ((c.starts[face]?).getD 0).toNat

/-- The face is there, and so are its vertices. -/
structure Covers (c : Connectivity) (face : UInt64) : Prop where
  there : face.toNat < c.faceCount
  ordered : c.start face.toNat ≤ c.start (face.toNat + 1)
  inside : c.start (face.toNat + 1) ≤ c.vertices.length

instance (c : Connectivity) (face : UInt64) : Decidable (c.Covers face) :=
  decidable_of_iff (face.toNat < c.faceCount ∧ c.start face.toNat ≤ c.start (face.toNat + 1) ∧
      c.start (face.toNat + 1) ≤ c.vertices.length)
    ⟨fun ⟨there, ordered, inside⟩ => ⟨there, ordered, inside⟩,
      fun covers => ⟨covers.there, covers.ordered, covers.inside⟩⟩

/-- The face has the vertex. -/
def Lists (c : Connectivity) (face v : UInt64) : Prop :=
  ∃ k, c.start face.toNat ≤ k ∧ k < c.start (face.toNat + 1) ∧ c.vertices[k]? = some v

theorem Lists.mem (lists : c.Lists face v) : v ∈ c.vertices := by
  obtain ⟨_, -, -, found⟩ := lists
  exact List.mem_of_getElem? found

theorem verticesOf_eq (covers : c.Covers face) :
    c.verticesOf face =
      .ok ((c.vertices.take (c.start (face.toNat + 1))).drop (c.start face.toNat)) := by
  have fits : Fault.require (c.start face.toNat ≤ c.start (face.toNat + 1) ∧
      c.start (face.toNat + 1) ≤ c.vertices.length)
      "start <= end && end <= face_vertex_ids.size()"
      "inconsistent face -> vertex connectivity" = .ok () :=
    if_pos (decide_eq_true ⟨covers.ordered, covers.inside⟩)
  unfold start at fits ⊢
  unfold verticesOf
  dsimp only
  rw [if_neg (Nat.not_le.2 covers.there), fits]

theorem mem_slice (c : Connectivity) (face v : UInt64) :
    v ∈ (c.vertices.take (c.start (face.toNat + 1))).drop (c.start face.toNat) ↔
      c.Lists face v := by
  rw [List.mem_iff_getElem?]
  constructor
  · rintro ⟨i, found⟩
    rw [List.getElem?_drop, List.getElem?_take] at found
    split at found
    · rename_i below
      exact ⟨_, Nat.le_add_right _ _, below, found⟩
    · cases found
  · rintro ⟨k, from', below, found⟩
    refine ⟨k - c.start face.toNat, ?_⟩
    rw [List.getElem?_drop, Nat.add_sub_cancel' from', List.getElem?_take, if_pos below]
    exact found

theorem verticesOfAll_ok {faces : List UInt64} (covers : ∀ face ∈ faces, c.Covers face) :
    ∃ vs, c.verticesOfAll faces = .ok vs ∧ ∀ v, v ∈ vs ↔ ∃ face ∈ faces, c.Lists face v := by
  induction faces with
  | nil => exact ⟨[], rfl, fun v => by simp⟩
  | cons face rest ih =>
    obtain ⟨first, later⟩ := List.forall_mem_cons.1 covers
    obtain ⟨others, listed, members⟩ := ih later
    unfold verticesOfAll
    rw [verticesOf_eq first, listed]
    refine ⟨_, rfl, fun v => ?_⟩
    simp only [List.mem_append, mem_slice, members, List.mem_cons, exists_eq_or_imp]

end Connectivity

/-! ## Interfaces -/

/-- Does a mask mark an id? -/
def marks (owned : List Bool) (v : UInt64) : Bool := (owned[v.toNat]?).getD false

theorem countOwned_ok {owned : List Bool} {ids : List UInt64}
    (room : ∀ v ∈ ids, v.toNat < owned.length) :
    countOwned owned ids = .ok (ids.countP (marks owned)) := by
  induction ids with
  | nil => rfl
  | cons v rest ih =>
    obtain ⟨first, later⟩ := List.forall_mem_cons.1 room
    have inside : Fault.checkRange v.toNat owned.length = .ok () := if_pos first
    unfold countOwned
    rw [inside, ih later, List.countP_cons]
    unfold marks
    cases (owned[v.toNat]?).getD false <;> rfl

/-- What a rank makes its interface of: the chosen faces, the vertices of all faces, and the mask. -/
structure Portion where
  faceIds : List UInt64
  connectivity : Connectivity
  owned : List Bool

namespace Portion

def surface (p : Portion) : Except Fault Surface := ofFaces p.faceIds p.connectivity p.owned

/-- The vertex belongs to a chosen face. -/
def Lists (p : Portion) (v : UInt64) : Prop := ∃ face ∈ p.faceIds, p.connectivity.Lists face v

/-- The rank counts the vertex. -/
def Owns (p : Portion) (v : UInt64) : Prop := marks p.owned v = true

/-- The chosen faces are there, and the mask has a flag for each of their vertices. -/
structure Sound (p : Portion) : Prop where
  filled : p.connectivity.starts ≠ []
  covers : ∀ face ∈ p.faceIds, p.connectivity.Covers face
  masked : p.owned ≠ []
  room : ∀ v, p.Lists v → v.toNat < p.owned.length

/-- The interface has the chosen faces and each of their vertices once, and counts those that the
rank owns. -/
theorem surface_ok {p : Portion} (sound : p.Sound) :
    ∃ surface, p.surface = .ok surface ∧ surface.faceIds = p.faceIds ∧
      surface.vertexIds.Nodup ∧ (∀ v, v ∈ surface.vertexIds ↔ p.Lists v) ∧
      surface.ownedVertices = surface.vertexIds.countP (marks p.owned) := by
  have filled : Fault.require (!p.connectivity.starts.isEmpty) "!face_vertex_index.empty()"
      "face -> vertex index must have n_b_faces + 1 entries" = .ok () :=
    if_pos (by simpa using sound.filled)
  obtain ⟨vs, all, members⟩ := Connectivity.verticesOfAll_ok sound.covers
  have listed v : v ∈ sortedSet vs ↔ p.Lists v := (mem_sortedSet v vs).trans (members v)
  refine ⟨⟨p.faceIds, sortedSet vs, (sortedSet vs).countP (marks p.owned)⟩, ?_, rfl,
    nodup_of_increasing (pairwise_sortedSet vs), listed, rfl⟩
  unfold surface ofFaces
  rw [filled]
  dsimp only
  rw [all]
  dsimp only
  rw [if_neg (by simpa using sound.masked),
    countOwned_ok fun v member => sound.room v ((listed v).1 member)]

end Portion

end FluidStructure.Surface
