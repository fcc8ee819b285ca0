import FluidStructure.Proofs.Surface.Vertices

/-!
# Which interfaces can be made

An interface is made exactly if the chosen faces are there, with all their vertices, and the mask, unless
it is empty, has a flag for each of the vertices.  What is made depends on which faces are chosen; their
order and repetitions show in the list of faces alone.
-/

namespace FluidStructure.Surface

/-! ## Collecting vertices -/

namespace Connectivity

variable {c : Connectivity} {face : UInt64} {faces : List UInt64}

theorem covers_of_verticesOf {vs : List UInt64} (h : c.verticesOf face = .ok vs) : c.Covers face := by
  unfold verticesOf at h
  dsimp only at h
  split at h
  · cases h
  · rename_i there
    split at h
    · cases h
    · rename_i fits
      have slice := Fault.require_ok_iff.1 fits
      rw [decide_eq_true_iff] at slice
      exact ⟨Nat.lt_of_not_le there, slice.1, slice.2⟩

/-- The vertices can be collected exactly if every face is there. -/
theorem verticesOfAll_ok_iff :
    (∃ vs, c.verticesOfAll faces = .ok vs) ↔ ∀ face ∈ faces, c.Covers face := by
  constructor
  · induction faces with
    | nil => simp
    | cons face rest ih =>
      rintro ⟨vs, all⟩
      unfold verticesOfAll at all
      cases first : c.verticesOf face with
      | error => simp [first] at all
      | ok here =>
        cases later : c.verticesOfAll rest with
        | error => simp [first, later] at all
        | ok others =>
          intro other member
          rcases List.mem_cons.1 member with rfl | member
          · exact covers_of_verticesOf first
          · exact ih ⟨others, later⟩ other member
  · intro covers
    obtain ⟨vs, all, -⟩ := verticesOfAll_ok covers
    exact ⟨vs, all⟩

end Connectivity

/-! ## Counting what a mask marks -/

theorem room_of_countOwned {owned : List Bool} {ids : List UInt64} {n : Nat}
    (h : countOwned owned ids = .ok n) : ∀ v ∈ ids, v.toNat < owned.length := by
  induction ids generalizing n with
  | nil => simp
  | cons v rest ih =>
    unfold countOwned at h
    cases first : Fault.checkRange v.toNat owned.length with
    | error => simp [first] at h
    | ok =>
      cases later : countOwned owned rest with
      | error => simp [first, later] at h
      | ok others =>
        intro other member
        rcases List.mem_cons.1 member with rfl | member
        · exact Fault.checkRange_ok_iff.1 first
        · exact ih later other member

/-- How many ids a mask marks; an empty mask marks all. -/
def marked (owned : List Bool) (ids : List UInt64) : Nat :=
  if owned = [] then ids.length else ids.countP (marks owned)

/-! ## Interfaces -/

/-- What an interface can be made of: faces that are there, and a mask with a flag for each of their
vertices. -/
structure Admissible (faces : List UInt64) (c : Connectivity) (owned : List Bool) : Prop where
  filled : c.starts ≠ []
  covers : ∀ face ∈ faces, c.Covers face
  room : owned ≠ [] → ∀ face ∈ faces, ∀ v, c.Lists face v → v.toNat < owned.length

/-- The interface of some faces: their vertices, once each and in increasing order, and how many of
these the mask marks. -/
structure Describes (faces : List UInt64) (c : Connectivity) (owned : List Bool) (s : Surface) :
    Prop where
  chosen : s.faceIds = faces
  increasing : s.vertexIds.Pairwise (· < ·)
  listed : ∀ v, v ∈ s.vertexIds ↔ ∃ face ∈ faces, c.Lists face v
  counted : s.ownedVertices = marked owned s.vertexIds

section Making

variable {faces others : List UInt64} {c : Connectivity} {owned : List Bool} {s t : Surface}

theorem ofFaces_of_admissible (admissible : Admissible faces c owned) :
    ∃ s, ofFaces faces c owned = .ok s ∧ Describes faces c owned s := by
  obtain ⟨vs, all, members⟩ := Connectivity.verticesOfAll_ok admissible.covers
  have listed v : v ∈ sortedSet vs ↔ ∃ face ∈ faces, c.Lists face v :=
    (mem_sortedSet v vs).trans (members v)
  have filled : Fault.require (!c.starts.isEmpty) "!face_vertex_index.empty()"
      "face -> vertex index must have n_b_faces + 1 entries" = .ok () :=
    Fault.require_ok_iff.2 (by simpa using admissible.filled)
  refine ⟨⟨faces, sortedSet vs, marked owned (sortedSet vs)⟩, ?_, rfl, pairwise_sortedSet vs, listed, rfl⟩
  unfold ofFaces marked
  rw [filled]
  dsimp only
  rw [all]
  dsimp only
  by_cases empty : owned = []
  · simp [empty]
  · have room : ∀ v ∈ sortedSet vs, v.toNat < owned.length := by
      intro v member
      obtain ⟨face, chosen, lists⟩ := (listed v).1 member
      exact admissible.room empty face chosen v lists
    rw [if_neg (by simpa using empty), if_neg empty, countOwned_ok room]

theorem admissible_of_ofFaces (h : ofFaces faces c owned = .ok s) : Admissible faces c owned := by
  unfold ofFaces at h
  split at h
  · cases h
  · rename_i filled
    have starts : c.starts ≠ [] := by simpa using Fault.require_ok_iff.1 filled
    split at h
    · cases h
    · rename_i vs all
      have covers : ∀ face ∈ faces, c.Covers face := Connectivity.verticesOfAll_ok_iff.1 ⟨vs, all⟩
      -- the mask is looked at for the sorted vertices, which are those of the faces
      refine ⟨starts, covers, fun masked face chosen v lists => ?_⟩
      obtain ⟨_, same, members⟩ := Connectivity.verticesOfAll_ok covers
      obtain rfl := Except.ok.inj (all.symm.trans same)
      have member : v ∈ sortedSet vs := (mem_sortedSet v vs).2 ((members v).2 ⟨face, chosen, lists⟩)
      dsimp only at h
      rw [if_neg (by simpa using masked)] at h
      split at h
      · cases h
      · rename_i n count
        exact room_of_countOwned count v member

/-- Faces, connectivity and mask determine the interface. -/
theorem Describes.unique (first : Describes faces c owned s) (second : Describes faces c owned t) :
    s = t := by
  have members v : v ∈ s.vertexIds ↔ v ∈ t.vertexIds := (first.listed v).trans (second.listed v).symm
  have vertices : s.vertexIds = t.vertexIds :=
    (sortedSet_eq first.increasing members).symm.trans (sortedSet_eq second.increasing fun _ => Iff.rfl)
  obtain ⟨faceIds, vertexIds, ownedVertices⟩ := s
  obtain ⟨_, _, _⟩ := t
  have chosen := first.chosen.trans second.chosen.symm
  have counted := first.counted
  rw [vertices, ← second.counted] at counted
  simp_all

/-- The only thing that the faces say beyond which of them are chosen is their order. -/
theorem Describes.congr (described : Describes faces c owned s)
    (same : ∀ face, face ∈ others ↔ face ∈ faces) :
    Describes others c owned { s with faceIds := others } where
  chosen := rfl
  increasing := described.increasing
  listed v := by simp only [same, described.listed]
  counted := described.counted

theorem Admissible.congr (admissible : Admissible faces c owned)
    (same : ∀ face, face ∈ others ↔ face ∈ faces) : Admissible others c owned where
  filled := admissible.filled
  covers face member := admissible.covers face ((same face).1 member)
  room masked face member := admissible.room masked face ((same face).1 member)

theorem ofFaces_eq_ok_iff :
    ofFaces faces c owned = .ok s ↔ Admissible faces c owned ∧ Describes faces c owned s := by
  constructor
  · intro made
    have admissible := admissible_of_ofFaces made
    obtain ⟨t, same, described⟩ := ofFaces_of_admissible admissible
    obtain rfl := Except.ok.inj (made.symm.trans same)
    exact ⟨admissible, described⟩
  · rintro ⟨admissible, described⟩
    obtain ⟨t, made, other⟩ := ofFaces_of_admissible admissible
    rw [made, other.unique described]

end Making

/-- An interface is made exactly of admissible parts.  It lists the vertices of its faces, each once and
in increasing order, and counts those that the mask marks.  Another list of the same faces, in another
order or with repetitions, gives the same vertices and the same count. -/
theorem ofFaces_extracts (faces : List UInt64) (c : Connectivity) (owned : List Bool) :
    ((∃ s, ofFaces faces c owned = .ok s) ↔ Admissible faces c owned) ∧
    ∀ s, ofFaces faces c owned = .ok s →
      Describes faces c owned s ∧
        ∀ others, (∀ face, face ∈ others ↔ face ∈ faces) →
          ofFaces others c owned = .ok { s with faceIds := others } := by
  refine ⟨⟨?_, ?_⟩, fun s made => ?_⟩
  · rintro ⟨s, made⟩
    exact admissible_of_ofFaces made
  · intro admissible
    obtain ⟨s, made, -⟩ := ofFaces_of_admissible admissible
    exact ⟨s, made⟩
  · obtain ⟨admissible, described⟩ := ofFaces_eq_ok_iff.1 made
    refine ⟨described, fun others same => ?_⟩
    exact ofFaces_eq_ok_iff.2 ⟨admissible.congr same, described.congr same⟩

namespace Triangles

/-- Four triangles, the third of which has a single vertex. -/
def connectivity : Connectivity where
  starts := [0, 3, 6, 9, 12]
  vertices := [0, 1, 2, 2, 7, 5, 4, 4, 4, 5, 9, 7]

def owned : List Bool := [true, true, true, true, true, false, true, true, true, false]

theorem admissible : Admissible [3, 1, 3] connectivity owned where
  filled := by decide
  covers := by
    have covered : [3, 1, 3].all (fun face => connectivity.Covers face) = true := by decide
    simpa using covered
  room _ face _ v lists := by
    have inside : connectivity.vertices.all (fun v => v.toNat < owned.length) = true := by decide
    exact of_decide_eq_true (List.all_eq_true.1 inside v lists.mem)

theorem describes : Describes [3, 1, 3] connectivity owned ⟨[3, 1, 3], [2, 5, 7, 9], 2⟩ where
  chosen := rfl
  increasing := by decide
  listed v := by
    have slices : (∃ face ∈ [3, 1, 3], connectivity.Lists face v) ↔
        (v = 5 ∨ v = 9 ∨ v = 7) ∨ (v = 2 ∨ v = 7 ∨ v = 5) ∨ v = 5 ∨ v = 9 ∨ v = 7 := by
      simp [← Connectivity.mem_slice, connectivity, Connectivity.start]
    grind
  counted := by decide

/-- Two triangles that share two of their vertices, one of them chosen twice. -/
theorem ofFaces_extracts_triangles :
    ∃ s, ofFaces [3, 1, 3] connectivity owned = .ok s ∧ s.vertexIds = [2, 5, 7, 9] ∧
      s.ownedVertices = 2 ∧ ofFaces [1, 3] connectivity owned = .ok { s with faceIds := [1, 3] } := by
  obtain ⟨exactly, extracts⟩ := ofFaces_extracts [3, 1, 3] connectivity owned
  obtain ⟨s, made⟩ := exactly.2 admissible
  obtain ⟨described, same⟩ := extracts s made
  obtain rfl := described.unique describes
  exact ⟨_, made, rfl, rfl, same [1, 3] fun face => by grind⟩

end Triangles

end FluidStructure.Surface
