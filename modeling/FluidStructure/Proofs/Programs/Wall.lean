import FluidStructure.Proofs.Programs.Crew
import FluidStructure.Proofs.Surface.Scattering
import FluidStructure.Proofs.Surface.Vertices

/-!
# The wall

The interface of a wall patch has as many faces as the patch and all of its vertices, each
once, so that no array of the patch is too small for it.
-/

namespace FluidStructure

namespace Surface

/-! ## Scattering within bounds -/

/-- An array of this size has room for vectors at these ids. -/
def Within (ids : List UInt64) (size : Nat) : Prop :=
  ∀ id ∈ ids, (firstComponent id + 2).toNat < size

theorem writeVectors_ok {writes : List (UInt64 × Vector3)} {out : List Float}
    (h : Within (writes.map Prod.fst) out.length) : (writeVectors writes out).1 = .ok () := by
  induction writes generalizing out with
  | nil => rfl
  | cons write rest ih =>
    obtain ⟨id, v⟩ := write
    have first : Fault.checkRange (firstComponent id + 2).toNat out.length = .ok () :=
      if_pos (h id (List.mem_cons_self ..))
    unfold writeVectors
    rw [first]
    refine ih fun later member => ?_
    rw [length_writeVector]
    exact h later (List.mem_cons_of_mem _ member)

/-- As many vectors as ids, and room for all of them. -/
theorem scatter_ok {ids : List UInt64} {values out : List Float} (some : ids ≠ [])
    (size : values.length = 3 * ids.length) (room : Within ids out.length) :
    (scatter ids values out).1 = .ok () := by
  have fits : Fault.require (ids.length = values.length / 3) "elt_ids.size() == n_elts"
      "id list and value count differ" = .ok () := if_pos (by simp [size])
  unfold scatter
  rw [if_neg (by simpa using some), fits]
  refine writeVectors_ok ?_
  rw [List.map_fst_zip (by rw [length_vectors, size]; omega)]
  exact room

end Surface

namespace Programs

open FluidStructure.Coupling

namespace WallPatch

/-! ## Connectivity of a wall patch -/

variable {w : WallPatch}

theorem starts_connectivityFrom (w : WallPatch) (face entered count : Nat) :
    (w.connectivityFrom face entered count).starts =
      (List.range (count + 1)).map fun i => UInt64.ofNat (entered + 4 * i) := by
  induction count generalizing face entered with
  | zero => rfl
  | succ count ih =>
    rw [List.range_succ_eq_map, List.map_cons, List.map_map]
    refine congrArg (List.cons _) ((ih (face + 1) (entered + 4)).trans ?_)
    refine List.map_congr_left fun i _ => ?_
    exact congrArg UInt64.ofNat (by omega)

theorem vertices_connectivityFrom (w : WallPatch) (face entered count : Nat) :
    (w.connectivityFrom face entered count).vertices =
      (List.range count).flatMap fun i => w.corners (face + i) := by
  induction count generalizing face entered with
  | zero => rfl
  | succ count ih =>
    rw [List.range_succ_eq_map, List.flatMap_cons, List.flatMap_map]
    refine congrArg (w.corners face ++ ·) ((ih (face + 1) (entered + 4)).trans ?_)
    refine congrArg (List.flatMap · _) ?_
    funext i
    exact congrArg w.corners (by omega)

/-- One face after the other, four vertices each. -/
theorem slice_flatMap {corners : Nat → List UInt64} (four : ∀ f, (corners f).length = 4)
    {face count : Nat} (h : face < count) :
    (((List.range count).flatMap corners).take (4 * (face + 1))).drop (4 * face) =
      corners face := by
  induction face generalizing count corners with
  | zero =>
    obtain ⟨count, rfl⟩ := Nat.exists_eq_succ_of_ne_zero (Nat.ne_of_gt h)
    rw [List.range_succ_eq_map, List.flatMap_cons]
    exact List.take_left' (four 0)
  | succ face ih =>
    obtain ⟨count, rfl⟩ := Nat.exists_eq_succ_of_ne_zero (Nat.ne_of_gt (Nat.zero_lt_of_lt h))
    rw [List.range_succ_eq_map, List.flatMap_cons, List.flatMap_map, List.take_append,
      four 0, List.take_of_length_le (by rw [four]; omega), List.drop_append, four 0,
      List.drop_of_length_le (by rw [four]; omega), List.nil_append]
    have four' f : ((fun f => corners (f + 1)) f).length = 4 := four (f + 1)
    have later := ih four' (Nat.lt_of_succ_lt_succ h)
    rw [← later]
    refine congrArg₂ List.drop (by omega) (congrArg₂ List.take (by omega) rfl)

theorem toNat_id {i : Nat} (h : i < 2 ^ 64) : (UInt64.ofNat i).toNat = i :=
  UInt64.toNat_ofNat_of_lt' h

theorem verticesOf_connectivity (small : 6 * (w.count + 1) < 2 ^ 64) {face : Nat} (h : face < w.count) :
    w.connectivity.verticesOf (UInt64.ofNat face) = .ok (w.corners face) := by
  have starts : w.connectivity.starts =
      (List.range (w.count + 1)).map fun i => UInt64.ofNat (0 + 4 * i) :=
    starts_connectivityFrom w 0 0 w.count
  have vertices : w.connectivity.vertices =
      (List.range w.count).flatMap fun i => w.corners (0 + i) :=
    vertices_connectivityFrom w 0 0 w.count
  have start (i : Nat) (most : i ≤ w.count) : w.connectivity.start i = 4 * i := by
    unfold Surface.Connectivity.start
    rw [starts, List.getElem?_map, List.getElem?_range (by omega)]
    exact (toNat_id (by omega)).trans (Nat.zero_add _)
  have count : w.connectivity.faceCount = w.count := by
    unfold Surface.Connectivity.faceCount
    rw [starts]
    simp
  have length : w.connectivity.vertices.length = 4 * w.count := by
    rw [vertices, List.length_flatMap]
    simp [corners, Nat.mul_comm]
  have here : (UInt64.ofNat face).toNat = face := toNat_id (by omega)
  have covers : w.connectivity.Covers (UInt64.ofNat face) := by
    refine ⟨?_, ?_, ?_⟩
    · rw [here, count]
      exact h
    · rw [here, start face (Nat.le_of_lt h), start (face + 1) h]
      omega
    · rw [here, start (face + 1) h, length]
      omega
  rw [Surface.Connectivity.verticesOf_eq covers, here, start face (Nat.le_of_lt h),
    start (face + 1) h, vertices]
  exact congrArg Except.ok ((slice_flatMap (fun _ => rfl) h).trans (congrArg w.corners (Nat.zero_add _)))

theorem verticesOfAll_connectivity (small : 6 * (w.count + 1) < 2 ^ 64) (faces : List Nat)
    (h : ∀ face ∈ faces, face < w.count) :
    w.connectivity.verticesOfAll (faces.map UInt64.ofNat) = .ok (faces.flatMap w.corners) := by
  induction faces with
  | nil => rfl
  | cons face rest ih =>
    rw [List.map_cons]
    unfold Surface.Connectivity.verticesOfAll
    rw [verticesOf_connectivity small (h face (List.mem_cons_self ..)),
      ih fun later member => h later (List.mem_cons_of_mem _ member)]
    rfl

/-! ## The interface of a wall patch -/

/-- The ids from zero on. -/
def ids (count : Nat) : List UInt64 := (List.range count).map UInt64.ofNat

theorem length_ids (count : Nat) : (ids count).length = count := by
  unfold ids
  rw [List.length_map, List.length_range]

theorem pairwise_ids {count : Nat} (small : count < 2 ^ 64) : (ids count).Pairwise (· < ·) := by
  unfold ids
  rw [List.pairwise_map]
  refine List.pairwise_lt_range.imp_of_mem fun member member' less => ?_
  rw [List.mem_range] at member member'
  have wide : UInt64.size = 2 ^ 64 := rfl
  exact (UInt64.ofNat_lt_iff_lt (by omega) (by omega)).2 less

/-- Every vertex of the patch is a corner of a face. -/
theorem mem_corners (some : 0 < w.count) (id : UInt64) :
    id ∈ ids w.vertexCount ↔ id ∈ (List.range w.count).flatMap w.corners := by
  unfold ids vertexCount corners
  simp only [List.mem_map, List.mem_range, List.mem_flatMap, List.mem_cons, List.not_mem_nil, or_false]
  constructor
  · rintro ⟨i, below, rfl⟩
    by_cases lower : i ≤ w.count
    · by_cases last : i = w.count
      · exact ⟨w.count - 1, by omega, .inr (.inl (congrArg _ (by omega)))⟩
      · exact ⟨i, by omega, .inl rfl⟩
    · by_cases last : i = w.count + 1 + w.count
      · exact ⟨w.count - 1, by omega, .inr (.inr (.inl (congrArg _ (by omega))))⟩
      · exact ⟨i - (w.count + 1), by omega, .inr (.inr (.inr (congrArg _ (by omega))))⟩
  · rintro ⟨face, below, rfl | rfl | rfl | rfl⟩
    · exact ⟨_, by omega, rfl⟩
    · exact ⟨_, by omega, rfl⟩
    · exact ⟨_, by omega, rfl⟩
    · exact ⟨_, by omega, rfl⟩

/-- The interface: all faces and all vertices of the patch. -/
theorem surface_ok (some : 0 < w.count) (small : 6 * (w.count + 1) < 2 ^ 64) :
    w.surface = .ok ⟨ids w.count, ids w.vertexCount, w.vertexCount⟩ := by
  have filled : Fault.require (!w.connectivity.starts.isEmpty) "!face_vertex_index.empty()"
      "face -> vertex index must have n_b_faces + 1 entries" = .ok () := by
    have starts := starts_connectivityFrom w 0 0 w.count
    rw [List.range_succ_eq_map] at starts
    unfold connectivity
    rw [starts]
    rfl
  have all := verticesOfAll_connectivity small (List.range w.count) fun face => List.mem_range.1
  have wide : w.vertexCount < 2 ^ 64 := by
    unfold vertexCount
    omega
  have sorted := Surface.sortedSet_eq (pairwise_ids wide) (mem_corners some)
  unfold surface Surface.ofFaces
  rw [filled]
  dsimp only
  rw [all]
  dsimp only
  rw [sorted, length_ids]
  rfl

/-- Arrays of a patch have room for vectors at its ids. -/
theorem within_ids {count : Nat} (small : 3 * count < 2 ^ 64) :
    Surface.Within (ids count) (3 * count) := by
  intro id member
  unfold ids at member
  obtain ⟨i, below, rfl⟩ := List.mem_map.1 member
  rw [List.mem_range] at below
  unfold Surface.firstComponent
  rw [UInt64.toNat_add, UInt64.toNat_mul, toNat_id (by omega)]
  simp
  omega

end WallPatch

/-! ## Output -/

/-- Parent arrays with room for the values of an interface. -/
structure Fits (surface : Surface) (out : Controller.ParentArrays) : Prop where
  displacement : Surface.Within surface.vertexIds out.displacement.length
  velocity : Surface.Within surface.vertexIds out.velocity.length
  force : Surface.Within surface.faceIds out.force.length

/-- Output onto such arrays is no fault and keeps their sizes. -/
theorem scatterOutput_ok {s : Session} {surface : Surface} {out : Controller.ParentArrays}
    (attached : s.surface? = some surface) (buffers : s.Sized)
    (displacement : s.displacement.length = 3 * surface.vertexCount)
    (force : s.force.length = 3 * surface.faceCount) (someFaces : 0 < surface.faceCount)
    (someVertices : 0 < surface.vertexCount) (fits : Fits surface out) :
    ∃ written out', Controller.scatterOutput s out = (.ok written, out') ∧ Fits surface out' := by
  have vertices : surface.vertexIds ≠ [] := List.ne_nil_of_length_pos someVertices
  have faces : surface.faceIds ≠ [] := List.ne_nil_of_length_pos someFaces
  have first : (surface.scatterVertices s.displacement out.displacement).1 = .ok () :=
    Surface.scatter_ok vertices displacement fits.displacement
  have second : (surface.scatterVertices s.velocity out.velocity).1 = .ok () :=
    Surface.scatter_ok vertices (buffers.velocity.trans displacement) fits.velocity
  have third : (surface.scatterFaces s.force out.force).1 = .ok () :=
    Surface.scatter_ok faces force fits.force
  unfold Controller.scatterOutput
  rw [attached]
  dsimp only
  split
  · exact ⟨false, out, rfl, fits⟩
  · rw [first, second, third]
    refine ⟨true, _, rfl, ?_, ?_, ?_⟩
    · exact (Surface.length_scatter ..).symm ▸ fits.displacement
    · exact (Surface.length_scatter ..).symm ▸ fits.velocity
    · exact (Surface.length_scatter ..).symm ▸ fits.force

/-- The arrays of a patch fit its interface. -/
theorem fits_zeroArrays {w : WallPatch} {surface : Surface} (some : 0 < w.count)
    (small : 6 * (w.count + 1) < 2 ^ 64) (h : w.surface = .ok surface) :
    Fits surface (Fluid.zeroArrays w) := by
  rw [WallPatch.surface_ok some small] at h
  obtain rfl := Except.ok.inj h
  have vertices : Surface.Within (WallPatch.ids w.vertexCount)
      (Session.zeroVectors w.vertexCount).length := by
    unfold Session.zeroVectors
    rw [List.length_replicate]
    exact WallPatch.within_ids (by unfold WallPatch.vertexCount; omega)
  refine ⟨vertices, vertices, ?_⟩
  unfold Fluid.zeroArrays Session.zeroVectors
  rw [List.length_replicate]
  exact WallPatch.within_ids (by omega)

/-- The pulsating channel works on the interface that it was made for. -/
theorem dependable_pulsatingChannel {w : WallPatch} {surface : Surface} (some : 0 < w.count)
    (small : 6 * (w.count + 1) < 2 ^ 64) (h : w.surface = .ok surface) :
    Dependable (fun c : PulsatingChannel => c.surface = surface ∧
      c.wallDisplacement.length = 3 * w.vertexCount) surface.vertexCount := by
  rw [WallPatch.surface_ok some small] at h
  obtain rfl := Except.ok.inj h
  refine ⟨fun s run buffer c sound => ⟨rfl, sound⟩, fun s displacement c sound size => ?_,
    fun s own c => rfl⟩
  obtain ⟨same, room⟩ := sound
  have vertices : 0 < (WallPatch.ids w.vertexCount).length := by
    rw [WallPatch.length_ids]
    exact Nat.mul_pos (by decide) (Nat.succ_pos _)
  have fine : (c.surface.scatterVertices displacement c.wallDisplacement).1 = .ok () := by
    rw [same]
    refine Surface.scatter_ok (List.ne_nil_of_length_pos vertices) size ?_
    rw [room]
    exact WallPatch.within_ids (by unfold WallPatch.vertexCount; omega)
  have kept : (c.surface.scatterVertices displacement c.wallDisplacement).2.length =
      3 * w.vertexCount := (Surface.length_scatter ..).trans room
  unfold FluidSolver.imposeDisplacement PulsatingChannel.instFluidSolver
  dsimp only
  rw [fine]
  exact ⟨rfl, same, kept⟩

end Programs

end FluidStructure
