import FluidStructure.Programs.Structure
import FluidStructure.Proofs.Programs.Wall
import FluidStructure.Proofs.Surface.LastWriter
import FluidStructure.Surface.Strip

/-!
# Strips and wall patches

A strip numbers the vertices of its faces at once, a wall patch face by face.  Both have the same
connectivity, and so the same interface, with all ids from zero on.  Its vertices are as many as the
structure program counts for each fluid rank, and along its ids nothing moves: scattering copies.
-/

namespace FluidStructure

namespace Surface

/-! ## Scattering along all ids -/

section Consecutive

variable {count : Nat} {values before after out : List Float}

theorem toNat_consecutive (small : 3 * count < 2 ^ 64) {i : Nat} (h : i < count) :
    ((List.range count).map UInt64.ofNat)[i]?.map UInt64.toNat = some i := by
  rw [List.getElem?_map, List.getElem?_range h, Option.map_some, Option.map_some,
    Programs.WallPatch.toNat_id (by omega)]

/-- Each id is used once, at its own index. -/
theorem lastUse_consecutive (small : 3 * count < 2 ^ 64) {i : Nat} (h : i < count) :
    LastUse ((List.range count).map UInt64.ofNat) count i i := by
  refine ⟨⟨h, toNat_consecutive small h⟩, fun j used => ?_⟩
  obtain ⟨below, same⟩ := used
  rw [toNat_consecutive small below] at same
  exact Nat.le_of_eq (Option.some.inj same)

theorem Filled.eq_values (small : 3 * count < 2 ^ 64)
    (filled : Filled ((List.range count).map UInt64.ofNat) values before count after)
    (size : values.length = 3 * count) (room : before.length = 3 * count) : after = values := by
  refine List.ext_getElem? fun place => ?_
  by_cases inside : place < 3 * count
  · have last := lastUse_consecutive small (i := place / 3) (by omega)
    have same := filled.used _ _ last ⟨place % 3, Nat.mod_lt _ (by decide)⟩
    rwa [Nat.div_add_mod] at same
  · have long := filled.size
    rw [List.getElem?_eq_none (by omega), List.getElem?_eq_none (by omega)]

/-- Along all ids of an array the values are copied. -/
theorem scatter_consecutive (some : 0 < count) (small : 3 * count < 2 ^ 64)
    (size : values.length = 3 * count) (room : out.length = 3 * count) :
    scatter ((List.range count).map UInt64.ofNat) values out = (.ok (), values) := by
  have length : ((List.range count).map UInt64.ofNat).length = count := by
    rw [List.length_map, List.length_range]
  have words : UInt64.size = 2 ^ 64 := rfl
  have places : ∀ id ∈ (List.range count).map UInt64.ofNat, lastPlace id < 3 * count := by
    intro id member
    obtain ⟨i, below, rfl⟩ := List.mem_map.1 member
    rw [List.mem_range] at below
    unfold lastPlace
    rw [Programs.WallPatch.toNat_id (by omega)]
    omega
  have all : firstWithoutRoom out.length ((List.range count).map UInt64.ofNat) = count := by
    refine (List.findIdx_eq_length.2 fun id member => ?_).trans length
    unfold hasRoom
    rw [room, decide_eq_true (places id member), Bool.not_true]
  obtain ⟨filled, -, fine⟩ := @scatter_filled_of_checkable _ values out
    (List.ne_nil_of_length_pos (length.symm ▸ some)) (by rw [length, size]; omega)
    fun id member => .inl (by have := places id member; omega)
  rw [all] at filled fine
  exact Prod.ext (fine length.symm) (filled.eq_values small size room)

end Consecutive

end Surface

namespace Programs

namespace WallPatch

/-! ## One connectivity -/

theorem corners_eq (w : WallPatch) (face : Nat) :
    w.corners face = Surface.stripCorners w.count face := by
  have upper : w.count + 2 + face = w.count + 1 + face + 1 := by omega
  unfold corners
  rw [upper]
  rfl

theorem connectivity_eq (w : WallPatch) : w.connectivity = Surface.stripConnectivity w.count := by
  refine congrArg₂ Surface.Connectivity.mk ((starts_connectivityFrom w 0 0 w.count).trans ?_)
    ((vertices_connectivityFrom w 0 0 w.count).trans ?_)
  · refine List.map_congr_left fun i _ => ?_
    rw [Nat.zero_add]
  · refine congrArg (List.flatMap · _) ?_
    funext i
    rw [Nat.zero_add, corners_eq]

/-- A patch of any number of faces is a strip. -/
theorem surface_eq_strip (w : WallPatch) : w.surface = Surface.strip w.count := by
  unfold surface Surface.strip
  rw [connectivity_eq]
  rfl

end WallPatch

/-- A strip and a wall patch of as many faces have the same interface: all faces, and all vertices without
a gap, as many as the structure program counts for each fluid rank.  Values for its vertices or faces
are copied onto a parent array of their size. -/
theorem strips_agree {n : Nat} (some : 1 ≤ n) (small : 6 * (n + 1) < 2 ^ 64) :
    ∃ s, Surface.strip n = .ok s ∧ WallPatch.surface ⟨n⟩ = .ok s ∧
      s.faceIds = (List.range n).map UInt64.ofNat ∧
      s.vertexIds = (List.range (2 * (n + 1))).map UInt64.ofNat ∧
      s.vertexCount = WallPatch.vertexCount ⟨n⟩ ∧ WallPatch.vertexCount ⟨n⟩ = 2 * (n + 1) ∧
      s.ownedVertices = s.vertexCount ∧
      (∀ fluid ranks proposedStep,
        (Structure.Layout.facing fluid ranks n proposedStep).faces = ranks * s.faceCount ∧
        (Structure.Layout.facing fluid ranks n proposedStep).vertices = ranks * s.vertexCount) ∧
      (∀ values out : List Float, values.length = 3 * s.vertexCount →
        out.length = 3 * s.vertexCount → s.scatterVertices values out = (.ok (), values)) ∧
      ∀ values out : List Float, values.length = 3 * s.faceCount →
        out.length = 3 * s.faceCount → s.scatterFaces values out = (.ok (), values) := by
  have made : WallPatch.surface ⟨n⟩ =
      .ok ⟨WallPatch.ids n, WallPatch.ids (2 * (n + 1)), 2 * (n + 1)⟩ := WallPatch.surface_ok some small
  have faces := WallPatch.length_ids n
  have vertices := WallPatch.length_ids (2 * (n + 1))
  refine ⟨_, (WallPatch.surface_eq_strip ⟨n⟩).symm.trans made, made, rfl, rfl, vertices, rfl, vertices.symm,
    fun fluid ranks proposedStep => ⟨?_, ?_⟩, fun values out size room => ?_, fun values out size room => ?_⟩
  · exact congrArg (ranks * ·) faces.symm
  · exact (Nat.mul_assoc ranks 2 (n + 1)).trans (congrArg (ranks * ·) vertices.symm)
  · unfold Surface.vertexCount at size room
    rw [vertices] at size room
    exact Surface.scatter_consecutive (by omega) (by omega) size room
  · unfold Surface.faceCount at size room
    rw [faces] at size room
    exact Surface.scatter_consecutive some (by omega) size room

/-- A strip of more faces than a word of 32 bits counts. -/
theorem strips_agree_wide :
    1 ≤ 5000000000 ∧ 6 * (5000000000 + 1) < 2 ^ 64 ∧
      ∃ s, Surface.strip 5000000000 = .ok s ∧ WallPatch.surface ⟨5000000000⟩ = .ok s ∧
        s.vertexCount = 10000000002 := by
  obtain ⟨s, strip, patch, -, -, count, -⟩ := @strips_agree 5000000000 (by decide) (by decide)
  exact ⟨by decide, by decide, s, strip, patch, count⟩

end Programs

end FluidStructure
