import FluidStructure.Proofs.Coupling.Stages

/-!
# Sizes of the buffers

The buffers of one kind have one size from the registration on, so that no stage faults for
want of room.
-/

namespace FluidStructure.Coupling

namespace Session

/-- The buffers of each kind have one size. -/
structure Sized (s : Session) : Prop where
  predictedDisplacement : s.predictedDisplacement.length = s.displacement.length
  velocity : s.velocity.length = s.displacement.length
  previousVelocity : s.previousVelocity.length = s.displacement.length
  previousForce : s.previousForce.length = s.force.length
  predictedForce : s.predictedForce.length = s.force.length

theorem sized_attach (s : Session) (surface : Surface) (length : Float) (faces vertices : Int64) :
    (s.attach surface length faces vertices).Sized := ⟨rfl, rfl, rfl, rfl, rfl⟩

theorem Sized.savePrevious {s : Session} (h : s.Sized) : s.savePrevious.Sized :=
  { h with
    previousVelocity := h.velocity
    previousForce := rfl }

/-- Forces of another content. -/
theorem Sized.overwriteForce {s : Session} (h : s.Sized) (values : List Float) :
    ({ s with force := overwrite s.force values } : Session).Sized :=
  { h with
    previousForce := h.previousForce.trans (length_overwrite _ _).symm
    predictedForce := h.predictedForce.trans (length_overwrite _ _).symm }

/-- A movement of another content. -/
theorem Sized.overwriteMotion {s : Session} (h : s.Sized) (displacement velocity : List Float) :
    ({ s with
      displacement := overwrite s.displacement displacement
      velocity := overwrite s.velocity velocity } : Session).Sized := by
  have same := length_overwrite s.displacement displacement
  exact { h with
    predictedDisplacement := h.predictedDisplacement.trans same.symm
    velocity := (length_overwrite _ _).trans (h.velocity.trans same.symm)
    previousVelocity := h.previousVelocity.trans same.symm }

end Session

namespace Prediction

theorem combine2_ok {k : Coefficients} {out a b : List Float} (h : a.length = out.length)
    (l : b.length = out.length) : combine2 k out a b = .ok (List.zipWith k.two a b) := by
  unfold combine2 Fault.require
  rw [h, l]
  simp

theorem combine3_ok {k : Coefficients} {out a b d : List Float} (h : a.length = out.length)
    (l : b.length = out.length) (m : d.length = out.length) :
    combine3 k out a b d =
      .ok (List.zipWith (fun f x => f x) (List.zipWith k.three a b) d) := by
  unfold combine3 Fault.require
  rw [h, l, m]
  simp

variable {s : Session}

/-- The forces that are sent. -/
def nextForces (s : Session) : List Float :=
  List.zipWith forceCoefficients.two s.force s.previousForce

/-- The displacement that is imposed: extrapolated at first, relaxed later. -/
def nextDisplacement (s : Session) : List Float :=
  if s.subIteration = 0 then
    List.zipWith (fun f x => f x)
      (List.zipWith (extrapolation s.dt s.previousDt).three s.displacement s.velocity)
      s.previousVelocity
  else List.zipWith relaxed.two s.displacement s.predictedDisplacement

theorem forces_eq (h : s.Sized) : forces s = .ok { s with predictedForce := nextForces s } := by
  unfold forces
  rw [combine2_ok h.predictedForce.symm (h.previousForce.trans h.predictedForce.symm)]
  rfl

theorem displacement_eq (h : s.Sized) :
    displacement s = .ok { s with predictedDisplacement := nextDisplacement s } := by
  unfold displacement nextDisplacement displacementCoefficients
  dsimp only
  by_cases first : s.subIteration = 0
  · rw [if_pos first, if_pos first, if_pos first,
      combine3_ok h.predictedDisplacement.symm (h.velocity.trans h.predictedDisplacement.symm)
        (h.previousVelocity.trans h.predictedDisplacement.symm)]
    rfl
  · rw [if_neg first, if_neg first, if_neg first, combine2_ok h.predictedDisplacement.symm rfl]
    rfl

theorem length_nextForces (h : s.Sized) : (nextForces s).length = s.force.length := by
  unfold nextForces
  rw [List.length_zipWith, h.previousForce, Nat.min_self]

theorem length_nextDisplacement (h : s.Sized) :
    (nextDisplacement s).length = s.displacement.length := by
  unfold nextDisplacement
  split
  · rw [List.length_zipWith, List.length_zipWith, h.velocity, h.previousVelocity, Nat.min_self,
      Nat.min_self]
  · rw [List.length_zipWith, h.predictedDisplacement, Nat.min_self]

theorem forces_ok (h : s.Sized) :
    ∃ predicted, ({ s with predictedForce := predicted } : Session).Sized ∧
      forces s = .ok { s with predictedForce := predicted } :=
  ⟨nextForces s, { h with predictedForce := length_nextForces h }, forces_eq h⟩

theorem displacement_ok (h : s.Sized) :
    ∃ predicted, ({ s with predictedDisplacement := predicted } : Session).Sized ∧
      displacement s = .ok { s with predictedDisplacement := predicted } :=
  ⟨nextDisplacement s, { h with predictedDisplacement := length_nextDisplacement h },
    displacement_eq h⟩

end Prediction

namespace Convergence

/-- The sizes are right, so that only the reference length matters. -/
theorem checkOperands_of_sized {s : Session} (h : s.Sized) :
    checkOperands s.displacement s.predictedDisplacement s.referenceLength =
      Fault.require (0.0 < s.referenceLength) "lref > 0.0" "reference length must be positive" := by
  unfold checkOperands Fault.require
  rw [h.predictedDisplacement, decide_eq_true rfl]
  rfl

end Convergence

namespace Controller

/-- The staging buffers have the size of the buffers of the session. -/
structure Sized (c : Controller) : Prop where
  buffers : c.session.Sized
  staging : c.displacementStaging.length = c.session.displacement.length

end Controller

end FluidStructure.Coupling
