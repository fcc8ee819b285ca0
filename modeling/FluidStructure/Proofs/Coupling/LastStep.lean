import FluidStructure.Coupling.RunControl
import FluidStructure.Proofs.Counter

/-!
# The last step in run control

Winding down asks whether the current step lies before the number behind the last one.  A last step
that is full has no such number: the sum wraps round, the question is answered in the negative, and
run control stays as it is.
-/

namespace FluidStructure.Coupling.RunControl

variable {r : RunControl}

theorem lt_stepAfterLast_iff : r.currentStep < r.stepAfterLast ↔
    r.lastStep < Int32.maxValue ∧ r.currentStep ≤ r.lastStep := by
  unfold stepAfterLast
  by_cases full : r.lastStep = Int32.maxValue
  · rw [full, maxValue_add_one]
    exact iff_of_false (not_lt_minValue _) fun within => Int32.lt_irrefl within.1
  · rw [lt_add_one_iff full]
    exact (and_iff_right (lt_maxValue_iff.2 full)).symm

/-- Winding down makes the step behind the current one the last, unless the run has passed its last
step or the last step is full. -/
theorem windDown_eq (r : RunControl) : r.windDown =
    if r.lastStep < Int32.maxValue ∧ r.currentStep ≤ r.lastStep then
      r.scheduleStop (r.currentStep + 1) else r := by
  unfold windDown
  simp only [lt_stepAfterLast_iff]

theorem windDown_of_le (room : r.lastStep < Int32.maxValue) (within : r.currentStep ≤ r.lastStep) :
    r.windDown = r.scheduleStop (r.currentStep + 1) := by
  rw [windDown_eq, if_pos ⟨room, within⟩]

theorem windDown_of_full (full : r.lastStep = Int32.maxValue) : r.windDown = r := by
  rw [windDown_eq, full]
  exact if_neg fun within => Int32.lt_irrefl within.1

theorem currentStep_windDown (r : RunControl) : r.windDown.currentStep = r.currentStep := by
  unfold windDown
  split <;> rfl

theorem notFull_of_le (room : r.lastStep < Int32.maxValue) (within : r.currentStep ≤ r.lastStep) :
    r.currentStep ≠ Int32.maxValue := by
  intro full
  rw [full] at within
  exact Int32.not_lt.2 within room

/-- The number behind the current step becomes the last one exactly if the run has not passed its
last step. -/
theorem lastStep_windDown (room : r.lastStep < Int32.maxValue) :
    r.windDown.lastStep.toInt = r.currentStep.toInt + 1 ↔ r.currentStep ≤ r.lastStep := by
  by_cases within : r.currentStep ≤ r.lastStep
  · rw [windDown_of_le room within]
    exact iff_of_true (toInt_add_one (notFull_of_le room within)) within
  · rw [windDown_eq, if_neg fun h => within h.2]
    refine iff_of_false ?_ within
    rw [Int32.le_iff_toInt_le] at within
    omega

end FluidStructure.Coupling.RunControl
