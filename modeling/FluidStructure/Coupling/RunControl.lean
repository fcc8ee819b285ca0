import FluidStructure.Fault

/-!
# Run control

Step numbers and times of the driving simulation.  A step number is taken when a step
begins; time moves on when the step is complete and its length is known.
-/

namespace FluidStructure.Coupling

/-- Where the driving simulation stands. -/
structure RunControl where
  previousStep : Int32 := 0
  currentStep : Int32 := 0
  /-- The step after which the run stops. -/
  lastStep : Int32
  previousTime : Float
  time : Float
  /-- Length of the last completed step. -/
  dt : Float := 0.0

namespace RunControl

/-- A run of so many steps from an initial time. -/
def start (steps : Int32) (time : Float) : Except Fault RunControl :=
  if steps < 0 then .error .stepLimitNegative
  else .ok { lastStep := steps, previousTime := time, time := time }

theorem start_eq_ok_iff {steps : Int32} {time : Float} {r : RunControl} :
    start steps time = .ok r ↔
      0 ≤ steps ∧ r = { lastStep := steps, previousTime := time, time := time } := by
  unfold start
  split
  · rename_i negative
    exact ⟨nofun, fun h => absurd h.1 (Int32.not_le.2 negative)⟩
  · rename_i planned
    exact ⟨fun same => ⟨Int32.not_lt.1 planned, (Except.ok.inj same).symm⟩, fun h => h.2 ▸ rfl⟩

/-- Takes the next step number. -/
def advance (r : RunControl) : RunControl :=
  { r with previousStep := r.currentStep, currentStep := r.currentStep + 1 }

/-- Moves time on by a completed step. -/
def complete (r : RunControl) (dt : Float) : RunControl :=
  { r with dt := dt, previousTime := r.time, time := r.time + dt }

/-- Makes a step the last one. -/
def scheduleStop (r : RunControl) (step : Int32) : RunControl := { r with lastStep := step }

/-- The number behind the last step.  Behind the largest number, the sum of 32 bits wraps round
to the least one. -/
def stepAfterLast (r : RunControl) : Int32 := r.lastStep + 1

/-- Lets the run stop after the step that follows the current one, unless it has passed
that point already. -/
def windDown (r : RunControl) : RunControl :=
  if r.currentStep < r.stepAfterLast then r.scheduleStop (r.currentStep + 1) else r

def isLastStep (r : RunControl) : Bool := r.lastStep ≤ r.currentStep

end RunControl

end FluidStructure.Coupling
