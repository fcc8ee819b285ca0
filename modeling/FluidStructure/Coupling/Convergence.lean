import FluidStructure.Coupling.Surroundings

/-!
# Convergence of the sub-iterations

The residual is the root mean square distance between two displacement fields over all
partitions, relative to the reference length.  A vertex that several partitions hold
counts once for each of them.
-/

namespace FluidStructure.Coupling.Convergence

open FluidStructure.Journal

/-- Sum of the squared differences, from left to right. -/
def squaredDistance (a b : List Float) : Float :=
  (List.zipWith (fun x y => x - y) a b).foldl (fun sum d => sum + d * d) 0.0

/-- The residual of fields with some squared distance and some number of points. -/
def residualOf (squared points length : Float) : Float :=
  if points ≤ 0.0 then 0.0 else Float.sqrt (squared / points) / length

/-- The residual of two fields over the local group. -/
def relativeResidual {σ : Type} (a b : List Float) (length : Float) : Act Coupling σ Float := do
  Act.ofExcept (Fault.require (a.length = b.length) "a.size() == b.size()"
    "residual operands differ in size")
  Act.ofExcept (Fault.require (0.0 < length) "lref > 0.0" "reference length must be positive")
  let sums ← sumReals [squaredDistance a b, Float.ofNat (a.length / 3)]
  return residualOf (sums.headD 0.0) (sums[1]?.getD 0.0) length

/-- A session together with the residual of its last evaluation. -/
structure Evaluated where
  session : Session
  lastResidual : Float := 0.0

/-- Decides whether the fluid side has converged.  Explicit coupling always has and needs no
residual; implicit coupling compares the received displacement with the prediction. -/
def evaluate (place : Parallel.Place) : Act Coupling Evaluated Bool := do
  let s := (← Act.get).session
  if !s.isImplicit then
    Act.modify fun e => { e with session := { e.session with localConvergence := true } }
    return true
  else
    let residual ← relativeResidual s.displacement s.predictedDisplacement s.referenceLength
    let converged := decide (residual ≤ s.parameters.tolerance)
    Act.set ⟨{ s with localConvergence := converged }, residual⟩
    noteIf (place.isRoot && s.isVerbose)
      (.residual s.subIteration residual s.parameters.tolerance converged)
    return converged

end FluidStructure.Coupling.Convergence
