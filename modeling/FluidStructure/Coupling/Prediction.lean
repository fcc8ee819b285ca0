import FluidStructure.Coupling.Surroundings

/-!
# Prediction of forces and displacements

Forces are extrapolated from the last two values.  Displacements are extrapolated from
the velocity on the first sub-iteration of a step and relaxed against the former
prediction on the later ones.  All of it is one kernel: a linear combination, element by
element.
-/

namespace FluidStructure.Coupling

open FluidStructure.Journal

/-- Coefficients of a linear combination. -/
structure Coefficients where
  c1 : Float := 0.0
  c2 : Float := 0.0
  c3 : Float := 0.0

namespace Coefficients

/-- Combines two values. -/
def two (c : Coefficients) (a b : Float) : Float := c.c1 * a + c.c2 * b

/-- Combines three values, from left to right. -/
def three (c : Coefficients) (a b d : Float) : Float := c.c1 * a + c.c2 * b + c.c3 * d

end Coefficients

namespace Prediction

def sizeFault : String := "prediction operands differ in size"

/-- Combines two buffers into a third of the same size. -/
def combine2 (c : Coefficients) (out a b : List Float) : Except Fault (List Float) :=
  match Fault.require (a.length = out.length && b.length = out.length)
      "a.size() == out.size() && b.size() == out.size()" sizeFault with
  | .error fault => .error fault
  | .ok () => .ok (List.zipWith c.two a b)

/-- Combines three buffers into a fourth of the same size. -/
def combine3 (c : Coefficients) (out a b d : List Float) : Except Fault (List Float) :=
  match Fault.require (a.length = out.length && b.length = out.length && d.length = out.length)
      "a.size() == out.size() && b.size() == out.size() && c.size() == out.size()" sizeFault with
  | .error fault => .error fault
  | .ok () => .ok (List.zipWith (fun f x => f x) (List.zipWith c.three a b) d)

/-! ## Forces -/

/-- Weight of the current forces. -/
def forceAlpha : Float := 2.0

def forceCoefficients : Coefficients := { c1 := forceAlpha, c2 := 1.0 - forceAlpha }

/-- The session with its predicted forces. -/
def forces (s : Session) : Except Fault Session :=
  (combine2 forceCoefficients s.predictedForce s.force s.previousForce).map fun predicted =>
    { s with predictedForce := predicted }

/-- Predicts the forces. -/
def predictForces : Act Coupling Session Coefficients := do
  let s ← Act.ofExcept (forces (← Act.get))
  Act.set s
  noteIf s.isTracing (.forcePrediction forceCoefficients.c1 forceCoefficients.c2)
  return forceCoefficients

/-! ## Displacements -/

def displacementAlpha : Float := 0.5

def displacementBeta : Float := 0.0

def relaxation : Float := 0.5

/-- Coefficients of the extrapolation from the velocities. -/
def extrapolation (dt previousDt : Float) : Coefficients where
  c1 := 1.0
  c2 := (displacementAlpha + displacementBeta) * dt
  c3 := -displacementBeta * previousDt

/-- Coefficients of the relaxation against the former prediction. -/
def relaxed : Coefficients := { c1 := relaxation, c2 := 1.0 - relaxation }

/-- The coefficients that a sub-iteration uses. -/
def displacementCoefficients (s : Session) : Coefficients :=
  if s.subIteration = 0 then extrapolation s.dt s.previousDt else relaxed

/-- The session with its predicted displacement. -/
def displacement (s : Session) : Except Fault Session :=
  let c := displacementCoefficients s
  let result :=
    if s.subIteration = 0 then
      combine3 c s.predictedDisplacement s.displacement s.velocity s.previousVelocity
    else combine2 c s.predictedDisplacement s.displacement s.predictedDisplacement
  result.map fun predicted => { s with predictedDisplacement := predicted }

/-- Predicts the displacement. -/
def predictDisplacement : Act Coupling Session Coefficients := do
  let before ← Act.get
  let c := displacementCoefficients before
  let s ← Act.ofExcept (displacement before)
  Act.set s
  noteIf s.isTracing (.displacementPrediction s.subIteration c.c1 c.c2 c.c3)
  return c

end Prediction

end FluidStructure.Coupling
