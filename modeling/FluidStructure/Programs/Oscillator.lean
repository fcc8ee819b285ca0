/-!
# A spring oscillator

One degree of freedom with mass, damping and stiffness.  A step from the committed state
is tried with the implicit Euler rule; only a committed trial moves the state.
-/

namespace FluidStructure.Programs

/-- Displacement and velocity. -/
structure Motion where
  x : Float
  v : Float

/-- The oscillator and the motion at the start of the step. -/
structure Oscillator where
  mass : Float := 1.0
  damping : Float := 0.0
  stiffness : Float := 1.0
  motion : Motion := ⟨0.0, 0.0⟩

namespace Oscillator

/-- The velocity after a step under a force. -/
def trialVelocity (o : Oscillator) (force dt : Float) : Float :=
  (o.mass * o.motion.v / dt + force - o.stiffness * o.motion.x) /
    (o.mass / dt + o.damping + o.stiffness * dt)

/-- The motion after a step under a force. -/
def trial (o : Oscillator) (force dt : Float) : Motion :=
  ⟨o.motion.x + dt * o.trialVelocity force dt, o.trialVelocity force dt⟩

/-- Makes a motion the one at the start of the next step. -/
def commit (o : Oscillator) (m : Motion) : Oscillator := { o with motion := m }

end Oscillator

end FluidStructure.Programs
