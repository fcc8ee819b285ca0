import FluidStructure.Coupling.RunControl
import FluidStructure.Coupling.Session

/-!
# Fluid solvers
-/

namespace FluidStructure.Coupling

/-- What a coupled run needs of a fluid solver.  The solver has a state of its own; each
operation may fault. -/
class FluidSolver (φ : Type) where
  /-- Writes the interface forces into a buffer, three components per face. -/
  computeForces : Session → RunControl → List Float → φ → (Except Fault Unit × List Float) × φ
  /-- Takes over the predicted displacement, three components per vertex. -/
  imposeDisplacement : Session → List Float → φ → Except Fault Unit × φ
  /-- Has the structure side converged?  By default the fluid decides alone. -/
  peerConvergence : Session → Bool → φ → Except Fault Bool × φ :=
    fun _ converged fluid => (.ok converged, fluid)

end FluidStructure.Coupling
