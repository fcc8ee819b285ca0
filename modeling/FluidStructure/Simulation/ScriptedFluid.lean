import FluidStructure.Coupling.FluidSolver

/-!
# A scripted fluid solver

Gives out listed forces and decisions call by call, the last one again and again, and
remembers every displacement that it was given.
-/

namespace FluidStructure.Simulation

open FluidStructure.Coupling

/-- Scripted forces and decisions, and what was asked so far. -/
structure ScriptedFluid where
  forces : List (List Float) := []
  /-- This call for forces faults; calls count from one. -/
  faultAt? : Option Nat := none
  /-- Decisions of the structure side; none leaves it to the fluid. -/
  decisions : List (Option Bool) := []
  forceCalls : Nat := 0
  decisionCalls : Nat := 0
  imposed : List (List Float) := []

namespace ScriptedFluid

/-- The entry for a call, counted from one; the last entry serves all later calls. -/
def entryFor {α : Type} (entries : List α) (call : Nat) : Option α :=
  match entries[call - 1]? with
  | some entry => some entry
  | none => entries.getLast?

instance : FluidSolver ScriptedFluid where
  computeForces _ _ buffer fluid :=
    let fluid := { fluid with forceCalls := fluid.forceCalls + 1 }
    if fluid.faultAt? = some fluid.forceCalls then
      ((.error (.raised .invalidArgument "hook failure"), buffer), fluid)
    else
      ((.ok (), overwrite buffer ((entryFor fluid.forces fluid.forceCalls).getD [])),
        fluid)
  imposeDisplacement _ displacement fluid :=
    (.ok (), { fluid with imposed := fluid.imposed ++ [displacement] })
  peerConvergence _ converged fluid :=
    let fluid := { fluid with decisionCalls := fluid.decisionCalls + 1 }
    (.ok (((entryFor fluid.decisions fluid.decisionCalls).join).getD converged), fluid)

end ScriptedFluid

end FluidStructure.Simulation
