/-!
# Names of the exchanged values

Control values go from the fluid to the structure, the proposed step excepted.  The
values of one step are keyed by the coupling iteration.
-/

namespace FluidStructure.Channel.Variable

def maxTimeSteps : String := "NBPDTM"

def maxSubIterations : String := "NBSSIT"

def tolerance : String := "EPSILO"

def initialTime : String := "TTINIT"

def referenceTimeStep : String := "PDTREF"

/-- Step proposed by the structure. -/
def peerTimeStep : String := "DTAST"

/-- Step that both solvers use. -/
def negotiatedTimeStep : String := "DTCALC"

/-- Has the sub-iteration converged? -/
def convergence : String := "ICVAST"

def fluidForces : String := "fluid_forces"

def meshDisplacement : String := "mesh_displacement"

def meshVelocity : String := "mesh_velocity"

/-- Name of the message that ends a session. -/
def ending : String := "end"

end FluidStructure.Channel.Variable
