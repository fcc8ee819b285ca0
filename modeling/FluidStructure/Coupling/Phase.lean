/-!
# Phases of a coupled run

A run is uninitialized, then active between steps; a step first negotiates its
length, then sub-iterates until it is done; after the last step the run is
terminating, and a finished run is closed.
-/

namespace FluidStructure.Coupling

/-- Where a coupled run stands. -/
inductive Phase where
  | uninitialized
  | active
  | negotiating
  | subIterating
  | stepDone
  | terminating
  | closed
deriving DecidableEq, Repr

namespace Phase

def all : List Phase :=
  [.uninitialized, .active, .negotiating, .subIterating, .stepDone, .terminating, .closed]

def name : Phase → String
  | .uninitialized => "Uninitialized"
  | .active => "Active"
  | .negotiating => "NegotiatingDt"
  | .subIterating => "SubIterating"
  | .stepDone => "StepDone"
  | .terminating => "Terminating"
  | .closed => "Closed"

end Phase

end FluidStructure.Coupling
