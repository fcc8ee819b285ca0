import FluidStructure.Config.Section
import FluidStructure.Journal.Notice

/-!
# Coupling parameters

The parameters of a coupled run, what makes them acceptable, and how they are taken
from a configuration.  They stand in the `coupling` subsection, or in the section
itself if it has no such subsection.
-/

namespace FluidStructure.Coupling

open FluidStructure.Config FluidStructure.Journal

/-- One exchange per time step, or sub-iterations until the interface converges. -/
inductive Scheme where
  | explicit
  | implicit
deriving DecidableEq, Repr

namespace Scheme

def all : List Scheme := [.explicit, .implicit]

def name : Scheme → String
  | .explicit => "Explicit"
  | .implicit => "Implicit"

end Scheme

/-- Parameters of a coupled run. -/
structure Parameters where
  maxTimeSteps : Int32 := 0
  maxSubIterations : Int32 := 1
  tolerance : Float := 1.0e-5
  initialTime : Float := 0.0
  referenceStep : Float := 0.0
  referenceLength : Float := 0.0
  verbosity : Int32 := 1
  visualization : Int32 := 1
  peerType : String := "structure"

namespace Parameters

/-- More than one sub-iteration makes the coupling implicit. -/
def scheme (p : Parameters) : Scheme := if 1 < p.maxSubIterations then .implicit else .explicit

def isImplicit (p : Parameters) : Bool := p.scheme = .implicit

/-- Checks the parameters one after the other and reports the first that is wrong.  A
value that is no number is never positive. -/
def validate (p : Parameters) : Except Fault Unit :=
  if p.maxTimeSteps < 0 then
    .error (.parameterNegative "max_time_steps" p.maxTimeSteps)
  else if p.maxSubIterations < 0 then
    .error (.parameterNegative "max_sub_iterations" p.maxSubIterations)
  else if !(0.0 < p.tolerance) then .error (.parameterNotPositive "tolerance")
  else if !(0.0 < p.referenceStep) then .error (.parameterNotPositive "reference_time_step")
  else if p.referenceLength < 0.0 then .error .referenceLengthNegative
  else if p.verbosity < 0 ∨ p.visualization < 0 then .error .outputLevelNegative
  else if p.peerType.isEmpty then .error .peerTypeEmpty
  else .ok ()

/-- The section that holds the parameters. -/
def home (config : Section) : Section := (config.subsections.get? "coupling").getD config

/-- Parameters without a default. -/
def mandatory : List String := ["max_time_steps", "reference_time_step"]

/-- Reads the values of a section, defaults for the missing ones. -/
def readValues (s : Section) : Except Fault Parameters := do
  let standard : Parameters := {}
  let maxTimeSteps ← s.getInt "max_time_steps" 0
  let maxSubIterations ← s.getInt "max_sub_iterations" standard.maxSubIterations
  let tolerance ← s.getReal "tolerance" standard.tolerance
  let initialTime ← s.getReal "initial_time" standard.initialTime
  let referenceStep ← s.getReal "reference_time_step" 0.0
  let referenceLength ← s.getReal "reference_length" standard.referenceLength
  let verbosity ← s.getInt "verbosity" standard.verbosity
  let visualization ← s.getInt "visualization" standard.visualization
  let peerType ← s.getText "peer_type" standard.peerType
  return { maxTimeSteps, maxSubIterations, tolerance, initialTime, referenceStep,
           referenceLength, verbosity, visualization, peerType }

/-- The validated parameters of a configuration. -/
def ofSection (config : Section) : Except Fault Parameters :=
  let s := home config
  match mandatory.find? fun key => !s.has key with
  | some key => .error (.parameterMissing key)
  | none =>
    match readValues s with
    | .error reason => .error (.couplingSection reason)
    | .ok p =>
      match p.validate with
      | .error fault => .error fault
      | .ok () => .ok p

/-- What is reported about parameters that were read. -/
def notice (p : Parameters) : Notice :=
  .parametersRead p.maxTimeSteps p.maxSubIterations p.scheme.name p.tolerance p.referenceStep

end Parameters

end FluidStructure.Coupling
