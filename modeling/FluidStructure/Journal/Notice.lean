import FluidStructure.Channel.Status
import FluidStructure.Fault
import FluidStructure.Journal.Level

/-!
# Notices

A notice is something that the library reports.  Its level and its wording are
functions on it, so the code that reports holds no text.
-/

namespace FluidStructure.Journal

open FluidStructure.Channel

/-- Everything the library and its two programs report. -/
inductive Notice where
  -- configuration
  | readingFile (file : String)
  | parametersRead (steps subIterations : Int32) (scheme : String) (tolerance step : Float)
  -- surface and session
  | surfaceMapped (faces vertices owned : Nat)
  | interfaceRegistered (faces vertices : Int64) (referenceLength : Float)
  -- applications
  | applicationsFound (count : Nat)
  | applicationFound (name type : String) (root ranks : Int32)
  | coupledWith (type name : String) (root : Int32)
  | peerMissing (type : String)
  -- life cycle
  | messagePassingAlreadyStarted
  | messagePassingStopped
  | processSetup
  | processCount (count : Int32)
  | messagePassingVersion (major minor : Nat)
  | messagePassingLibrary (name : String)
  | banner
  | starting (version : String)
  | shuttingDown
  | features
  | featureMessagePassing (major minor : Nat)
  | featureJournal (major minor patch : Nat)
  | featurePrecision (bytes : Nat)
  -- message channel
  | nameTooLong (name : String) (limit : Nat)
  | headerSendFailed (name : String) (code : Int32)
  | payloadSendFailed (name : String) (code : Int32)
  | headerReceiveFailed (name : String) (code : Int32)
  | payloadReceiveFailed (name : String) (code : Int32)
  | unexpectedMessage (name : String) (iteration count : Int32)
      (receivedName : String) (receivedIteration receivedCount : Int32)
  | endingNotDelivered (peer : Int32)
  -- coupled run
  | sendingParameters (type name : String)
  | dryRun
  | receiveFailed (name : String) (status : Status)
  | sendFailed (name : String) (status : Status)
  | stepExchanged (iteration : Int32) (fluid structural selected : Float)
  | exchangeLost
  | stepNegotiated (iteration : Int32) (step : Float)
  | disconnected (during : String) (lastStep : Int32)
  | receivingFields (first second : String)
  | forcePrediction (c1 c2 : Float)
  | displacementPrediction (subIteration : Int32) (c1 c2 c3 : Float)
  | residual (subIteration : Int32) (residual tolerance : Float) (converged : Bool)
  | stepDone (step : Int32) (time : Float) (subIterations : Int32)
  | sessionClosed (steps : Int32)
  -- fluid program
  | wallOutput (displacement force : Float)
  | fluidStep (step : Int32) (time displacement : Float)
  | coupledRunFailed (reason : Fault)
  -- structure program
  | parametersMissing
  | structureCoupled (name fluid : String) (steps subIterations : Int32) (faces vertices : Nat)
  | fluidStopped (step : Int32)
  | structureStep (step : Int32) (time displacement velocity : Float)
  | sessionNotClosed (status : Status)
  | structureFinished (time displacement : Float)
  | structurePeerFailed (reason : Fault)

namespace Notice

def level : Notice → Level
  | parametersRead .. | surfaceMapped .. | messagePassingLibrary .. | headerSendFailed ..
  | payloadSendFailed .. | headerReceiveFailed .. | payloadReceiveFailed ..
  | endingNotDelivered .. | receiveFailed .. | sendFailed .. | receivingFields ..
  | forcePrediction .. | displacementPrediction .. | wallOutput .. | structureStep .. => .debug
  | peerMissing .. | messagePassingAlreadyStarted | unexpectedMessage .. | exchangeLost
  | disconnected .. | fluidStopped .. | sessionNotClosed .. => .warn
  | nameTooLong .. | parametersMissing => .error
  | coupledRunFailed .. | structurePeerFailed .. => .critical
  | _ => .info

private def int (i : Int32) : String := Decimal.ofInt i.toInt

private def count (i : Int64) : String := Decimal.ofInt i.toInt

private def sci (places : Nat) (x : Float) : String := Decimal.scientific .minusOnly places x

private def signed (x : Float) : String := Decimal.scientific .always 6 x

/-- The wording of a notice. -/
def text : Notice → String
  | readingFile file => "Reading config file: " ++ file
  | parametersRead steps subIterations scheme tolerance step =>
    "Coupling parameters: " ++ int steps ++ " steps, " ++ int subIterations ++
      " sub-iterations (" ++ scheme ++ "), tol " ++ sci 3 tolerance ++ ", dt_ref " ++ sci 3 step
  | surfaceMapped faces vertices owned =>
    "Surface mapper: " ++ faces.repr ++ " faces, " ++ vertices.repr ++ " vertices (" ++
      owned.repr ++ " owned)"
  | interfaceRegistered faces vertices length =>
    "Coupling interface: " ++ count faces ++ " faces, " ++ count vertices ++
      " vertices (global), lref = " ++ sci 4 length
  | applicationsFound n => "Application registry: " ++ n.repr ++ " application(s)"
  | applicationFound name type root ranks =>
    "  " ++ name ++ " (" ++ type ++ "): root rank " ++ int root ++ ", " ++ int ranks ++ " rank(s)"
  | coupledWith type name root =>
    "Coupled with " ++ type ++ " '" ++ name ++ "' (root rank " ++ int root ++ ")"
  | peerMissing type =>
    "No matching " ++ type ++ " instance detected; dry run in coupling simulation mode"
  | messagePassingAlreadyStarted => "MPI already initialized"
  | messagePassingStopped => "MPI finalized"
  | processSetup => "MPI Configuration:"
  | processCount n => "  Number of processes: " ++ int n
  | messagePassingVersion major minor => "  MPI version: " ++ major.repr ++ "." ++ minor.repr
  | messagePassingLibrary name => "  MPI library: " ++ name
  | banner => "================================================="
  | starting version => "FSILink v" ++ version ++ " initializing..."
  | shuttingDown => "FSILink shutting down..."
  | features => "FSILink Features:"
  | featureMessagePassing major minor => "  MPI standard: " ++ major.repr ++ "." ++ minor.repr
  | featureJournal major minor patch =>
    "  spdlog: " ++ major.repr ++ "." ++ minor.repr ++ "." ++ patch.repr
  | featurePrecision bytes => "  Precision: " ++ bytes.repr ++ " bytes"
  | nameTooLong name limit =>
    "Transport: variable name '" ++ name ++ "' exceeds " ++ limit.repr ++ " characters"
  | headerSendFailed name code =>
    "Transport: header send of '" ++ name ++ "' failed (MPI error " ++ int code ++ ")"
  | payloadSendFailed name code =>
    "Transport: payload send of '" ++ name ++ "' failed (MPI error " ++ int code ++ ")"
  | headerReceiveFailed name code =>
    "Transport: header receive for '" ++ name ++ "' failed (MPI error " ++ int code ++ ")"
  | payloadReceiveFailed name code =>
    "Transport: payload receive for '" ++ name ++ "' failed (MPI error " ++ int code ++ ")"
  | unexpectedMessage name iteration n receivedName receivedIteration receivedCount =>
    "Transport: expected '" ++ name ++ "' (iteration " ++ int iteration ++ ", " ++ int n ++
      " values), received '" ++ receivedName ++ "' (iteration " ++ int receivedIteration ++ ", " ++
      int receivedCount ++ " values)"
  | endingNotDelivered peer =>
    "Transport: termination notice to rank " ++ int peer ++ " not delivered"
  | sendingParameters type name =>
    "Sending calculation parameters to " ++ type ++ " '" ++ name ++ "'"
  | dryRun => "Coupling in dry-run mode: no structural solver connected"
  | receiveFailed name status => "Receive of " ++ name ++ " failed: " ++ status.text
  | sendFailed name status => "Send of " ++ name ++ " failed: " ++ status.text
  | stepExchanged iteration fluid structural selected =>
    "Time step exchange " ++ int iteration ++ ": fluid " ++ sci 6 fluid ++ ", structure " ++
      sci 6 structural ++ ", selected " ++ sci 6 selected
  | exchangeLost =>
    "Structural solver disconnected (finished) or exchange error; " ++
      "stopping at end of next time step"
  | stepNegotiated iteration step =>
    "Coupling iteration " ++ int iteration ++ ": dt = " ++ sci 6 step
  | disconnected during lastStep =>
    "Structural solver disconnected (finished) or error during " ++ during ++
      "; stopping at end of time step " ++ int lastStep
  | receivingFields first second => "Receiving " ++ first ++ " and " ++ second
  | forcePrediction c1 c2 =>
    "Force prediction: c1 = " ++ Decimal.shortest c1 ++ ", c2 = " ++ Decimal.shortest c2
  | displacementPrediction subIteration c1 c2 c3 =>
    "Displacement prediction (sub-iteration " ++ int subIteration ++ "): c1 = " ++
      Decimal.shortest c1 ++ ", c2 = " ++ Decimal.shortest c2 ++ ", c3 = " ++ Decimal.shortest c3
  | residual subIteration value tolerance converged =>
    "Sub-iteration " ++ int subIteration ++ ": residual " ++ sci 4 value ++ " (tolerance " ++
      sci 2 tolerance ++ ")" ++ (if converged then ", converged" else "")
  | stepDone step time subIterations =>
    "Time step " ++ int step ++ " (t = " ++ sci 6 time ++ "): " ++ int subIterations ++
      " sub-iteration(s)"
  | sessionClosed steps => "Coupling session closed after " ++ int steps ++ " time step(s)"
  | wallOutput displacement force =>
    "Output: wall displacement " ++ sci 6 displacement ++ ", face force " ++ sci 6 force
  | fluidStep step time displacement =>
    "Step " ++ Decimal.padded 4 step.toInt ++ "  t = " ++ sci 4 time ++
      "  mean wall displacement = " ++ signed displacement
  | coupledRunFailed reason => "Coupled run failed: " ++ reason.message
  | parametersMissing => "Calculation parameters not received from fluid solver"
  | structureCoupled name fluid steps subIterations faces vertices =>
    "Structure '" ++ name ++ "' coupled to '" ++ fluid ++ "': " ++ int steps ++ " steps, " ++
      int subIterations ++ " sub-iteration(s), " ++ faces.repr ++ " faces, " ++
      vertices.repr ++ " vertices"
  | fluidStopped step => "Fluid solver stopped exchanging at time step " ++ int step
  | structureStep step time displacement velocity =>
    "Step " ++ Decimal.padded 4 step.toInt ++ "  t = " ++ sci 4 time ++ "  x = " ++
      signed displacement ++ "  v = " ++ signed velocity
  | sessionNotClosed status =>
    "Fluid solver did not close the session (" ++ status.text ++ ")"
  | structureFinished time displacement =>
    "Structure finished at t = " ++ sci 4 time ++ ", x = " ++ signed displacement
  | structurePeerFailed reason => "Structural peer failed: " ++ reason.message

end Notice

end FluidStructure.Journal
