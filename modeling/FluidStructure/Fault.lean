import FluidStructure.Coupling.Phase
import FluidStructure.Decimal.Text
import FluidStructure.Discovery.Outcome
import FluidStructure.Text.Label

/-!
# Faults

A fault is a cause.  Its kind says what sort of mistake it is, and `wording` holds the
wording of every cause in one place.  A message is a wording up to its first zero
character.
-/

namespace FluidStructure

/-- Sorts of mistakes. -/
inductive FaultKind where
  /-- An operation was called when it is not allowed. -/
  | logic
  /-- A value handed in is not acceptable. -/
  | invalidArgument
  /-- An index lies outside its range. -/
  | outOfRange
  /-- A file could not be used. -/
  | fileAccess
  /-- The set-up of a coupled run is invalid or inconsistent. -/
  | configuration
  /-- The message-passing library reported an error. -/
  | messagePassing
  /-- None of the others. -/
  | general
deriving DecidableEq, Repr

/-- Why an operation did not complete. -/
inductive Fault where
  /-- A fault with a text of the caller's own. -/
  | raised (kind : FaultKind) (text : String)
  /-- An internal condition does not hold. -/
  | assertion (condition text : String)
  /-- A condition on the arguments does not hold. -/
  | requirement (condition text : String)
  | indexOutOfRange (index size : Nat)
  | fileAccess (operation file : String)
  | messagePassing (operation : String) (code : Int32)
  -- configuration text
  | configLine (number : Nat) (content : String)
  | valueType (owner key expected : String)
  | subsectionMissing (name : String)
  -- coupling parameters
  | parameterMissing (key : String)
  | couplingSection (reason : Fault)
  | parameterNegative (key : String) (value : Int32)
  | parameterNotPositive (key : String)
  | referenceLengthNegative
  | outputLevelNegative
  | peerTypeEmpty
  -- surface and session
  | faceOutOfRange (face count : Nat)
  | sessionReleased
  | geometryRegistered
  | referenceLength (value : Float)
  | geometryMissing
  | stepLimitNegative
  -- phases
  | wrongPhase (operation : String) (actual expected : Coupling.Phase)
  | stepNotOpen (actual : Coupling.Phase)
  -- applications
  | applicationNameTooLong (limit : Nat)
  | ambiguousPeers (count : Nat) (peerType : String)
  | structureRanks
  | fluidSolverCount (outcome : Discovery.Outcome)

namespace Fault

def kind : Fault → FaultKind
  | raised kind _ => kind
  | assertion .. | geometryMissing | wrongPhase .. | stepNotOpen .. => .logic
  | requirement .. | configLine .. | valueType .. | subsectionMissing .. | faceOutOfRange ..
  | stepLimitNegative => .invalidArgument
  | indexOutOfRange .. => .outOfRange
  | fileAccess .. => .fileAccess
  | messagePassing .. => .messagePassing
  | parameterMissing .. | couplingSection .. | parameterNegative .. | parameterNotPositive ..
  | referenceLengthNegative | outputLevelNegative | peerTypeEmpty | sessionReleased
  | geometryRegistered | referenceLength .. | applicationNameTooLong .. | ambiguousPeers ..
  | structureRanks | fluidSolverCount .. => .configuration

/-- The wording of a fault, with every text that it quotes. -/
def wording : Fault → String
  | raised _ text => text
  | assertion condition text => "Assertion failed: " ++ condition ++ ": " ++ text
  | requirement condition text => "Requirement failed: " ++ condition ++ ": " ++ text
  | indexOutOfRange index size =>
    "Index " ++ index.repr ++ " out of range [0, " ++ size.repr ++ ")"
  | fileAccess operation file => "Failed to " ++ operation ++ " file: " ++ file
  | messagePassing operation code =>
    "MPI error during " ++ operation ++ " (error code: " ++ Decimal.ofInt code.toInt ++ ")"
  | configLine number content =>
    "Config line " ++ number.repr ++ ": expected 'key: value', got '" ++ content ++ "'"
  | valueType owner key expected =>
    "Config key '" ++ owner ++ "." ++ key ++ "' does not hold a " ++ expected ++ " value"
  | subsectionMissing name => "Subsection not found: " ++ name
  | parameterMissing key => "Missing coupling parameter '" ++ key ++ "'"
  | couplingSection reason => "Invalid coupling section: " ++ reason.wording
  | parameterNegative key value =>
    "coupling." ++ key ++ " must be non-negative, got " ++ Decimal.ofInt value.toInt
  | parameterNotPositive key => "coupling." ++ key ++ " must be positive"
  | referenceLengthNegative => "coupling.reference_length must not be negative"
  | outputLevelNegative => "coupling.verbosity and coupling.visualization must be >= 0"
  | peerTypeEmpty => "coupling.peer_type must not be empty"
  | faceOutOfRange face count =>
    "Coupled face id " ++ face.repr ++ " out of range [0, " ++ count.repr ++ ")"
  | sessionReleased => "Coupling session already released"
  | geometryRegistered => "Coupling geometry already registered"
  | referenceLength value =>
    "Coupling reference length must be positive, got " ++ Decimal.fixed 6 value
  | geometryMissing => "Coupling geometry must be registered before initialization"
  | stepLimitNegative => "Maximum number of time steps must be non-negative"
  | wrongPhase operation actual expected =>
    operation ++ " called in state " ++ actual.name ++ " (expected " ++ expected.name ++ ")"
  | stepNotOpen actual => "end_time_step called in state " ++ actual.name
  | applicationNameTooLong limit =>
    "Application type and name are limited to " ++ limit.repr ++ " characters"
  | ambiguousPeers count peerType =>
    "Detected " ++ count.repr ++ " " ++ peerType ++ " instances; can handle exactly 1"
  | structureRanks => "spring_structure_peer runs on exactly one rank"
  | fluidSolverCount outcome =>
    "Expected exactly one fluid solver, found " ++ outcome.name

/-- What is told about a fault. -/
def message (f : Fault) : String := Text.untilZero f.wording

/-- Checks a condition on arguments. -/
def require (holds : Bool) (condition text : String) : Except Fault Unit :=
  if holds then .ok () else .error (.requirement condition text)

/-- Checks an internal condition. -/
def assert (holds : Bool) (condition text : String) : Except Fault Unit :=
  if holds then .ok () else .error (.assertion condition text)

/-- Checks that an index lies below a size. -/
def checkRange (index size : Nat) : Except Fault Unit :=
  if index < size then .ok () else .error (.indexOutOfRange index size)

theorem require_ok_iff {holds : Bool} {condition text : String} :
    require holds condition text = .ok () ↔ holds = true := by
  cases holds <;> simp [require]

theorem checkRange_ok_iff {index size : Nat} : checkRange index size = .ok () ↔ index < size := by
  simp [checkRange]

end Fault

end FluidStructure
