import FluidStructure.Coupling.Parameters
import FluidStructure.Discovery.Matching
import FluidStructure.Surface.Interface

/-!
# The coupling session

The state of one coupled run: parameters, peer, the attached interface, seven history
buffers, the iteration counters, the steps, and the convergence flags.  Displacements
and velocities have three components per vertex, forces three per face.
-/

namespace FluidStructure.Coupling

open FluidStructure.Discovery

/-- State of one coupled run. -/
structure Session where
  parameters : Parameters
  peer : Peer
  /-- The interface, from its registration until the release. -/
  surface? : Option Surface := none
  released : Bool := false
  faceCount : Nat := 0
  vertexCount : Nat := 0
  /-- Faces of all ranks. -/
  globalFaces : Int64 := 0
  /-- Vertices of all ranks, each counted by its owner. -/
  globalVertices : Int64 := 0
  referenceLength : Float := 0.0
  displacement : List Float := []
  predictedDisplacement : List Float := []
  velocity : List Float := []
  previousVelocity : List Float := []
  force : List Float := []
  previousForce : List Float := []
  predictedForce : List Float := []
  /-- 0 before the first step, positive in a step, negative once the peer is gone. -/
  iteration : Int32 := 0
  subIteration : Int32 := 0
  dt : Float
  previousDt : Float
  localConvergence : Bool := false
  globalConvergence : Bool := false

namespace Session

/-- A session without an interface.  Both steps start at the reference step. -/
def new (parameters : Parameters) (peer : Peer) : Session :=
  { parameters, peer, dt := parameters.referenceStep, previousDt := parameters.referenceStep }

def isRegistered (s : Session) : Bool := s.surface?.isSome

/-- Without a peer the run is dry. -/
def isDryRun (s : Session) : Bool := !s.peer.found

def isImplicit (s : Session) : Bool := s.parameters.isImplicit

def isTerminated (s : Session) : Bool := s.iteration < 0

/-- Peer found and not gone. -/
def isConnected (s : Session) : Bool := !s.isDryRun && !s.isTerminated

/-- Are step summaries wanted? -/
def isVerbose (s : Session) : Bool := 0 < s.parameters.verbosity

/-- Are traces of the exchanges wanted? -/
def isTracing (s : Session) : Bool := 1 < s.parameters.verbosity

/-- A buffer of zero vectors. -/
def zeroVectors (count : Nat) : List Float := List.replicate (3 * count) 0.0

/-- Notes the sizes of an interface that is about to be attached. -/
def sized (s : Session) (surface : Surface) : Session :=
  { s with faceCount := surface.faceCount, vertexCount := surface.vertexCount }

/-- Attaches an interface: counts, zeroed buffers and the reference length. -/
def attach (s : Session) (surface : Surface) (length : Float) (faces vertices : Int64) :
    Session :=
  { s.sized surface with
    surface? := some surface
    globalFaces := faces
    globalVertices := vertices
    referenceLength := length
    displacement := zeroVectors surface.vertexCount
    predictedDisplacement := zeroVectors surface.vertexCount
    velocity := zeroVectors surface.vertexCount
    previousVelocity := zeroVectors surface.vertexCount
    force := zeroVectors surface.faceCount
    previousForce := zeroVectors surface.faceCount
    predictedForce := zeroVectors surface.faceCount }

/-- May an interface be attached with this reference length? -/
def checkRegistration (s : Session) (length : Float) : Except Fault Unit :=
  if s.released then .error .sessionReleased
  else if s.isRegistered then .error .geometryRegistered
  else if length ≤ 0.0 then .error (.referenceLength length)
  else .ok ()

/-- Frees the buffers and lets go of the interface.  A released session stays released. -/
def release (s : Session) : Session :=
  if s.released then s
  else
    { s with
      surface? := none
      released := true
      displacement := []
      predictedDisplacement := []
      velocity := []
      previousVelocity := []
      force := []
      previousForce := []
      predictedForce := [] }

/-- Keeps the current forces and velocities as the previous ones. -/
def savePrevious (s : Session) : Session :=
  { s with previousForce := s.force, previousVelocity := s.velocity }

/-- The peer is gone. -/
def terminate (s : Session) : Session := { s with iteration := -1 }

def resetSubIterations (s : Session) : Session := { s with subIteration := 0 }

def nextSubIteration (s : Session) : Session := { s with subIteration := s.subIteration + 1 }

/-- Records a step; the former one becomes the previous step. -/
def setDt (s : Session) (dt : Float) : Session := { s with previousDt := s.dt, dt := dt }

/-- The history buffers. -/
inductive Buffer where
  | displacement
  | predictedDisplacement
  | velocity
  | previousVelocity
  | force
  | previousForce
  | predictedForce
deriving DecidableEq, Repr

def Buffer.all : List Buffer :=
  [.displacement, .predictedDisplacement, .velocity, .previousVelocity, .force, .previousForce,
    .predictedForce]

/-- The content of a buffer. -/
def buffer (s : Session) : Buffer → List Float
  | .displacement => s.displacement
  | .predictedDisplacement => s.predictedDisplacement
  | .velocity => s.velocity
  | .previousVelocity => s.previousVelocity
  | .force => s.force
  | .previousForce => s.previousForce
  | .predictedForce => s.predictedForce

/-- Writes values to the front of a buffer; its size stays. -/
def writeBuffer (s : Session) (b : Buffer) (values : List Float) : Session :=
  let content := overwrite (s.buffer b) values
  match b with
  | .displacement => { s with displacement := content }
  | .predictedDisplacement => { s with predictedDisplacement := content }
  | .velocity => { s with velocity := content }
  | .previousVelocity => { s with previousVelocity := content }
  | .force => { s with force := content }
  | .previousForce => { s with previousForce := content }
  | .predictedForce => { s with predictedForce := content }

theorem length_buffer_writeBuffer (s : Session) (b c : Buffer) (values : List Float) :
    ((s.writeBuffer b values).buffer c).length = (s.buffer c).length := by
  cases b <;> cases c <;> simp [writeBuffer, buffer, length_overwrite]

theorem released_release (s : Session) : s.release.released = true := by
  unfold release
  split
  · assumption
  · rfl

end Session

end FluidStructure.Coupling
