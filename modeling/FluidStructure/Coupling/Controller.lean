import FluidStructure.Coupling.Convergence
import FluidStructure.Coupling.Prediction
import FluidStructure.Coupling.Registration
import FluidStructure.Coupling.TimeStep

/-!
# The session controller

Sequences the time steps and sub-iterations of a coupled run:

    uninitialized --begin--> active
    active --beginStep--> negotiating --> subIterating
    subIterating --(converged, cap reached or disconnected)--> stepDone
    stepDone --endStep--> active or terminating
    any --finish--> closed

A failed exchange with the peer is no fault: the session is terminated, the run stops
after the next step, and nothing is sent any more.  A fault of a collective operation or
of the fluid solver leaves the state as far as it got.
-/

namespace FluidStructure.Coupling

open FluidStructure.Channel FluidStructure.Journal

/-- A coupled run: session, run control, and where the sequence stands. -/
structure Controller where
  place : Parallel.Place
  session : Session
  run : RunControl
  phase : Phase := .uninitialized
  /-- The step that the current time step uses. -/
  stepDt : Float := 0.0
  /-- Residual of the last evaluation. -/
  lastResidual : Float := 0.0
  /-- Fields are received here before they enter the session. -/
  displacementStaging : List Float := []
  velocityStaging : List Float := []

namespace Controller

/-! ## Parts -/

/-- Works on the session. -/
def onSession {α : Type} (act : Act Coupling Session α) : Act Coupling Controller α :=
  Act.zoom Controller.session (fun s c => { c with session := s }) act

/-- Works on session and run control. -/
def onSchedule {α : Type} (act : Act Coupling TimeStep.Schedule α) :
    Act Coupling Controller α :=
  Act.zoom (fun c => ⟨c.session, c.run⟩) (fun t c => { c with session := t.session, run := t.run })
    act

/-- Works on the session and the last residual. -/
def onEvaluation {α : Type} (act : Act Coupling Convergence.Evaluated α) :
    Act Coupling Controller α :=
  Act.zoom (fun c => ⟨c.session, c.lastResidual⟩)
    (fun e c => { c with session := e.session, lastResidual := e.lastResidual }) act

def modifySession (change : Session → Session) : Act Coupling Controller Unit :=
  Act.modify fun c => { c with session := change c.session }

def setPhase (phase : Phase) : Act Coupling Controller Unit :=
  Act.modify fun c => { c with phase := phase }

/-- Refuses an operation outside its phase. -/
def requirePhase (expected : Phase) (operation : String) : Act Coupling Controller Unit := do
  let actual := (← Act.get).phase
  if actual = expected then pure ()
  else Act.fail (.wrongPhase operation actual expected)

/-- Runs a part only under a condition on the state. -/
def unlessTerminated (act : Act Coupling Controller Unit) : Act Coupling Controller Unit := do
  if (← Act.get).session.isTerminated then pure () else act

/-! ## Losing the peer -/

/-- The later of the current and the last step. -/
def stopStep (run : RunControl) : Int32 :=
  if run.currentStep < run.lastStep then run.lastStep else run.currentStep

/-- The reaction to a failed exchange.  Only the first one does anything. -/
def disconnect (during : String) : Act Coupling Controller Unit := unlessTerminated do
  Act.modify fun c => { c with session := c.session.terminate, run := c.run.windDown }
  let c ← Act.get
  noteIf c.place.isRoot (.disconnected during (stopStep c.run))

/-- Takes note of the status of an exchange. -/
def heed (status : Status) (during : String) : Act Coupling Controller Unit :=
  if Status.failed status then disconnect during else pure ()

/-- An exchange that the coordinating rank makes for its group. -/
def onRoot (exchange : Act Coupling Controller Status) : Act Coupling Controller Status := do
  if (← Act.get).place.isRoot then exchange else pure Status.ok

/-! ## Run sequence -/

/-- Sends one message after the other, up to the first failure. -/
def sendInTurn (first : Act Coupling Controller Status) :
    List (Act Coupling Controller Status) → Act Coupling Controller Status
  | [] => first
  | second :: later => do
    let status ← first
    if Status.failed status then return status else sendInTurn second later

/-- Sends the run parameters. -/
def sendParameters (s : Session) : Act Coupling Controller Status := do
  let p := s.parameters
  let peer := s.peer.root
  noteIf s.isVerbose (.sendingParameters s.peer.type.shown s.peer.name.shown)
  sendInTurn (sendInt peer 0 Variable.maxTimeSteps p.maxTimeSteps)
    [sendInt peer 0 Variable.maxSubIterations p.maxSubIterations,
      sendReal peer 0 Variable.tolerance p.tolerance,
      sendReal peer 0 Variable.initialTime p.initialTime,
      sendReal peer 0 Variable.referenceTimeStep p.referenceStep]

/-- Sizes the staging buffers, filled with zeros. -/
def sizeStaging : Act Coupling Controller Unit :=
  Act.modify fun c =>
    { c with
      displacementStaging := Session.zeroVectors c.session.vertexCount
      velocityStaging := Session.zeroVectors c.session.vertexCount }

/-- Sends the run parameters to the peer, unless the run is dry. -/
def announce : Act Coupling Controller Unit := do
  let c ← Act.get
  if c.session.isDryRun then noteIf c.place.isRoot .dryRun
  else
    let own ← onRoot (sendParameters c.session)
    let shared ← shareInt own
    heed shared "parameter exchange"

/-- Begins the run.  Needs a registered interface. -/
def begin : Act Coupling Controller Unit := do
  requirePhase .uninitialized "initialize"
  if !(← Act.get).session.isRegistered then Act.fail .geometryMissing
  else
    sizeStaging
    announce
    setPhase .active

/-- Takes the next step number and agrees on the step. -/
def beginStep (own : Float) : Act Coupling Controller Float := do
  requirePhase .active "begin_time_step"
  setPhase .negotiating
  Act.modify fun c => { c with run := c.run.advance }
  let dt ← onSchedule (TimeStep.negotiate (← Act.get).place own)
  Act.modify fun c => { c with stepDt := dt }
  modifySession Session.resetSubIterations
  setPhase .subIterating
  return dt

/-! ## Stages of a sub-iteration -/

/-- Predicts the forces and sends them. -/
def sendForces : Act Coupling Controller Unit := do
  requirePhase .subIterating "send_forces"
  unlessTerminated do
    let _ ← onSession Prediction.predictForces
    let s := (← Act.get).session
    if s.isDryRun then pure ()
    else
      let status ← sendField s.peer.root Variable.fluidForces s.predictedForce
      heed status "force exchange"

/-- Receives displacement and velocity into the staging buffers; the second only if the
first has come. -/
def receiveStaged (peer : Int32) : Act Coupling Controller Status := do
  let (status, values) ←
    receiveField peer Variable.meshDisplacement (← Act.get).displacementStaging
  Act.modify fun c => { c with displacementStaging := values }
  if Status.failed status then return status
  else
    let (status, values) ← receiveField peer Variable.meshVelocity (← Act.get).velocityStaging
    Act.modify fun c => { c with velocityStaging := values }
    return status

/-- Takes displacement and velocity over from the staging buffers. -/
def takeStaged : Act Coupling Controller Unit :=
  Act.modify fun c =>
    { c with
      session :=
        { c.session with
          displacement := overwrite c.session.displacement c.displacementStaging
          velocity := overwrite c.session.velocity c.velocityStaging } }

/-- Takes what has come, if all of it has. -/
def acceptStaged (status : Status) : Act Coupling Controller Unit :=
  if Status.failed status then disconnect "displacement exchange"
  else do
    let c ← Act.get
    Act.ofExcept (Fault.assert (c.displacementStaging.length = c.session.displacement.length)
      "displacement_staging_.size() == session_.displacement_current().size()"
      "staging buffers sized at initialize")
    takeStaged

/-- Sets displacement and velocity to zero, as a dry run does. -/
def rest (s : Session) : Session :=
  { s with
    displacement := List.replicate s.displacement.length 0.0
    velocity := List.replicate s.velocity.length 0.0 }

/-- Receives displacement and velocity; both or none enter the session. -/
def receiveDisplacement : Act Coupling Controller Unit := do
  requirePhase .subIterating "receive_displacement"
  let c ← Act.get
  if c.session.isDryRun then modifySession rest
  else unlessTerminated do
    noteIf (c.session.isTracing && c.place.isRoot)
      (.receivingFields Variable.meshDisplacement Variable.meshVelocity)
    let status ← receiveStaged c.session.peer.root
    acceptStaged status

/-- Predicts the displacement.  Once the peer is gone the motion stays as it is. -/
def predictDisplacement : Act Coupling Controller Coefficients := do
  requirePhase .subIterating "predict_displacement"
  if (← Act.get).session.isTerminated then return {}
  else onSession Prediction.predictDisplacement

/-- Predicts the displacement and scatters it onto a parent array, unless that is empty.
Gives the array as it is afterwards, with the coefficients or the fault of the scatter. -/
def predictDisplacementOnto (parent : List Float) :
    Act Coupling Controller (Except Fault Coefficients × List Float) := do
  let terminated := (← Act.get).session.isTerminated
  let c ← predictDisplacement
  let s := (← Act.get).session
  if terminated || parent.isEmpty then return (.ok c, parent)
  else
    match s.surface? with
    | none => return (.ok c, parent)
    | some surface =>
      let (result, out) := surface.scatterVertices s.predictedDisplacement parent
      return (result.map fun () => c, out)

/-- Asks whether the structure side has converged. -/
def askPeerConvergence (own : Bool) : Act Coupling Controller Bool := do
  let peer ← Act.ofExcept
    (← Act.perform (I := Coupling) (.peerConvergence (← Act.get).session own))
  modifySession fun s => { s with globalConvergence := peer }
  return peer

/-- Sends the convergence flag while the peer is there. -/
def sendConvergence (own : Bool) : Act Coupling Controller Status := do
  let s := (← Act.get).session
  if s.isConnected then
    onRoot (sendInt s.peer.root s.iteration Variable.convergence (if own then 1 else 0))
  else return Status.ok

/-- Computes and exchanges the convergence flag.  The decision is the flag of this rank and
of its structure side together, and that of rank 0 counts. -/
def exchangeConvergence : Act Coupling Controller Bool := do
  requirePhase .subIterating "exchange_convergence"
  let own ← onEvaluation (Convergence.evaluate (← Act.get).place)
  let peer ← askPeerConvergence own
  let status ← sendConvergence own
  let (decision, shared) ← sharePair (if own && peer then 1 else 0) status
  heed shared "convergence exchange"
  return decision != 0

/-- Keeps the current values as the previous ones; in explicit coupling only. -/
def saveValues : Act Coupling Controller Unit :=
  modifySession fun s => if s.isImplicit then s else s.savePrevious

/-! ## Whole time steps -/

/-- Lets the fluid solver write the interface forces. -/
def computeForces : Act Coupling Controller Unit := do
  let c ← Act.get
  let (result, values) ←
    Act.perform (I := Coupling) (.computeForces c.session c.run c.session.force)
  modifySession fun s => { s with force := overwrite s.force values }
  Act.ofExcept result

/-- Hands the predicted displacement to the fluid solver. -/
def imposeDisplacement : Act Coupling Controller Unit := do
  let s := (← Act.get).session
  Act.ofExcept
    (← Act.perform (I := Coupling) (.imposeDisplacement s s.predictedDisplacement))

/-- Most sub-iterations of a step. -/
def cap (s : Session) : Int32 :=
  if 1 < s.parameters.maxSubIterations then s.parameters.maxSubIterations else 1

/-- Was this the last sub-iteration? -/
def isDone (s : Session) (converged : Bool) : Bool :=
  converged || s.isTerminated || cap s ≤ s.subIteration

/-- One sub-iteration; tells whether it was the last. -/
def subIterate : Act Coupling Controller Bool := do
  computeForces
  sendForces
  receiveDisplacement
  let _ ← predictDisplacement
  unlessTerminated imposeDisplacement
  let converged ← exchangeConvergence
  saveValues
  modifySession Session.nextSubIteration
  return isDone (← Act.get).session converged

/-- Sub-iterates until the step is done, at most so many times. -/
def subIterateAtMost : Nat → Act Coupling Controller Unit
  | 0 => pure ()
  | n + 1 => do
    if ← subIterate then pure () else subIterateAtMost n

/-- Runs a whole coupled time step and gives the step that it used. -/
def runStep (own : Float) : Act Coupling Controller Float := do
  let _ ← beginStep own
  subIterateAtMost (cap (← Act.get).session).toNatClampNeg
  setPhase .stepDone
  let c ← Act.get
  noteIf (c.place.isRoot && c.session.isVerbose)
    (.stepDone c.run.currentStep (c.run.time + c.stepDt) c.session.subIteration)
  return c.stepDt

/-- Completes the step in run control. -/
def endStep : Act Coupling Controller Unit := do
  let c ← Act.get
  if c.phase ≠ .stepDone ∧ c.phase ≠ .subIterating then Act.fail (.stepNotOpen c.phase)
  else
    let run := c.run.complete c.stepDt
    Act.set { c with run, phase := if run.isLastStep then .terminating else .active }

/-- Tells a peer that is still there that the run is over. -/
def takeLeave : Act Coupling Controller Unit := do
  let c ← Act.get
  if c.phase ≠ .uninitialized ∧ c.session.isConnected ∧ c.place.isRoot then
    closeChannel c.session.peer.root
  else pure ()

/-- Closes the channel and releases the session; a second call does nothing. -/
def finish : Act Coupling Controller Unit := do
  let c ← Act.get
  if c.phase = .closed then pure ()
  else
    takeLeave
    modifySession Session.release
    setPhase .closed
    noteIf (c.place.isRoot && c.session.isVerbose) (.sessionClosed c.run.currentStep)

/-! ## Output -/

/-- Arrays on the parent mesh that receive interface values. -/
structure ParentArrays where
  displacement : List Float
  velocity : List Float
  force : List Float

/-- Scatters displacement, velocity and forces onto parent arrays.  Gives the arrays as they
are afterwards, and whether output is wanted at all or the first fault. -/
def scatterOutput (s : Session) (out : ParentArrays) : Except Fault Bool × ParentArrays :=
  match s.surface? with
  | none => (.ok false, out)
  | some surface =>
    if s.parameters.visualization ≤ 0 then (.ok false, out)
    else
      let (first, displacement) := surface.scatterVertices s.displacement out.displacement
      match first with
      | .error fault => (.error fault, { out with displacement })
      | .ok () =>
        let (second, velocity) := surface.scatterVertices s.velocity out.velocity
        match second with
        | .error fault => (.error fault, { out with displacement, velocity })
        | .ok () =>
          let (third, force) := surface.scatterFaces s.force out.force
          (third.map fun () => true, { displacement, velocity, force })

end Controller

end FluidStructure.Coupling
