import FluidStructure.Channel.MessageChannel
import FluidStructure.Coupling.Session
import FluidStructure.Discovery.Registry
import FluidStructure.Parallel.Lifecycle
import FluidStructure.Programs.Configuration
import FluidStructure.Programs.Oscillator

/-!
# The structure program

The structural side of a coupled flap simulation: an oscillator that the resultant of the
fluid forces drives, and with which every interface vertex moves.  It answers the fluid
exchange by exchange and stops at the first that fails.
-/

namespace FluidStructure.Programs.Structure

open FluidStructure.Channel FluidStructure.Coupling FluidStructure.Discovery
open FluidStructure.Journal FluidStructure.Parallel

/-- What the structure program declares itself to be. -/
def declaration : Declaration := ⟨"structure", "spring"⟩

/-- Type of the application that it works with. -/
def fluidType : String := "fluid"

/-- What the program needs to know of its set-up. -/
structure Layout where
  /-- Root of the fluid solver. -/
  fluid : Int32
  fluidName : Text.Label
  /-- Faces and vertices of all fluid ranks. -/
  faces : Nat
  vertices : Nat
  /-- Step that the structure proposes. -/
  proposedStep : Float

/-- The set-up for a fluid solver of so many ranks, with a strip of so many faces on each. -/
def Layout.facing (fluid : Peer) (ranks faces : Nat) (proposedStep : Float) : Layout where
  fluid := fluid.root
  fluidName := fluid.name
  faces := ranks * faces
  vertices := ranks * 2 * (faces + 1)
  proposedStep

/-- Run parameters, as far as the fluid has sent them. -/
structure RunParameters where
  maxTimeSteps : Int32 := 0
  maxSubIterations : Int32 := 0
  tolerance : Float := 0.0
  initialTime : Float := 0.0
  referenceStep : Float := 0.0

/-- State of the run.  It is connected until an exchange fails. -/
structure State where
  oscillator : Oscillator
  time : Float
  connected : Bool := true
  /-- Forces received last. -/
  forces : List Float

/-! ## Parameters -/

/-- Receives the run parameters one after the other; none if an exchange fails. -/
def receiveParameters (fluid : Int32) : Program Parallel (Option RunParameters) := do
  let (status, maxTimeSteps) ← MessageChannel.receiveInt fluid 0 Variable.maxTimeSteps 0
  if Status.failed status then return none
  else
    let (status, maxSubIterations) ←
      MessageChannel.receiveInt fluid 0 Variable.maxSubIterations 0
    if Status.failed status then return none
    else
      let (status, tolerance) ← MessageChannel.receiveReal fluid 0 Variable.tolerance 0.0
      if Status.failed status then return none
      else
        let (status, initialTime) ← MessageChannel.receiveReal fluid 0 Variable.initialTime 0.0
        if Status.failed status then return none
        else
          let (status, referenceStep) ←
            MessageChannel.receiveReal fluid 0 Variable.referenceTimeStep 0.0
          if Status.failed status then return none
          else return some { maxTimeSteps, maxSubIterations, tolerance, initialTime, referenceStep }

/-! ## Time steps -/

/-- The sum of the first components of the forces. -/
def resultant (forces : List Float) : Float :=
  (Surface.vectors forces).foldl (fun sum v => sum + v.x) 0.0

/-- Every vertex with the same first component. -/
def uniformField (vertices : Nat) (x : Float) : List Float :=
  (List.replicate vertices [x, 0.0, 0.0]).flatten

/-- Proposes a step and receives the negotiated one; none if an exchange fails. -/
def negotiate (l : Layout) (step : Int32) : Program Parallel (Option Float) := do
  let sent ← MessageChannel.sendReals l.fluid step Variable.peerTimeStep [l.proposedStep]
  if Status.failed sent then return none
  else
    let (status, dt) ←
      MessageChannel.receiveReal l.fluid step Variable.negotiatedTimeStep l.proposedStep
    return if Status.failed status then none else some dt

/-- What came of answering one sub-iteration. -/
inductive Answered where
  /-- The fluid wants another one. -/
  | again
  | converged
  | lost
deriving DecidableEq, Repr

/-- Sends displacement and velocity and receives the convergence flag. -/
def answerMotion (l : Layout) (step : Int32) (m : Motion) :
    Act Parallel MessageChannel Answered := do
  let sent ← MessageChannel.sendField l.fluid Variable.meshDisplacement
    (uniformField l.vertices m.x)
  if Status.failed sent then return .lost
  else
    let sent ← MessageChannel.sendField l.fluid Variable.meshVelocity
      (uniformField l.vertices m.v)
    if Status.failed sent then return .lost
    else
      let (status, flag) ← Act.lift
        (MessageChannel.receiveInt l.fluid step Variable.convergence 0)
      return if Status.failed status then .lost else if flag = 1 then .converged else .again

/-- Answers sub-iterations until the fluid has converged, at most so many.  Gives the last
trial, the forces received last, and whether all exchanges succeeded. -/
def subIterate (l : Layout) (o : Oscillator) (step : Int32) (dt : Float) :
    Nat → Motion → List Float → Act Parallel MessageChannel (Motion × List Float × Bool)
  | 0, m, forces => return (m, forces, true)
  | n + 1, m, forces => do
    let (status, forces) ← MessageChannel.receiveField l.fluid Variable.fluidForces forces
    if Status.failed status then return (m, forces, false)
    else
      let m := o.trial (resultant forces) dt
      match ← answerMotion l step m with
      | .again => subIterate l o step dt n m forces
      | .converged => return (m, forces, true)
      | .lost => return (m, forces, false)

/-- Most sub-iterations of a step. -/
def cap (p : RunParameters) : Nat :=
  if 1 < p.maxSubIterations then p.maxSubIterations.toNatClampNeg else 1

/-- One time step.  The motion is committed only if every exchange succeeded. -/
def timeStep (l : Layout) (p : RunParameters) (step : Int32) (s : State) :
    Act Parallel MessageChannel State := do
  match ← Act.lift (negotiate l step) with
  | none =>
    note (.fluidStopped step)
    return { s with connected := false }
  | some dt =>
    let (m, forces, connected) ←
      subIterate l s.oscillator step dt (cap p) s.oscillator.motion s.forces
    if connected then
      let time := s.time + dt
      note (.structureStep step time m.x m.v)
      return { oscillator := s.oscillator.commit m, time, connected, forces }
    else
      note (.fluidStopped step)
      return { s with connected, forces }

/-- Time steps from a number on, while the fluid is connected. -/
def timeSteps (l : Layout) (p : RunParameters) :
    Nat → Int32 → State → Act Parallel MessageChannel State
  | 0, _, s => return s
  | n + 1, step, s => do
    let s ← timeStep l p step s
    if s.connected then timeSteps l p n (step + 1) s else return s

/-- Waits for the message that ends the session. -/
def awaitEnding (l : Layout) (p : RunParameters) : Act Parallel MessageChannel Unit := do
  let (status, _) ← Act.lift
    (MessageChannel.receiveInt l.fluid (p.maxTimeSteps + 1) Variable.peerTimeStep 0)
  noteIf (status ≠ Status.terminated) (.sessionNotClosed status)

/-- The exchange with the fluid from its parameters to its end; gives the exit code. -/
def exchange (l : Layout) (o : Oscillator) : Act Parallel MessageChannel Int32 := do
  match ← Act.lift (receiveParameters l.fluid) with
  | none =>
    note .parametersMissing
    return 1
  | some p =>
    note (.structureCoupled declaration.name.shown l.fluidName.shown p.maxTimeSteps p.maxSubIterations
      l.faces l.vertices)
    let first : State :=
      { oscillator := o, time := p.initialTime, forces := Session.zeroVectors l.faces }
    let s ← timeSteps l p p.maxTimeSteps.toNatClampNeg 1 first
    if s.connected then awaitEnding l p else pure ()
    note (.structureFinished s.time s.oscillator.motion.x)
    return 0

/-! ## Set-up -/

/-- Ranks of the application with a root; the last one listed counts. -/
def ranksOf (apps : List Application) (root : Int32) : Nat :=
  (apps.reverse.find? fun a => a.root = root).elim 0 fun a => a.ranks.toNatClampNeg

/-- The oscillator that a section describes. -/
def oscillatorOf (s : Config.Section) : Except Fault Oscillator := do
  let mass ← s.getReal "mass" 1.0
  let damping ← s.getReal "damping" 0.0
  let stiffness ← s.getReal "stiffness" 1.0
  return { mass, damping, stiffness }

/-- Size of the own application; zero if it cannot be had. -/
def ownSize {σ : Type} : Act Parallel σ Int32 := do
  match ← sizeIn .application with
  | .ok size => return size
  | .error _ => return 0

/-- Finds the fluid solver and opens the channel to it. -/
def couple (structural flap : Config.Section) (registry : Registry) :
    Act Parallel Lifecycle Int32 := do
  if (← ownSize) ≠ 1 then Act.fail .structureRanks
  else
    let finding := Discovery.find registry.applications registry.self.toInt fluidType
    if finding.outcome ≠ .singlePeer then Act.fail (.fluidSolverCount finding.outcome)
    else
      let ranks := ranksOf registry.applications finding.peer.root
      let faces ← Act.ofExcept (facesPerRank flap)
      let o ← Act.ofExcept (oscillatorOf structural)
      let proposedStep ← Act.ofExcept (structural.getReal "time_step" 1.0e-3)
      let l := Layout.facing finding.peer ranks faces proposedStep
      let channel ← MessageChannel.setUp
      Act.thenAlways
        (do
          let (code, _) ← Act.withState channel (exchange l o)
          return code)
        MessageChannel.takeDown

/-- The program without its start, its end and its last resort. -/
def body (file : String) : Act Parallel Lifecycle Int32 := do
  let config ← readConfiguration file
  let structural ← Act.ofExcept (config.subsection "structure")
  let flap ← Act.ofExcept (config.subsection "flap")
  let registry ← Registry.build declaration
  Act.thenAlways (couple structural flap registry) Registry.discard

/-- The structure program; gives its exit code. -/
def program (file : String) : Act Parallel Lifecycle Int32 :=
  Lifecycle.within {} <| Act.handle (body file)
    (fun fault => do
      note (.structurePeerFailed fault)
      abort 1
      return 1)

end FluidStructure.Programs.Structure
