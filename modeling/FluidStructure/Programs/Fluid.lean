import FluidStructure.Coupling.Controller
import FluidStructure.Coupling.Setting
import FluidStructure.Discovery.Registry
import FluidStructure.Parallel.Lifecycle
import FluidStructure.Programs.Configuration
import FluidStructure.Programs.PulsatingChannel

/-!
# The fluid program

The fluid side of a coupled flap simulation: a pulsating channel that a session
controller couples to the structural solver of the launch, or runs dry without one.
-/

namespace FluidStructure.Programs.Fluid

open FluidStructure.Channel FluidStructure.Coupling FluidStructure.Discovery
open FluidStructure.Journal FluidStructure.Parallel

/-- What the fluid program declares itself to be. -/
def declaration : Declaration := ⟨"fluid", "pulsating_channel"⟩

/-! ## Journal -/

/-- Levels that a configuration can name; anything else means `info`. -/
def levelNamed (name : String) : Level :=
  match name with
  | "trace" => .trace
  | "debug" => .debug
  | "warn" => .warn
  | "error" => .error
  | "off" => .off
  | _ => .info

def standardLogFile : String := "fsilink.log"

/-- Sets up the journal as the configuration wants it; only the root follows. -/
def configureJournal (config : Config.Section) : Act Parallel Lifecycle Unit := do
  match config.subsections.get? "logging" with
  | none => pure ()
  | some logging =>
    let level := levelNamed (← Act.ofExcept (logging.getText "level" "info"))
    if (← Act.get).isRoot then
      if ← Act.ofExcept (logging.getBool "to_file" false) then
        let file ← Act.ofExcept (logging.getText "file" standardLogFile)
        setUpJournal (.combined file level .debug)
      else setUpJournal (.level level)
    else pure ()

/-! ## Time loop -/

section TimeLoop

variable {φ : Type} [FluidSolver φ]

/-- The coupled run and its setting. -/
abbrev Coupled (φ : Type) := Controller × Setting φ

/-- The controller of the coupled run. -/
def controller : Act Parallel (Coupled φ) Controller := Act.gets Prod.fst

/-- The candidate for the next step. -/
def candidate (p : Parameters) : Float := 1.5 * p.referenceStep

/-- Scatters the interface values and reports the first of them. -/
def output (place : Place) (out : Controller.ParentArrays) :
    Act Parallel (Coupled φ) Controller.ParentArrays := do
  let (result, out) := Controller.scatterOutput (← controller).session out
  let written ← Act.ofExcept result
  noteIf (written && place.isRoot)
    (.wallOutput (out.displacement.headD 0.0) (out.force.headD 0.0))
  return out

/-- One step of the time loop.  The mean displacement of the wall is for the report only. -/
def step (place : Place) (p : Parameters) (mean : φ → Float) (out : Controller.ParentArrays) :
    Act Parallel (Coupled φ) Controller.ParentArrays := do
  let _ ← Setting.embed (Controller.runStep (candidate p))
  let out ← output place out
  Setting.embed Controller.endStep
  let (c, setting) ← Act.get
  noteIf place.isRoot (.fluidStep c.run.currentStep c.run.time (mean setting.fluid))
  return out

/-- Steps while the run is active, at most so many times. -/
def steps (place : Place) (p : Parameters) (mean : φ → Float) :
    Nat → Controller.ParentArrays → Act Parallel (Coupled φ) Unit
  | 0, _ => pure ()
  | n + 1, out => do
    if (← controller).phase = .active then
      steps place p mean n (← step place p mean out)
    else pure ()

/-- More steps than a run can have: the planned ones, one that a run without any takes, and
one after the peer is gone. -/
def stepBound (p : Parameters) : Nat := p.maxTimeSteps.toNatClampNeg + 2

/-- The whole coupled run. -/
def timeLoop (place : Place) (p : Parameters) (mean : φ → Float)
    (out : Controller.ParentArrays) : Act Parallel (Coupled φ) Unit := do
  Setting.embed Controller.begin
  steps place p mean (stepBound p) out
  Setting.embed Controller.finish

end TimeLoop

/-! ## Set-up -/

/-- A setting before the fluid solver is there: it has no forces. -/
instance : FluidSolver Unit where
  computeForces _ _ buffer _ := ((.ok (), buffer), ())
  imposeDisplacement _ _ _ := (.ok (), ())

/-- Attaches the interface to a new session. -/
def registered {σ : Type} (group : Group) (channel : MessageChannel) (p : Parameters)
    (peer : Peer) (surface : Surface) : Act Parallel σ Session := do
  let setting : Setting Unit := ⟨.process group, .messages channel, ()⟩
  let ((), (session, _)) ← Act.withState (Session.new p peer, setting)
    (Setting.embed (Session.register group.place surface p.referenceLength))
  return session

/-- Arrays of zeros on the wall. -/
def zeroArrays (wall : WallPatch) : Controller.ParentArrays where
  displacement := Session.zeroVectors wall.vertexCount
  velocity := Session.zeroVectors wall.vertexCount
  force := Session.zeroVectors wall.count

/-- Builds session, controller and fluid solver, and runs the time loop. -/
def simulate (config : Config.Section) (p : Parameters) (group : Group) (peer : Peer)
    (channel : MessageChannel) : Act Parallel Lifecycle Unit := do
  let place := group.place
  if place.isRoot then Lifecycle.reportFeatures else pure ()
  let flap ← Act.ofExcept (config.subsection "flap")
  let wall : WallPatch := ⟨← Act.ofExcept (facesPerRank flap)⟩
  let surface ← reportSurface wall.surface
  let session ← registered group channel p peer surface
  let run ← Act.ofExcept (RunControl.start p.maxTimeSteps p.initialTime)
  let fluid ← Act.ofExcept (PulsatingChannel.ofSection flap surface wall.vertexCount)
  let setting : Setting PulsatingChannel := ⟨.process group, .messages channel, fluid⟩
  let _ ← Act.withState ({ place, session, run : Controller }, setting)
    (timeLoop place p PulsatingChannel.meanDisplacement (zeroArrays wall))

/-- Finds the peer and opens the channel to it. -/
def couple (config : Config.Section) (p : Parameters) (registry : Registry) :
    Act Parallel Lifecycle Unit := do
  let group ← Group.join .application false
  let finding := Discovery.find registry.applications registry.self.toInt p.peerType
  let peer ← finding.settle p.peerType
  let channel ← MessageChannel.setUp
  Act.thenAlways (simulate config p group peer channel) MessageChannel.takeDown

/-- The program without its start, its end and its last resort. -/
def body (file : String) : Act Parallel Lifecycle Unit := do
  let config ← readConfiguration file
  configureJournal config
  let p ← readParameters config
  let registry ← Registry.build declaration
  Act.thenAlways (couple config p registry) Registry.discard

/-- The fluid program; gives its exit code. -/
def program (file : String) : Act Parallel Lifecycle Int32 :=
  Lifecycle.within {} <| Act.handle
    (do
      body file
      return 0)
    (fun fault => do
      note (.coupledRunFailed fault)
      abort 1
      return 1)

end FluidStructure.Programs.Fluid
