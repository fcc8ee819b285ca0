import FluidStructure.Proofs.Coupling.Sizes
import FluidStructure.Proofs.Coupling.Stages
import FluidStructure.Proofs.Network.Fields
import FluidStructure.Proofs.Programs.Recorded

/-!
# The ranks of the fluid program

All ranks of the fluid program stand at the same point of the run, each with its own
interface values, channel and solver.  A stage of the controller takes a rank from one
point to the next; what it asks in between is asked of the group or of the structure.
-/

namespace FluidStructure.Programs

open FluidStructure.Channel FluidStructure.Coupling FluidStructure.Journal FluidStructure.Parallel

/-! ## What the ranks have in common -/

/-- What does not change in a run. -/
structure Terms where
  parameters : Parameters
  peer : Discovery.Peer
  /-- The interface of every rank. -/
  surface : Surface

/-- Where a run stands. -/
structure Point where
  phase : Phase
  iteration : Int32
  subIteration : Int32
  step : Int32
  time : Float
  dt : Float

/-- A controller stands at a point of a run. -/
structure At (e : Terms) (place : Place) (w : Point) (c : Controller) : Prop where
  place : c.place = place
  phase : c.phase = w.phase
  parameters : c.session.parameters = e.parameters
  peer : c.session.peer = e.peer
  surface : c.session.surface? = some e.surface
  referenceLength : c.session.referenceLength = e.parameters.referenceLength
  iteration : c.session.iteration = w.iteration
  subIteration : c.session.subIteration = w.subIteration
  step : c.run.currentStep = w.step
  lastStep : c.run.lastStep = e.parameters.maxTimeSteps
  time : c.run.time = w.time
  dt : c.stepDt = w.dt
  vertexCount : c.session.vertexCount = e.surface.vertexCount
  displacement : c.session.displacement.length = 3 * e.surface.vertexCount
  force : c.session.force.length = 3 * e.surface.faceCount
  buffers : c.session.Sized
  staging : w.phase ≠ .uninitialized →
    c.displacementStaging.length = 3 * e.surface.vertexCount ∧
      c.velocityStaging.length = 3 * e.surface.vertexCount

/-- A fluid solver that does not fault on an interface with so many vertices, and that alone
decides on convergence. -/
structure Dependable {φ : Type} [FluidSolver φ] (sound : φ → Prop) (vertices : Nat) : Prop where
  computes : ∀ s run buffer solver, sound solver →
    (FluidSolver.computeForces s run buffer solver).1.1 = .ok () ∧
      sound (FluidSolver.computeForces s run buffer solver).2
  imposes : ∀ s displacement solver, sound solver → displacement.length = 3 * vertices →
    (FluidSolver.imposeDisplacement s displacement solver).1 = .ok () ∧
      sound (FluidSolver.imposeDisplacement s displacement solver).2
  decides : ∀ s own (solver : φ), FluidSolver.peerConvergence s own solver = (.ok own, solver)

/-- A rank of the fluid program. -/
structure Rank (φ : Type) where
  controller : Controller
  channel : MessageChannel
  solver : φ

namespace Rank

variable {φ : Type} {α β : Type}

/-- The surroundings of a rank with this place. -/
def setting (x : Rank φ) (place : Place) : Setting φ :=
  ⟨.process ⟨.application, place, false⟩, .messages x.channel, x.solver⟩

/-- The rank does something with its controller. -/
def does [FluidSolver φ] (x : Rank φ) (place : Place) (act : Act Coupling Controller α) :
    Program Parallel ((Except Fault α × Controller) × Setting φ) :=
  (act x.controller).via Setting.answer (x.setting place)

/-- The rank has done something and has this value for it. -/
def gives (x : Rank φ) (place : Place) (value : α) :
    (Except Fault α × Controller) × Setting φ :=
  ((.ok value, x.controller), x.setting place)

/-- What follows on a value. -/
def onward [FluidSolver φ] (f : α → Act Coupling Controller β) :
    (Except Fault α × Controller) × Setting φ →
      Program Parallel ((Except Fault β × Controller) × Setting φ)
  | ((.ok value, c), setting) => (f value c).via Setting.answer setting
  | ((.error fault, c), setting) => .done ((.error fault, c), setting)

/-- The rank stands at a point of the run, with a channel and a solver that are in order. -/
structure Stands (e : Terms) (place : Place) (sound : φ → Prop) (w : Point) (x : Rank φ) :
    Prop where
  controller : At e place w x.controller
  channel : x.channel.isLocalRoot = place.isRoot
  solver : sound x.solver

end Rank

/-! ## Programs answered by programs -/

theorem via_bind {I J : Interface} {σ α β : Type}
    (answer : (request : I.Request) → σ → Program J (I.Reply request × σ)) (p : Program I α)
    (f : α → Program I β) (s : σ) :
    (p.bind f).via answer s = (p.via answer s).bind fun (a, s) => (f a).via answer s := by
  induction p generalizing s with
  | done value => rfl
  | ask request next ih =>
    refine Eq.trans ?_ (Program.bind_assoc _ _ _).symm
    exact congrArg (Program.bind _) (funext fun (reply, s) => ih reply s)

namespace Rank

variable {φ : Type} [FluidSolver φ] {α β γ : Type}

theorem does_bind (x : Rank φ) (place : Place) (act : Act Coupling Controller α)
    (f : α → Act Coupling Controller β)
    (k : (Except Fault β × Controller) × Setting φ → Program Parallel γ) :
    (x.does place (act >>= f)).bind k =
      (x.does place act).bind fun outcome => (onward f outcome).bind k := by
  unfold does
  rw [Act.bind_apply, via_bind, Program.bind_assoc]
  refine congrArg (Program.bind _) ?_
  funext ⟨⟨result, c⟩, setting⟩
  cases result <;> rfl

theorem ahead_noting (x : Rank φ) (place : Place) {condition : Bool} {notice : Notice}
    (quiet : Network.failure? ⟨.note notice, ()⟩ = none) (p : Program Coupling α)
    (k : α × Setting φ → Program Parallel γ) :
    Network.Ahead (((noting condition notice p).via Setting.answer (x.setting place)).bind k)
      ((p.via Setting.answer (x.setting place)).bind k) := by
  cases condition with
  | false => exact .inl rfl
  | true => exact .inr ⟨notice, _, quiet, rfl, rfl⟩

/-! ## What a rank asks -/

section Asks

variable (x : Rank φ) (place : Place) {δ : Type} (k : δ × Setting φ → Program Parallel γ)

theorem via_sendField (peer : Int32) (name : String) (values : List Float)
    (next : Except Fault Status → Program Coupling δ) :
    ((Program.ask (I := Coupling) (.sendField peer name values) next).via Setting.answer
        (x.setting place)).bind k =
      (MessageChannel.sendField peer name values x.channel).bind fun (result, channel) =>
        ((next result).via Setting.answer ({ x with channel := channel }.setting place)).bind k :=
  (Program.bind_assoc ..).trans (Program.bind_assoc ..)

theorem via_receiveField (peer : Int32) (name : String) (buffer : List Float)
    (next : Except Fault (Status × List Float) → Program Coupling δ) :
    ((Program.ask (I := Coupling) (.receiveField peer name buffer) next).via Setting.answer
        (x.setting place)).bind k =
      (MessageChannel.receiveField peer name buffer x.channel).bind fun (result, channel) =>
        ((next result).via Setting.answer ({ x with channel := channel }.setting place)).bind k :=
  (Program.bind_assoc ..).trans (Program.bind_assoc ..)

theorem via_sendInts (peer iteration : Int32) (name : String) (values : List Int32)
    (next : Status → Program Coupling δ) :
    ((Program.ask (I := Coupling) (.sendInts peer iteration name values) next).via Setting.answer
        (x.setting place)).bind k =
      (MessageChannel.sendInts peer iteration name values).bind fun status =>
        ((next status).via Setting.answer (x.setting place)).bind k :=
  (Program.bind_assoc ..).trans (Program.bind_assoc ..)

theorem via_sendReals (peer iteration : Int32) (name : String) (values : List Float)
    (next : Status → Program Coupling δ) :
    ((Program.ask (I := Coupling) (.sendReals peer iteration name values) next).via Setting.answer
        (x.setting place)).bind k =
      (MessageChannel.sendReals peer iteration name values).bind fun status =>
        ((next status).via Setting.answer (x.setting place)).bind k :=
  (Program.bind_assoc ..).trans (Program.bind_assoc ..)

theorem via_receiveReals (peer iteration : Int32) (name : String) (buffer : List Float)
    (next : Status × List Float → Program Coupling δ) :
    ((Program.ask (I := Coupling) (.receiveReals peer iteration name buffer) next).via
        Setting.answer (x.setting place)).bind k =
      (MessageChannel.receiveReals peer iteration name buffer).bind fun received =>
        ((next received).via Setting.answer (x.setting place)).bind k :=
  (Program.bind_assoc ..).trans (Program.bind_assoc ..)

theorem via_close (peer : Int32) (next : Unit → Program Coupling δ) :
    ((Program.ask (I := Coupling) (.close peer) next).via Setting.answer (x.setting place)).bind k =
      (x.channel.close peer).bind fun _ =>
        ((next ()).via Setting.answer (x.setting place)).bind k :=
  (Program.bind_assoc ..).trans (Program.bind_assoc ..)

theorem via_broadcastInts (buffer : List Int32)
    (next : Except Fault (List Int32) → Program Coupling δ) :
    ((Program.ask (I := Coupling) (.broadcastInts buffer) next).via Setting.answer
        (x.setting place)).bind k =
      .ask (.broadcastInts .application 0 buffer) fun reply =>
        ((next (reply.mapError (.messagePassing "MPI_Bcast"))).via Setting.answer
          (x.setting place)).bind k := by
  refine congrArg (Program.ask _) ?_
  funext reply
  cases reply <;> rfl

theorem via_broadcastReals (buffer : List Float)
    (next : Except Fault (List Float) → Program Coupling δ) :
    ((Program.ask (I := Coupling) (.broadcastReals buffer) next).via Setting.answer
        (x.setting place)).bind k =
      .ask (.broadcastReals .application 0 buffer) fun reply =>
        ((next (reply.mapError (.messagePassing "MPI_Bcast"))).via Setting.answer
          (x.setting place)).bind k := by
  refine congrArg (Program.ask _) ?_
  funext reply
  cases reply <;> rfl

theorem via_sumReals (values : List Float)
    (next : Except Fault (List Float) → Program Coupling δ) :
    ((Program.ask (I := Coupling) (.sumReals values) next).via Setting.answer
        (x.setting place)).bind k =
      .ask (.reduceReals .application .sum values) fun reply =>
        ((next (reply.mapError (.messagePassing "MPI_Allreduce"))).via Setting.answer
          (x.setting place)).bind k := by
  refine congrArg (Program.ask _) ?_
  funext reply
  cases reply <;> rfl

theorem via_computeForces (s : Session) (run : RunControl) (buffer : List Float)
    (next : Except Fault Unit × List Float → Program Coupling δ) :
    ((Program.ask (I := Coupling) (.computeForces s run buffer) next).via Setting.answer
        (x.setting place)).bind k =
      ((next (FluidSolver.computeForces s run buffer x.solver).1).via Setting.answer
        ({ x with solver := (FluidSolver.computeForces s run buffer x.solver).2 }.setting
          place)).bind k := rfl

theorem via_imposeDisplacement (s : Session) (displacement : List Float)
    (next : Except Fault Unit → Program Coupling δ) :
    ((Program.ask (I := Coupling) (.imposeDisplacement s displacement) next).via Setting.answer
        (x.setting place)).bind k =
      ((next (FluidSolver.imposeDisplacement s displacement x.solver).1).via Setting.answer
        ({ x with solver := (FluidSolver.imposeDisplacement s displacement x.solver).2 }.setting
          place)).bind k := rfl

theorem via_peerConvergence (s : Session) (converged : Bool)
    (next : Except Fault Bool → Program Coupling δ) :
    ((Program.ask (I := Coupling) (.peerConvergence s converged) next).via Setting.answer
        (x.setting place)).bind k =
      ((next (FluidSolver.peerConvergence s converged x.solver).1).via Setting.answer
        ({ x with solver := (FluidSolver.peerConvergence s converged x.solver).2 }.setting
          place)).bind k := rfl

end Asks

end Rank

end FluidStructure.Programs
