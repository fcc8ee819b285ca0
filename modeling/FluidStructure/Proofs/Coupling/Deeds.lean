import FluidStructure.Proofs.Coupling.Rules

/-!
# Deeds of a caller

Session, controller and the parts of the sub-iteration are open to a caller, who may use them in any
order, before the registration of the interface and after it.  Whatever faults, the caller may go on
in the state that is left.
-/

namespace FluidStructure.Coupling

open FluidStructure.Channel FluidStructure.Journal Controller

/-- What a session lets a caller change. -/
inductive SessionCall where
  | release
  | savePrevious
  | setIteration (iteration : Int32)
  | terminate
  | resetSubIterations
  | nextSubIteration
  | setDt (dt : Float)
  | setLocalConvergence (converged : Bool)
  | setGlobalConvergence (converged : Bool)
  | writeBuffer (buffer : Session.Buffer) (values : List Float)

def SessionCall.apply : SessionCall → Session → Session
  | release, s => s.release
  | savePrevious, s => s.savePrevious
  | setIteration iteration, s => { s with iteration }
  | terminate, s => s.terminate
  | resetSubIterations, s => s.resetSubIterations
  | nextSubIteration, s => s.nextSubIteration
  | setDt dt, s => s.setDt dt
  | setLocalConvergence converged, s => { s with localConvergence := converged }
  | setGlobalConvergence converged, s => { s with globalConvergence := converged }
  | writeBuffer buffer values, s => s.writeBuffer buffer values

/-- Registers an interface with the session of a controller. -/
def Controller.register (surface : Surface) (length : Float) : Act Coupling Controller Unit := do
  onSession (Session.register (← Act.get).place surface length)

theorem Controller.runs_registerSession {surface : Surface} {length : Float} {c d : Controller}
    {log : Log Coupling} {result : Except Fault Unit} :
    (Controller.register surface length).Runs c log result d ↔
      ∃ s, (Session.register c.place surface length).Runs c.session log result s ∧
        d = { c with session := s } := by
  unfold Controller.register onSession Act.Runs
  rw [Act.get_bind_apply]
  exact Act.runs_zoom

/-- What a caller can do. -/
inductive Deed where
  | operate (operation : Operation)
  | register (surface : Surface) (length : Float)
  | alter (call : SessionCall)
  /-- Sets run control, which is the caller's own. -/
  | steer (run : RunControl)
  /-- Agrees on a step outside the controller. -/
  | negotiate (own : Float)
  /-- Evaluates the convergence outside the controller, which keeps its last residual. -/
  | evaluate
  | predictForces
  | predictDisplacement

namespace Deed

def perform : Deed → Act Coupling Controller Unit
  | operate operation => do
    let _ ← operation.perform
  | register surface length => Controller.register surface length
  | alter call => modifySession call.apply
  | steer run => Act.modify fun c => { c with run }
  | negotiate own => do
    let _ ← onSchedule (TimeStep.negotiate (← Act.get).place own)
  | evaluate => do
    let c ← Act.get
    let _ ← onEvaluation (Convergence.evaluate c.place)
    Act.modify fun d => { d with lastResidual := c.lastResidual }
  | predictForces => do
    let _ ← onSession Prediction.predictForces
  | predictDisplacement => do
    let _ ← onSession Prediction.predictDisplacement

end Deed

/-- The end passes what the rules pass, if the release does. -/
theorem Controller.Rules.finish
    {R : Controller → Log Coupling → Option Fault → Controller → Prop} (rules : Rules R)
    (released : (modifySession Session.release).Within R) : Controller.finish.Within R := by
  refine rules.bind rules.get fun c => ?_
  split
  · exact rules.pure _
  · refine rules.bind (rules.bind rules.get fun d => ?_) fun _ => rules.bind released fun _ =>
      rules.bind (rules.setPhase _) fun _ => rules.heeds.noteIf _ _
    split
    · exact rules.heeds.perform rfl rfl
    · exact rules.pure _

/-- A deed passes what the rules pass, if the end does, and if it does where it is a registration or a
change of the session. -/
theorem Controller.Rules.deed {R : Controller → Log Coupling → Option Fault → Controller → Prop}
    (rules : Rules R) (ended : Controller.finish.Within R) {deed : Deed}
    (registered : ∀ surface length, deed = .register surface length →
      (Controller.register surface length).Within R)
    (altered : ∀ call, deed = .alter call → (modifySession call.apply).Within R) :
    deed.perform.Within R := by
  cases deed with
  | operate operation =>
    by_cases last : operation = .finish
    · rw [last]
      exact rules.bind (rules.bind ended fun _ => rules.pure _) fun _ => rules.pure _
    · exact rules.bind (rules.operation last) fun _ => rules.pure _
  | register surface length => exact registered surface length rfl
  | alter call => exact altered call rfl
  | steer run => exact rules.modify fun _ => ⟨rfl, rfl, rfl, id, rfl, rfl⟩
  | negotiate own =>
    exact rules.bind rules.get fun c => rules.bind (rules.negotiate c.place own) fun _ => rules.pure _
  | evaluate =>
    exact rules.bind rules.get fun c => rules.bind (rules.evaluate c.place) fun _ =>
      rules.modify fun _ => ⟨rfl, rfl, rfl, id, rfl, rfl⟩
  | predictForces => exact rules.bind rules.predictForces fun _ => rules.pure _
  | predictDisplacement => exact rules.bind rules.predictMotion fun _ => rules.pure _

/-- What became of a deed. -/
structure Doing where
  deed : Deed
  log : Log Coupling
  outcome : Except Fault Unit

/-- From a controller, deed after deed, to a controller. -/
inductive Doings : Controller → List Doing → Controller → Prop
  | nil (c : Controller) : Doings c [] c
  | cons {c d e : Controller} {doing : Doing} {doings : List Doing}
      (run : doing.deed.perform.Runs c doing.log doing.outcome d)
      (later : Doings d doings e) : Doings c (doing :: doings) e

theorem doings_append {c e : Controller} {first second : List Doing} :
    Doings c (first ++ second) e ↔ ∃ d, Doings c first d ∧ Doings d second e := by
  induction first generalizing c with
  | nil =>
    constructor
    · exact fun h => ⟨c, .nil c, h⟩
    · rintro ⟨_, ⟨⟩, h⟩
      exact h
  | cons doing first ih =>
    constructor
    · rintro ⟨⟩
      rename_i run later
      obtain ⟨d, h, k⟩ := ih.1 later
      exact ⟨d, .cons run h, k⟩
    · rintro ⟨d, ⟨⟩, k⟩
      rename_i run h
      exact .cons run (ih.2 ⟨d, h, k⟩)

/-- The deeds of a caller to whom every request gets a fixed reply. -/
def Controller.carryOut (reply : (request : Request) → request.Reply) :
    List Deed → Controller → List Doing × Controller
  | [], c => ([], c)
  | deed :: later, c =>
    let (log, outcome, d) := (deed.perform c).follow reply
    let (doings, e) := carryOut reply later d
    (⟨deed, log, outcome⟩ :: doings, e)

theorem doings_carryOut (reply : (request : Request) → request.Reply) (deeds : List Deed)
    (c : Controller) :
    Doings c (Controller.carryOut reply deeds c).1 (Controller.carryOut reply deeds c).2 := by
  induction deeds generalizing c with
  | nil => exact .nil c
  | cons deed later ih =>
    exact .cons (Act.runs_follow (I := Coupling) reply deed.perform c) (ih _)

theorem mem_carryOut {reply : (request : Request) → request.Reply} {deeds : List Deed}
    {c : Controller} {doing : Doing} (done : doing ∈ (Controller.carryOut reply deeds c).1)
    {e : Exchange Coupling} (member : e ∈ doing.log) : e = ⟨e.request, reply e.request⟩ := by
  induction deeds generalizing c with
  | nil => cases done
  | cons deed later ih =>
    rcases List.mem_cons.1 done with rfl | after
    · exact Program.mem_follow member
    · exact ih after

end FluidStructure.Coupling
