import FluidStructure.Proofs.Coupling.Stages
import FluidStructure.Proofs.Coupling.Transport
import FluidStructure.Proofs.Course

/-!
# Operations of the controller

What a caller can ask of the controller, in any order and any number.  Each operation has
a course whose stages are its exchanges and what is done with their outcome; the two are
the same act.
-/

namespace FluidStructure.Coupling

open FluidStructure.Channel FluidStructure.Journal

/-- An operation of the controller. -/
inductive Operation where
  | begin
  | beginStep (own : Float)
  | runStep (own : Float)
  | endStep
  | finish
  | sendForces
  | receiveDisplacement
  /-- The parent array is empty if there is none. -/
  | predictDisplacement (parent : List Float)
  | exchangeConvergence
  | saveValues

/-- What an operation gives. -/
inductive Answer where
  | nothing
  | step (dt : Float)
  | decision (converged : Bool)
  /-- The outcome of a prediction and the parent array afterwards. -/
  | predicted (outcome : Except Fault Coefficients) (parent : List Float)

namespace Operation

open Controller

def perform : Operation → Act Coupling Controller Answer
  | begin => do
    Controller.begin
    return .nothing
  | beginStep own => return .step (← Controller.beginStep own)
  | runStep own => return .step (← Controller.runStep own)
  | endStep => do
    Controller.endStep
    return .nothing
  | finish => do
    Controller.finish
    return .nothing
  | sendForces => do
    Controller.sendForces
    return .nothing
  | receiveDisplacement => do
    Controller.receiveDisplacement
    return .nothing
  | predictDisplacement parent => do
    let (outcome, parent) ← predictDisplacementOnto parent
    return .predicted outcome parent
  | exchangeConvergence => return .decision (← Controller.exchangeConvergence)
  | saveValues => do
    Controller.saveValues
    return .nothing

end Operation

namespace Controller

/-! ## Stages -/

/-- The beginning up to the status of the parameter exchange, known to the whole group. -/
def offerParameters : Act Coupling Controller Status := do
  requirePhase .uninitialized "initialize"
  if !(← Act.get).session.isRegistered then Act.fail .geometryMissing
  else
    sizeStaging
    let c ← Act.get
    if c.session.isDryRun then
      noteIf c.place.isRoot .dryRun
      return Status.ok
    else
      let own ← onRoot (sendParameters c.session)
      shareInt own

/-- A step up to the proposal of this rank. -/
def proposeStep (own : Float) : Act Coupling Controller (Int32 × Float) := do
  requirePhase .active "begin_time_step"
  setPhase .negotiating
  Act.modify fun c => { c with run := c.run.advance }
  let c ← Act.get
  if c.session.isTerminated then return (0, own)
  else TimeStep.propose c.place c.session own

/-- The agreement of the group on a proposal. -/
def settleStep (own : Float) (proposed : Int32 × Float) : Act Coupling Controller Float := do
  let c ← Act.get
  if c.session.isTerminated then return own
  else onSchedule (TimeStep.settle (c.place.isRoot && c.session.isVerbose) proposed)

/-- Enters an agreed step. -/
def enterStep (dt : Float) : Act Coupling Controller Float := do
  Act.modify fun c => { c with stepDt := dt }
  modifySession Session.resetSubIterations
  setPhase .subIterating
  return dt

/-- Prediction and sending of the forces, up to the status. -/
def offerForces : Act Coupling Controller Status := do
  requirePhase .subIterating "send_forces"
  if (← Act.get).session.isTerminated then return Status.ok
  else
    let _ ← onSession Prediction.predictForces
    let s := (← Act.get).session
    if s.isDryRun then return Status.ok
    else sendField s.peer.root Variable.fluidForces s.predictedForce

/-- Receives displacement and velocity, up to the status; none if nothing is received. -/
def collectMotion : Act Coupling Controller (Option Status) := do
  requirePhase .subIterating "receive_displacement"
  let c ← Act.get
  if c.session.isDryRun then
    modifySession rest
    return none
  else if c.session.isTerminated then return none
  else
    noteIf (c.session.isTracing && c.place.isRoot)
      (.receivingFields Variable.meshDisplacement Variable.meshVelocity)
    return some (← receiveStaged c.session.peer.root)

/-- Takes what was collected. -/
def acceptMotion : Option Status → Act Coupling Controller Unit
  | none => pure ()
  | some status => unlessTerminated (acceptStaged status)

/-- The convergence exchange up to the decision and the status of the group. -/
def shareDecision : Act Coupling Controller (Int32 × Status) := do
  requirePhase .subIterating "exchange_convergence"
  let own ← onEvaluation (Convergence.evaluate (← Act.get).place)
  let peer ← askPeerConvergence own
  let status ← sendConvergence own
  sharePair (if own && peer then 1 else 0) status

/-- The end of a sub-iteration; tells whether it was the last. -/
def conclude (converged : Bool) : Act Coupling Controller Bool := do
  saveValues
  modifySession Session.nextSubIteration
  return isDone (← Act.get).session converged

/-- The end of a whole step. -/
def leaveStep : Act Coupling Controller Float := do
  setPhase .stepDone
  let c ← Act.get
  noteIf (c.place.isRoot && c.session.isVerbose)
    (.stepDone c.run.currentStep (c.run.time + c.stepDt) c.session.subIteration)
  return c.stepDt

/-! ## Courses -/

def beginCourse : Course Coupling Controller Unit := do
  let status ← Course.of offerParameters
  Course.of (heed status "parameter exchange")
  Course.of (setPhase .active)

def beginStepCourse (own : Float) : Course Coupling Controller Float := do
  let proposed ← Course.of (proposeStep own)
  let dt ← Course.of (settleStep own proposed)
  Course.of (enterStep dt)

def sendForcesCourse : Course Coupling Controller Unit := do
  let status ← Course.of offerForces
  Course.of (heed status "force exchange")

def receiveDisplacementCourse : Course Coupling Controller Unit := do
  let collected ← Course.of collectMotion
  Course.of (acceptMotion collected)

def exchangeConvergenceCourse : Course Coupling Controller Bool := do
  let (decision, shared) ← Course.of shareDecision
  Course.of (heed shared "convergence exchange")
  return decision != 0

/-- A sub-iteration once the forces are there. -/
def exchangeCourse : Course Coupling Controller Bool := do
  sendForcesCourse
  receiveDisplacementCourse
  let _ ← Course.of predictDisplacement
  Course.of (unlessTerminated imposeDisplacement)
  let converged ← exchangeConvergenceCourse
  Course.of (conclude converged)

def subIterateCourse : Course Coupling Controller Bool := do
  Course.of computeForces
  exchangeCourse

def subIterateAtMostCourse : Nat → Course Coupling Controller Unit
  | 0 => pure ()
  | n + 1 => do
    if ← subIterateCourse then pure () else subIterateAtMostCourse n

def runStepCourse (own : Float) : Course Coupling Controller Float := do
  let _ ← beginStepCourse own
  let c ← Course.of Act.get
  subIterateAtMostCourse (cap c.session).toNatClampNeg
  Course.of leaveStep

theorem heed_ok (during : String) : heed Status.ok during = pure () := rfl

theorem toAct_beginCourse : beginCourse.toAct = begin := by
  unfold beginCourse
  simp only [Course.toAct_bind, Course.toAct_of]
  unfold offerParameters begin
  simp only [bind_assoc]
  congr 1; funext _; congr 1; funext c
  split
  · rfl
  · simp only [bind_assoc]
    congr 1; funext _
    unfold announce
    simp only [bind_assoc]
    congr 1; funext c
    split
    · simp only [bind_assoc, pure_bind, heed_ok]
    · simp only [bind_assoc]

theorem toAct_beginStepCourse (own : Float) : (beginStepCourse own).toAct = beginStep own := by
  unfold beginStepCourse
  simp only [Course.toAct_bind, Course.toAct_of]
  unfold proposeStep beginStep
  simp only [bind_assoc]
  congr 1; funext _; congr 1; funext _; congr 1; funext _
  funext c
  rw [Act.get_bind_apply, Act.get_bind_apply]
  unfold onSchedule
  rw [Act.bind_apply (Act.zoom _ _ _), Act.zoom_apply, TimeStep.negotiate_apply]
  cases h : c.session.isTerminated with
  | true =>
    simp only [if_true]
    rw [pure_bind]
    unfold settleStep
    rw [bind_assoc, Act.get_bind_apply, h]
    rfl
  | false =>
    simp only [Bool.false_eq_true, if_false, TimeStep.propose_eq_lift]
    rw [Act.lift_bind_apply, Program.bind_assoc, Program.bind_assoc]
    congr 1; funext proposed
    unfold settleStep
    rw [bind_assoc, Act.get_bind_apply, h]
    simp only [Bool.false_eq_true, if_false]
    unfold onSchedule
    rw [Act.bind_apply, Act.zoom_apply, Program.bind_assoc]
    rfl

theorem toAct_sendForcesCourse : sendForcesCourse.toAct = sendForces := by
  unfold sendForcesCourse
  simp only [Course.toAct_bind, Course.toAct_of]
  unfold offerForces sendForces unlessTerminated
  simp only [bind_assoc]
  congr 1; funext _; congr 1; funext c
  split
  · rw [pure_bind, heed_ok]
  · simp only [bind_assoc]
    congr 1; funext _; congr 1; funext c
    split
    · rw [pure_bind, heed_ok]
    · rfl

theorem toAct_receiveDisplacementCourse :
    receiveDisplacementCourse.toAct = receiveDisplacement := by
  unfold receiveDisplacementCourse
  rw [Course.toAct_bind, Course.toAct_of]
  simp only [Course.toAct_of]
  unfold collectMotion receiveDisplacement
  rw [bind_assoc]
  congr 1; funext _ c
  rw [bind_assoc, Act.get_bind_apply, Act.get_bind_apply]
  split
  · rfl
  · rw [unlessTerminated_apply]
    by_cases h : c.session.isTerminated
    · rw [if_pos h, if_pos h]
      rfl
    · rw [if_neg h, if_neg h, bind_assoc, noteIf_bind_apply, noteIf_bind_apply, bind_assoc,
        receiveStaged_bind_apply, receiveStaged_bind_apply]
      congr 2; funext reply; congr 1; funext first
      dsimp only
      split
      · exact (unlessTerminated_apply _ _).trans (if_neg h)
      · congr 1; funext reply; congr 1; funext second
        exact (unlessTerminated_apply _ _).trans (if_neg h)

theorem toAct_exchangeConvergenceCourse :
    exchangeConvergenceCourse.toAct = exchangeConvergence := by
  unfold exchangeConvergenceCourse
  simp only [Course.toAct_bind, Course.toAct_of, Course.toAct_pure]
  unfold shareDecision exchangeConvergence
  simp only [bind_assoc]

theorem toAct_subIterateCourse : subIterateCourse.toAct = subIterate := by
  unfold subIterateCourse exchangeCourse
  simp only [Course.toAct_bind, Course.toAct_of, toAct_sendForcesCourse,
    toAct_receiveDisplacementCourse, toAct_exchangeConvergenceCourse]
  rfl

theorem toAct_subIterateAtMostCourse (n : Nat) :
    (subIterateAtMostCourse n).toAct = subIterateAtMost n := by
  induction n with
  | zero => rfl
  | succ n ih =>
    unfold subIterateAtMostCourse subIterateAtMost
    rw [Course.toAct_bind, toAct_subIterateCourse]
    congr 1; funext last
    cases last with
    | true => rfl
    | false => exact ih

theorem toAct_runStepCourse (own : Float) : (runStepCourse own).toAct = runStep own := by
  unfold runStepCourse
  simp only [Course.toAct_bind, Course.toAct_of, toAct_beginStepCourse,
    toAct_subIterateAtMostCourse]
  rfl

end Controller

namespace Operation

open Controller

/-- An operation, cut into its stages. -/
def course : Operation → Course Coupling Controller Answer
  | begin => do
    beginCourse
    return .nothing
  | beginStep own => return .step (← beginStepCourse own)
  | runStep own => return .step (← runStepCourse own)
  | endStep => do
    Course.of Controller.endStep
    return .nothing
  | finish => do
    Course.of Controller.finish
    return .nothing
  | sendForces => do
    sendForcesCourse
    return .nothing
  | receiveDisplacement => do
    receiveDisplacementCourse
    return .nothing
  | predictDisplacement parent => do
    let (outcome, parent) ← Course.of (predictDisplacementOnto parent)
    return .predicted outcome parent
  | exchangeConvergence => return .decision (← exchangeConvergenceCourse)
  | saveValues => do
    Course.of Controller.saveValues
    return .nothing

/-- The stages of an operation make up the operation. -/
theorem toAct_course (operation : Operation) : operation.course.toAct = operation.perform := by
  cases operation <;>
    simp only [course, perform, Course.toAct_bind, Course.toAct_of, Course.toAct_pure,
      toAct_beginCourse, toAct_beginStepCourse, toAct_runStepCourse, toAct_sendForcesCourse,
      toAct_receiveDisplacementCourse, toAct_exchangeConvergenceCourse]

end Operation

/-! ## Runs of a caller -/

/-- What became of an operation. -/
structure Record where
  operation : Operation
  log : Log Coupling
  outcome : Except Fault Answer

/-- From a controller, operation after operation, to a controller.  The caller goes on after
a fault. -/
inductive History : Controller → List Record → Controller → Prop
  | nil (c : Controller) : History c [] c
  | cons {c d e : Controller} {record : Record} {records : List Record}
      (run : record.operation.perform.Runs c record.log record.outcome d)
      (later : History d records e) : History c (record :: records) e

theorem History.append {c d e : Controller} {records later : List Record}
    (h : History c records d) (k : History d later e) : History c (records ++ later) e := by
  induction h with
  | nil => exact k
  | cons run _ ih => exact .cons run (ih k)

/-- The run of a caller in which every request gets a fixed reply. -/
def Controller.follow (reply : (request : Request) → request.Reply) :
    List Operation → Controller → List Record × Controller
  | [], c => ([], c)
  | operation :: later, c =>
    let (log, outcome, d) := (operation.perform c).follow reply
    let (records, e) := follow reply later d
    (⟨operation, log, outcome⟩ :: records, e)

theorem history_follow (reply : (request : Request) → request.Reply)
    (operations : List Operation) (c : Controller) :
    History c (Controller.follow reply operations c).1
      (Controller.follow reply operations c).2 := by
  induction operations generalizing c with
  | nil => exact .nil c
  | cons operation later ih =>
    exact .cons (Act.runs_follow (I := Coupling) reply operation.perform c) (ih _)

theorem mem_follow {reply : (request : Request) → request.Reply} {operations : List Operation}
    {c : Controller} {r : Record} (recorded : r ∈ (Controller.follow reply operations c).1)
    {e : Exchange Coupling} (member : e ∈ r.log) : e = ⟨e.request, reply e.request⟩ := by
  induction operations generalizing c with
  | nil => cases recorded
  | cons operation later ih =>
    rcases List.mem_cons.1 recorded with rfl | after
    · exact Program.mem_follow member
    · exact ih after

/-- The moments of a run of which some operation still has this course: within it, or after it
and some further operations, within one more. -/
inductive Later (rest : Course Coupling Controller Answer) (c : Controller) :
    List Record → Log Coupling → Controller → Prop
  | within {log : Log Coupling} {left : Course Coupling Controller Answer} {d : Controller}
      (reached : rest.Reaches c log left d) : Later rest c [] log d
  | beyond {first last : Log Coupling} {outcome : Except Fault Answer} {d e f : Controller}
      {records : List Record} {operation : Operation}
      {left : Course Coupling Controller Answer}
      (ended : rest.toAct.Runs c first outcome d) (history : History d records e)
      (reached : operation.course.Reaches e last left f) :
      Later rest c records (first ++ records.flatMap Record.log ++ last) f

end FluidStructure.Coupling
