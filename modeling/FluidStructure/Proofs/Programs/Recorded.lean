import FluidStructure.Programs.Fluid
import FluidStructure.Programs.Structure

/-!
# Records of the time steps

Both programs run step after step without a record of what they did.  Here each of them
gives such a record in addition; what they ask, in which order, and what else they give are
the same as without it.
-/

namespace FluidStructure.Programs

open FluidStructure.Channel FluidStructure.Coupling FluidStructure.Journal FluidStructure.Parallel

/-- What one program did in a time step. -/
structure Entry where
  subIterations : Nat
  /-- Length of the step. -/
  dt : Float
  /-- Time at the end of the step. -/
  time : Float

/-! ## Structure -/

namespace Structure

/-- Sub-iterations with their number. -/
def subIterateRecorded (l : Layout) (o : Oscillator) (step : Int32) (dt : Float) :
    Nat → Motion → List Float →
      Act Parallel MessageChannel ((Motion × List Float × Bool) × Nat)
  | 0, m, forces => return ((m, forces, true), 0)
  | n + 1, m, forces => do
    let (status, forces) ← MessageChannel.receiveField l.fluid Variable.fluidForces forces
    if Status.failed status then return ((m, forces, false), 0)
    else
      let m := o.trial (resultant forces) dt
      match ← answerMotion l step m with
      | .again =>
        let (result, later) ← subIterateRecorded l o step dt n m forces
        return (result, later + 1)
      | .converged => return ((m, forces, true), 1)
      | .lost => return ((m, forces, false), 1)

/-- One time step with its entry, if all exchanges succeeded. -/
def timeStepRecorded (l : Layout) (p : RunParameters) (step : Int32) (s : State) :
    Act Parallel MessageChannel (State × List Entry) := do
  match ← Act.lift (negotiate l step) with
  | none =>
    note (.fluidStopped step)
    return ({ s with connected := false }, [])
  | some dt =>
    let ((m, forces, connected), subIterations) ←
      subIterateRecorded l s.oscillator step dt (cap p) s.oscillator.motion s.forces
    if connected then
      let time := s.time + dt
      note (.structureStep step time m.x m.v)
      return ({ oscillator := s.oscillator.commit m, time, connected, forces },
        [⟨subIterations, dt, time⟩])
    else
      note (.fluidStopped step)
      return ({ s with connected, forces }, [])

/-- Time steps with their entries. -/
def timeStepsRecorded (l : Layout) (p : RunParameters) :
    Nat → Int32 → State → Act Parallel MessageChannel (State × List Entry)
  | 0, _, s => return (s, [])
  | n + 1, step, s => do
    let (s, entry) ← timeStepRecorded l p step s
    if s.connected then
      let (s, later) ← timeStepsRecorded l p n (step + 1) s
      return (s, entry ++ later)
    else return (s, entry)

/-- The exchange with the fluid with an entry for each time step. -/
def exchangeRecorded (l : Layout) (o : Oscillator) :
    Act Parallel MessageChannel (Int32 × List Entry) := do
  match ← Act.lift (receiveParameters l.fluid) with
  | none =>
    note .parametersMissing
    return (1, [])
  | some p =>
    note (.structureCoupled declaration.name.shown l.fluidName.shown p.maxTimeSteps p.maxSubIterations
      l.faces l.vertices)
    let first : State :=
      { oscillator := o, time := p.initialTime, forces := Session.zeroVectors l.faces }
    let (s, entries) ← timeStepsRecorded l p p.maxTimeSteps.toNatClampNeg 1 first
    if s.connected then awaitEnding l p else pure ()
    note (.structureFinished s.time s.oscillator.motion.x)
    return (0, entries)

theorem subIterate_eq (l : Layout) (o : Oscillator) (step : Int32) (dt : Float) (n : Nat)
    (m : Motion) (forces : List Float) :
    subIterate l o step dt n m forces =
      Prod.fst <$> subIterateRecorded l o step dt n m forces := by
  induction n generalizing m forces with
  | zero => rfl
  | succ n ih =>
    unfold subIterate subIterateRecorded
    rw [map_bind]
    refine congrArg (_ >>= ·) ?_
    funext ⟨status, received⟩
    dsimp only
    split
    · rfl
    · rw [map_bind]
      refine congrArg (_ >>= ·) ?_
      funext answered
      cases answered with
      | again =>
        dsimp only
        rw [ih, map_bind]
        rfl
      | converged => rfl
      | lost => rfl

theorem timeStep_eq (l : Layout) (p : RunParameters) (step : Int32) (s : State) :
    timeStep l p step s = Prod.fst <$> timeStepRecorded l p step s := by
  unfold timeStep timeStepRecorded
  rw [map_bind]
  refine congrArg (_ >>= ·) ?_
  funext agreed
  cases agreed with
  | none => rfl
  | some dt =>
    dsimp only
    rw [subIterate_eq, map_bind, bind_map_left]
    refine congrArg (_ >>= ·) ?_
    funext ⟨⟨m, forces, connected⟩, count⟩
    cases connected <;> rfl

theorem timeSteps_eq (l : Layout) (p : RunParameters) (n : Nat) (step : Int32) (s : State) :
    timeSteps l p n step s = Prod.fst <$> timeStepsRecorded l p n step s := by
  induction n generalizing step s with
  | zero => rfl
  | succ n ih =>
    unfold timeSteps timeStepsRecorded
    rw [timeStep_eq, map_bind, bind_map_left]
    refine congrArg (_ >>= ·) ?_
    funext ⟨s, entry⟩
    dsimp only
    split
    · rw [ih, map_bind]
      rfl
    · rfl

/-- The record changes nothing. -/
theorem exchange_eq (l : Layout) (o : Oscillator) :
    exchange l o = Prod.fst <$> exchangeRecorded l o := by
  unfold exchange exchangeRecorded
  rw [map_bind]
  refine congrArg (_ >>= ·) ?_
  funext received
  cases received with
  | none => rfl
  | some p =>
    dsimp only
    rw [map_bind]
    refine congrArg (_ >>= ·) ?_
    funext _
    rw [timeSteps_eq, map_bind, bind_map_left]
    refine congrArg (_ >>= ·) ?_
    funext ⟨s, entries⟩
    dsimp only
    split
    · simp only [map_bind, map_pure]
    · rfl

end Structure

/-! ## Fluid -/

namespace Fluid

variable {φ : Type} [FluidSolver φ]

/-- The entry of the step that is complete. -/
def entryOf (c : Controller) : Entry := ⟨c.session.subIteration.toNatClampNeg, c.stepDt, c.run.time⟩

/-- Steps with their entries. -/
def stepsRecorded (place : Place) (p : Parameters) (mean : φ → Float) :
    Nat → Controller.ParentArrays → Act Parallel (Coupled φ) (List Entry)
  | 0, _ => return []
  | n + 1, out => do
    if (← controller).phase = .active then
      let out ← step place p mean out
      let c ← controller
      let later ← stepsRecorded place p mean n out
      return entryOf c :: later
    else return []

/-- The whole coupled run with an entry for each step. -/
def timeLoopRecorded (place : Place) (p : Parameters) (mean : φ → Float)
    (out : Controller.ParentArrays) : Act Parallel (Coupled φ) (List Entry) := do
  Setting.embed Controller.begin
  let entries ← stepsRecorded place p mean (stepBound p) out
  Setting.embed Controller.finish
  return entries

theorem steps_eq (place : Place) (p : Parameters) (mean : φ → Float) (n : Nat)
    (out : Controller.ParentArrays) :
    steps place p mean n out = (fun _ => ()) <$> stepsRecorded place p mean n out := by
  induction n generalizing out with
  | zero => rfl
  | succ n ih =>
    unfold steps stepsRecorded
    rw [map_bind]
    refine congrArg (_ >>= ·) ?_
    funext c
    split
    · rw [map_bind]
      refine congrArg (_ >>= ·) ?_
      funext out
      rw [ih]
      simp only [map_bind, map_pure]
      rfl
    · rfl

/-- The record changes nothing. -/
theorem timeLoop_eq (place : Place) (p : Parameters) (mean : φ → Float)
    (out : Controller.ParentArrays) :
    timeLoop place p mean out = (fun _ => ()) <$> timeLoopRecorded place p mean out := by
  unfold timeLoop timeLoopRecorded
  rw [map_bind]
  refine congrArg (_ >>= ·) ?_
  funext _
  rw [steps_eq, map_bind, bind_map_left]
  refine congrArg (_ >>= ·) ?_
  funext entries
  simp only [map_bind, map_pure]
  exact bind_pure_unit.symm

end Fluid

end FluidStructure.Programs
