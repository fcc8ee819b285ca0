import FluidStructure.Proofs.Programs.Rounds
import FluidStructure.Proofs.Programs.Wall

/-!
# Time steps of both programs

A time step begins with an agreement on its length and ends in run control.  Both programs
take the same steps, with as many sub-iterations and the same length, and are at the same time
afterwards.
-/

namespace FluidStructure.Programs

open FluidStructure.Channel FluidStructure.Coupling FluidStructure.Journal FluidStructure.Parallel
open Network (Meets Roots Traffic Ahead)

/-- The point at which a step is entered. -/
def Point.entered (w : Point) (dt : Float) : Point :=
  { w with
    phase := .subIterating
    iteration := w.iteration + 1
    subIteration := 0
    step := w.step + 1
    dt }

section Steps

variable {φ : Type} [FluidSolver φ] {n : Nat} {r : Roots} {e : Terms}
  {place : Fin (n + 1) → Place} {sound : φ → Prop} {w : Point} {α β γ : Type}
  {Q : (Fin (n + 1) → α) → β → Traffic n → Prop} {x : Fin (n + 1) → Rank φ}
  {q : Program Parallel β} {d : MessageChannel} {l : Structure.Layout}

/-- The controller that has entered a step. -/
def entered (c : Controller) (iteration : Int32) (dt : Float) : Controller :=
  { c with
    phase := .subIterating
    session := { c.session with iteration, dt, previousDt := c.session.dt, subIteration := 0 }
    run := if iteration < 0 then c.run.advance.windDown else c.run.advance
    stepDt := dt }

theorem At.entered {place : Place} {c : Controller} (h : At e place w c) (active : w.phase = .active)
    {iteration : Int32} (next : iteration = w.iteration + 1) (later : ¬ iteration < 0)
    (dt : Float) : At e place (w.entered dt) (entered c iteration dt) := by
  have begun : w.phase ≠ .uninitialized := by rw [active]; decide
  have run : (Programs.entered c iteration dt).run = c.run.advance := if_neg later
  exact { h with
    phase := rfl
    iteration := next
    subIteration := rfl
    step := by
      rw [run]
      exact congrArg (· + 1) h.step
    lastStep := by
      rw [run]
      exact h.lastStep
    time := by
      rw [run]
      exact h.time
    dt := rfl
    buffers := { h.buffers with }
    staging := fun _ => h.staging begun }

/-- The root enters the step with the chosen length, or without a peer. -/
def concluding (c : Controller) (iteration : Int32) (reference : Float) :
    Option Float → Program Coupling (Except Fault Float × Controller)
  | some chosen => c.entering (iteration, chosen)
  | none => .ask (.note .exchangeLost) fun _ => c.entering (-1, reference)

/-- Both programs agree on the length of the step. -/
theorem meets_beginStep (launch : Launch r e place sound) (facing : Facing r e (n + 1) l)
    {F : Fin (n + 1) → (Except Fault Float × Controller) × Setting φ → Program Parallel α}
    {g : Option Float → Program Parallel β} (own : Float)
    (h : ∀ i, (x i).Stands e (place i) sound w) (active : w.phase = .active)
    (live : ¬ w.iteration < 0) (later : ¬ w.iteration + 1 < 0)
    (on : ∀ (x' : Fin (n + 1) → Rank φ) (dt : Float),
      (∀ i, (x' i).Stands e (place i) sound (w.entered dt)) →
      Meets r Q (fun i => F i ((x' i).gives (place i) dt)) (g (some dt)) .empty .empty) :
    Meets r Q (fun i => ((x i).does (place i) (Controller.beginStep own)).bind (F i))
      ((Structure.negotiate l (w.iteration + 1)).bind g) .empty .empty := by
  let c i := (x i).controller
  let p := e.parameters
  let left i : Program Coupling (Except Fault Float × Controller) := if i = 0 then
      (TimeStep.exchanged (c i).session (w.iteration + 1) own).bind
        (concluding (c i) (w.iteration + 1) p.referenceStep)
    else (c i).entering (w.iteration + 1, TimeStep.smaller p.referenceStep own)
  have starts i : Controller.beginStep own (c i) = left i := by
    have at_ := (h i).controller
    have coupled : (c i).session.isDryRun = false := at_.coupled launch.found
    have root : (c i).place.isRoot = decide (i = 0) :=
      (congrArg Place.isRoot at_.place).trans (launch.root i)
    rw [Controller.beginStep_live_apply own _ (at_.phase.trans active) (at_.live live)]
    unfold TimeStep.proposal
    rw [coupled, root, at_.iteration, at_.parameters]
    dsimp only [left]
    by_cases here : i = 0
    · rw [if_pos here, decide_eq_true here, if_pos (by decide), Program.bind_assoc]
      refine congrArg (Program.bind _) ?_
      funext exchanged
      cases exchanged <;> rfl
    · rw [if_neg here, decide_eq_false here, if_neg (by decide)]
      rfl
  have does i : ((x i).does (place i) (Controller.beginStep own)).bind (F i) =
      ((left i).via Setting.answer ((x i).setting (place i))).bind (F i) := by
    unfold Rank.does
    rw [starts]
  -- the root hears what the structure proposes
  let answer (received : Status × List Float) : Program Coupling (Option Float) :=
    if Status.failed received.1 then
      .ask (.note (.receiveFailed Variable.peerTimeStep received.1)) fun _ => .done none
    else
      let proposed := received.2.headD p.referenceStep
      let chosen := TimeStep.smallest p.referenceStep proposed own
      .ask (.sendReals r.solid (w.iteration + 1) Variable.negotiatedTimeStep [chosen]) fun sent =>
        if Status.failed sent then
          .ask (.note (.sendFailed Variable.negotiatedTimeStep sent)) fun _ => .done none
        else
          noting (c 0).session.isTracing (.stepExchanged (w.iteration + 1) own proposed chosen)
            (.done (some chosen))
  let enter := concluding (c 0) (w.iteration + 1) p.referenceStep
  have asks : left 0 = .ask (.receiveReals r.solid (w.iteration + 1) Variable.peerTimeStep
      [p.referenceStep]) fun received => (answer received).bind enter := by
    have at_ := (h 0).controller
    have there : (c 0).session.peer.root = r.solid :=
      (congrArg Discovery.Peer.root at_.peer).trans launch.peer
    refine (if_pos rfl).trans ?_
    unfold TimeStep.exchanged
    rw [there, at_.parameters]
    rfl
  have first : ((left 0).via Setting.answer ((x 0).setting (place 0))).bind (F 0) =
      (MessageChannel.receiveReals r.solid (w.iteration + 1) Variable.peerTimeStep
        [p.referenceStep]).bind fun received =>
          (((answer received).bind enter).via Setting.answer ((x 0).setting (place 0))).bind (F 0) := by
    rw [asks]
    exact Rank.via_receiveReals (x 0) (place 0) (F 0) r.solid (w.iteration + 1)
      Variable.peerTimeStep [p.referenceStep] fun received => (answer received).bind enter
  have proposes : (Structure.negotiate l (w.iteration + 1)).bind g =
      (MessageChannel.sendReals r.fluid (w.iteration + 1) Variable.peerTimeStep
        [l.proposedStep]).bind fun sent =>
          (if Status.failed sent then .done none
          else (MessageChannel.receiveReal r.fluid (w.iteration + 1) Variable.negotiatedTimeStep
            l.proposedStep).bind fun received =>
              .done (if Status.failed received.1 then none else some received.2)).bind g := by
    rw [← facing.fluid]
    exact Program.bind_assoc _ _ _
  refine Meets.of_eq does (Meets.realToFluid (by decide) proposes first ?_)
  -- it chooses and answers
  let chosen := TimeStep.smallest p.referenceStep l.proposedStep own
  have second := (Network.put_same (f := fun i => ((left i).via Setting.answer
    ((x i).setting (place i))).bind (F i)) (i := 0)).trans
      (Rank.via_sendReals (x 0) (place 0) (F 0) r.solid (w.iteration + 1)
        Variable.negotiatedTimeStep [chosen] fun sent =>
          (if Status.failed sent then
            .ask (.note (.sendFailed Variable.negotiatedTimeStep sent)) fun _ => .done none
          else
            noting (c 0).session.isTracing
              (.stepExchanged (w.iteration + 1) own l.proposedStep chosen)
              (.done (some chosen))).bind enter)
  refine Meets.realToSolid (by decide) second (Program.bind_assoc _ _ _) ?_
  rw [Network.put_put]
  let mine (i : Fin (n + 1)) : Float :=
    if i = 0 then chosen else TimeStep.smaller p.referenceStep own
  suffices entering : Meets r Q (fun i => (((c i).entering (w.iteration + 1, mine i)).via
      Setting.answer ((x i).setting (place i))).bind (F i)) (g (some chosen)) .empty .empty by
    refine Meets.ahead (fun i => ?_) entering
    by_cases here : i = 0
    · subst here
      rw [Network.put_same, show mine 0 = chosen from if_pos rfl,
        if_neg (show ¬ Status.failed 1 = true by decide), noting_bind]
      exact Rank.ahead_noting (x 0) (place 0) rfl _ _
    · rw [Network.put_other here, show left i = _ from if_neg here,
        show mine i = TimeStep.smaller p.referenceStep own from if_neg here]
      exact .inl rfl
  have told : mine 0 = chosen := if_pos rfl
  have one i : [mine i].length = 1 := rfl
  have one' (_ : Fin (n + 1)) : [w.iteration + 1].length = 1 := rfl
  refine Meets.broadcastReals (fun i => Rank.via_broadcastReals _ _ _ _ _) one ?_
  refine Meets.broadcastInts (fun i => Rank.via_broadcastInts _ _ _ _ _) one' ?_
  rw [told]
  let x' i : Rank φ := { x i with controller := entered (c i) (w.iteration + 1) chosen }
  exact Meets.ahead (fun i => Rank.ahead_noting (x i) (place i) rfl _ _)
    (on x' chosen fun i => { h i with controller := (h i).controller.entered active rfl later chosen })

/-! ## A whole step -/

/-- The point at which the sub-iterations of a step are over. -/
def Point.rounded (w : Point) (dt : Float) (count : Nat) : Point :=
  { w.entered dt with
    phase := .stepDone
    subIteration := Int32.ofNat count }

theorem At.rounded {place : Place} {c : Controller} {dt : Float} {count : Nat}
    (h : At e place { w.entered dt with subIteration := Int32.ofNat (0 + count) } c) :
    At e place (w.rounded dt count) { c with phase := .stepDone } := by
  rw [Nat.zero_add] at h
  exact { h with
    phase := rfl
    buffers := { h.buffers with }
    staging := fun _ => h.staging (by decide : Phase.subIterating ≠ .uninitialized) }

/-- The end of the sub-iterations. -/
def wrapUp : Act Coupling Controller Float := do
  Controller.setPhase .stepDone
  let c ← Act.get
  noteIf (c.place.isRoot && c.session.isVerbose)
    (.stepDone c.run.currentStep (c.run.time + c.stepDt) c.session.subIteration)
  return c.stepDt

theorem wrapUp_apply (c : Controller) :
    wrapUp c =
      noting (c.place.isRoot && c.session.isVerbose)
        (.stepDone c.run.currentStep (c.run.time + c.stepDt) c.session.subIteration)
        (.done (.ok c.stepDt, { c with phase := .stepDone })) :=
  noteIf_bind_apply _ _ _ _

/-- What the structure does once the step is agreed on. -/
def Structure.stepping (l : Structure.Layout) (p : Structure.RunParameters) (step : Int32)
    (s : Structure.State) : Option Float →
      Act Parallel MessageChannel (Structure.State × List Entry)
  | none => do
    note (.fluidStopped step)
    return ({ s with connected := false }, [])
  | some dt =>
    Structure.subIterateRecorded l s.oscillator step dt (Structure.cap p) s.oscillator.motion
        s.forces >>= fun result =>
      if result.1.2.2 then do
        let time := s.time + dt
        note (.structureStep step time result.1.1.x result.1.1.v)
        return (⟨s.oscillator.commit result.1.1, time, true, result.1.2.1⟩,
          [⟨result.2, dt, time⟩])
      else do
        note (.fluidStopped step)
        return ({ s with connected := false, forces := result.1.2.1 }, [])

theorem Structure.timeStepRecorded_eq (l : Structure.Layout) (p : Structure.RunParameters)
    (step : Int32) (s : Structure.State) :
    Structure.timeStepRecorded l p step s =
      Act.lift (Structure.negotiate l step) >>= Structure.stepping l p step s := by
  refine congrArg (_ >>= ·) ?_
  funext agreed
  cases agreed with
  | none => rfl
  | some dt =>
    refine congrArg (_ >>= ·) ?_
    funext ⟨⟨m, forces, connected⟩, count⟩
    cases connected <;> rfl

/-- One time step of both programs. -/
theorem meets_runStep (launch : Launch r e place sound) (facing : Facing r e (n + 1) l)
    {F : Fin (n + 1) → (Except Fault Float × Controller) × Setting φ → Program Parallel α}
    {p : Structure.RunParameters} {s : Structure.State}
    {g : Except Fault (Structure.State × List Entry) × MessageChannel → Program Parallel β}
    (own : Float) (h : ∀ i, (x i).Stands e (place i) sound w) (active : w.phase = .active)
    (live : ¬ w.iteration < 0) (later : ¬ w.iteration + 1 < 0)
    (cap : p.maxSubIterations = e.parameters.maxSubIterations)
    (single : d.isLocalRoot = true)
    (size : s.forces.length = (n + 1) * (3 * e.surface.faceCount))
    (on : ∀ (x' : Fin (n + 1) → Rank φ) (d' : MessageChannel) (dt : Float) (count : Nat)
      (o : Oscillator) (forces : List Float), count < 2 ^ 31 →
      (∀ i, (x' i).Stands e (place i) sound (w.rounded dt count)) →
      d'.place = d.place → forces.length = s.forces.length →
      Meets r Q (fun i => F i ((x' i).gives (place i) dt))
        (g (.ok (⟨o, s.time + dt, true, forces⟩, [⟨count, dt, s.time + dt⟩]), d'))
        .empty .empty) :
    Meets r Q (fun i => ((x i).does (place i) (Controller.runStep own)).bind (F i))
      ((Structure.timeStepRecorded l p (w.iteration + 1) s d).bind g) .empty .empty := by
  rw [Structure.timeStepRecorded_eq, Act.lift_bind_apply, Program.bind_assoc]
  refine Meets.of_eq (fun i => Rank.does_bind _ _ _ _ _) ?_
  refine meets_beginStep launch facing own h active live later fun x₁ dt h₁ => ?_
  have most i : (Controller.cap (x₁ i).controller.session).toNatClampNeg = e.cap.toNatClampNeg := by
    unfold Controller.cap
    rw [(h₁ i).controller.parameters]
    rfl
  have caps : Structure.cap p = e.cap.toNatClampNeg := by
    unfold Structure.cap Terms.cap
    rw [cap]
    split <;> rfl
  refine Meets.of_eq (fun i => show _ = ((x₁ i).does (place i)
    (Controller.subIterateAtMost e.cap.toNatClampNeg >>= fun _ => wrapUp)).bind (F i) from ?_) ?_
  · rw [← most i]
    rfl
  refine Meets.of_eq (fun i => Rank.does_bind _ _ _ _ _) ?_
  unfold Structure.stepping
  rw [act_bind, caps]
  refine meets_subIterations (w := w.entered dt) launch facing e.cap.toNatClampNeg 0
    (Nat.zero_add _) h₁ rfl later single size fun x₂ d₂ forces m count small h₂ place₂ size₂ => ?_
  let x₃ i : Rank φ := { x₂ i with controller := { (x₂ i).controller with phase := .stepDone } }
  have done := on x₃ d₂ dt count (s.oscillator.commit m) forces (Nat.zero_add count ▸ small)
    (fun i => { h₂ i with controller := (h₂ i).controller.rounded }) place₂ size₂
  refine Meets.solid_ahead (.inr ⟨_, _, rfl, rfl, rfl⟩) (Meets.ahead (fun i => ?_) done)
  have used : dt = (x₂ i).controller.stepDt := (h₂ i).controller.dt.symm
  show Network.Ahead ((Program.via Setting.answer (wrapUp (x₂ i).controller)
    ((x₂ i).setting (place i))).bind (F i)) _
  rw [wrapUp_apply, show F i ((x₃ i).gives (place i) dt) =
    F i ((x₃ i).gives (place i) (x₂ i).controller.stepDt) from congrArg _ (congrArg _ used)]
  exact Rank.ahead_noting (x₂ i) (place i) rfl _ _

/-! ## The step in the time loop -/

/-- The point at which a step is complete. -/
def Point.completed (w : Point) (e : Terms) (dt : Float) (count : Nat) : Point :=
  { w.rounded dt count with
    phase := if e.parameters.maxTimeSteps ≤ w.step + 1 then .terminating else .active
    time := w.time + dt }

/-- The controller that has completed a step. -/
def completed (c : Controller) : Controller :=
  { c with
    run := c.run.complete c.stepDt
    phase := if (c.run.complete c.stepDt).isLastStep then .terminating else .active }

theorem endStep_apply {c : Controller} (turn : c.phase = .stepDone) :
    Controller.endStep c = .done (.ok (), completed c) := by
  unfold Controller.endStep
  rw [Act.get_bind_apply, if_neg fun wrong => wrong.1 turn]
  rfl

theorem At.completed {place : Place} {c : Controller} {dt : Float} {count : Nat}
    (h : At e place (w.rounded dt count) c) :
    At e place (w.completed e dt count) (completed c) := by
  have last : (c.run.complete c.stepDt).isLastStep =
      decide (e.parameters.maxTimeSteps ≤ w.step + 1) := by
    rw [← h.lastStep, ← show c.run.currentStep = w.step + 1 from h.step]
    rfl
  have phase : (Programs.completed c).phase = (w.completed e dt count).phase := by
    unfold Programs.completed Point.completed
    rw [last]
    by_cases final : e.parameters.maxTimeSteps ≤ w.step + 1
    · rw [decide_eq_true final, if_pos rfl, if_pos final]
    · rw [decide_eq_false final, if_neg Bool.false_ne_true, if_neg final]
  have time : c.run.time + c.stepDt = w.time + dt :=
    congrArg₂ (· + ·) h.time h.dt
  exact { h with
    phase := phase
    time := time
    buffers := { h.buffers with }
    staging := fun _ => h.staging (by decide : Phase.stepDone ≠ .uninitialized) }

/-- What the record says of a complete step. -/
theorem At.entryOf {place : Place} {c : Controller} {dt : Float} {count : Nat}
    (h : At e place (w.completed e dt count) c) (small : count < 2 ^ 31) :
    Fluid.entryOf c = ⟨count, dt, w.time + dt⟩ := by
  have number : c.session.subIteration = Int32.ofNat count := h.subIteration
  unfold Fluid.entryOf
  rw [number, h.dt, h.time, Int32.toNatClampNeg_ofNat_of_lt small]
  rfl

/-- Controller and setting of a rank. -/
def Rank.pair (x : Rank φ) (place : Place) : Fluid.Coupled φ := (x.controller, x.setting place)

/-- What follows on an operation of the controller. -/
def beyond {δ : Type} (G : Except Fault γ × Fluid.Coupled φ → Program Parallel δ) :
    (Except Fault γ × Controller) × Setting φ → Program Parallel δ
  | ((result, c), s) => G (result, (c, s))

theorem embed_bind {δ ε : Type} (x : Rank φ) (place : Place) (act : Act Coupling Controller γ)
    (f : γ → Act Parallel (Fluid.Coupled φ) δ)
    (G : Except Fault δ × Fluid.Coupled φ → Program Parallel ε) :
    ((Setting.embed act >>= f) (x.pair place)).bind G =
      (x.does place act).bind (beyond (follows f G)) := by
  rw [act_bind]
  exact Program.bind_assoc _ _ _

theorem ahead_noteIf {σ δ ε : Type} {condition : Bool} {notice : Notice}
    (quiet : Network.failure? ⟨.note notice, ()⟩ = none) (f : Unit → Act Parallel σ δ) (s : σ)
    (G : Except Fault δ × σ → Program Parallel ε) :
    Ahead (((Parallel.noteIf condition notice >>= f) s).bind G) ((f () s).bind G) := by
  cases condition with
  | false => exact .inl rfl
  | true => exact .inr ⟨notice, _, quiet, rfl, rfl⟩

omit [FluidSolver φ] in
theorem output_bind {δ : Type} {place : Place} {x : Rank φ} {out out' : Controller.ParentArrays}
    {written : Bool}
    (h : Controller.scatterOutput x.controller.session out = (.ok written, out'))
    (f : Controller.ParentArrays → Act Parallel (Fluid.Coupled φ) δ) :
    (Fluid.output place out >>= f) (x.pair place) =
      (Parallel.noteIf (written && place.isRoot)
        (.wallOutput (out'.displacement.headD 0.0) (out'.force.headD 0.0)) >>= fun _ => f out')
          (x.pair place) := by
  have opened : Fluid.output place out (x.pair place) =
      (Parallel.noteIf (written && place.isRoot)
        (.wallOutput (out'.displacement.headD 0.0) (out'.force.headD 0.0)) >>= fun _ => pure out')
          (x.pair place) := by
    refine (congrArg (fun scattered : Except Fault Bool × Controller.ParentArrays =>
      (Act.ofExcept scattered.1 >>= fun written => Parallel.noteIf (written && place.isRoot)
        (.wallOutput (scattered.2.displacement.headD 0.0) (scattered.2.force.headD 0.0)) >>=
          fun _ => pure scattered.2) (x.pair place)) h)
  rw [Act.bind_apply, opened, ← Act.bind_apply, bind_assoc]
  rfl

/-- One step of both time loops. -/
theorem meets_step (launch : Launch r e place sound) (facing : Facing r e (n + 1) l)
    {mean : φ → Float} {out : Fin (n + 1) → Controller.ParentArrays}
    {G : Fin (n + 1) → Except Fault Controller.ParentArrays × Fluid.Coupled φ → Program Parallel α}
    {p : Structure.RunParameters} {s : Structure.State}
    {g : Except Fault (Structure.State × List Entry) × MessageChannel → Program Parallel β}
    (h : ∀ i, (x i).Stands e (place i) sound w) (active : w.phase = .active)
    (live : ¬ w.iteration < 0) (later : ¬ w.iteration + 1 < 0)
    (cap : p.maxSubIterations = e.parameters.maxSubIterations)
    (single : d.isLocalRoot = true)
    (size : s.forces.length = (n + 1) * (3 * e.surface.faceCount))
    (fits : ∀ i, Fits e.surface (out i))
    (on : ∀ (x' : Fin (n + 1) → Rank φ) (d' : MessageChannel)
      (out' : Fin (n + 1) → Controller.ParentArrays) (dt : Float) (count : Nat) (o : Oscillator)
      (forces : List Float), count < 2 ^ 31 →
      (∀ i, (x' i).Stands e (place i) sound (w.completed e dt count)) →
      (∀ i, Fits e.surface (out' i)) → d'.place = d.place → forces.length = s.forces.length →
      Meets r Q (fun i => G i (.ok (out' i), (x' i).pair (place i)))
        (g (.ok (⟨o, s.time + dt, true, forces⟩, [⟨count, dt, s.time + dt⟩]), d'))
        .empty .empty) :
    Meets r Q (fun i =>
        (Fluid.step (place i) e.parameters mean (out i) ((x i).pair (place i))).bind (G i))
      ((Structure.timeStepRecorded l p (w.iteration + 1) s d).bind g) .empty .empty := by
  refine Meets.of_eq (fun i => embed_bind (x i) (place i) (Controller.runStep _) _ (G i)) ?_
  refine meets_runStep launch facing _ h active live later cap single size
    fun x₁ d₁ dt count o forces small h₁ place₁ size₁ => ?_
  have written i := scatterOutput_ok (h₁ i).controller.surface (h₁ i).controller.buffers
    (h₁ i).controller.displacement (h₁ i).controller.force launch.someFaces launch.someVertices
    (fits i)
  choose wrote out' scattered fits' using written
  let x₂ i : Rank φ := { x₁ i with controller := completed (x₁ i).controller }
  have done := on x₂ d₁ out' dt count o forces small
    (fun i => { h₁ i with controller := (h₁ i).controller.completed }) fits' place₁ size₁
  -- output and report follow without the structure
  refine Meets.of_eq (fun i => congrArg (Program.bind · (G i)) (output_bind (scattered i) _)) ?_
  refine Meets.ahead (fun i => ahead_noteIf rfl _ _ _) ?_
  have closes i : (x₁ i).does (place i) Controller.endStep =
      .done ((x₂ i).gives (place i) ()) := by
    unfold Rank.does
    rw [endStep_apply (h₁ i).controller.phase]
    rfl
  refine Meets.of_eq (fun i => (embed_bind (x₁ i) (place i) Controller.endStep _ (G i)).trans
    (congrArg (Program.bind · _) (closes i))) ?_
  exact Meets.ahead (fun i => ahead_noteIf rfl _ _ _) done

/-! ## All steps -/

/-- So many steps are complete, and so many are left. -/
structure Point.Between (w : Point) (e : Terms) (complete left : Nat) : Prop where
  total : complete + left = e.parameters.maxTimeSteps.toNatClampNeg
  iteration : w.iteration = Int32.ofNat complete
  step : w.step = Int32.ofNat complete
  phase : w.phase = if left = 0 then .terminating else .active

theorem Point.Between.completed {w : Point} {complete left : Nat} {dt : Float} {count : Nat}
    (h : w.Between e complete (left + 1)) :
    (w.completed e dt count).Between e (complete + 1) left := by
  have total := h.total
  have range := Int32.toInt_lt e.parameters.maxTimeSteps
  have whole : e.parameters.maxTimeSteps = Int32.ofNat (complete + 1 + left) := by
    refine Int32.toInt_inj.1 ?_
    unfold Int32.toNatClampNeg at total
    rw [Int32.toInt_ofNat_of_lt (by omega)]
    omega
  have small : complete + 1 + left < 2 ^ 31 := by
    unfold Int32.toNatClampNeg at total
    omega
  have next : Int32.ofNat complete + 1 = Int32.ofNat (complete + 1) :=
    (Int32.ofNat_add complete 1).symm
  refine ⟨by omega, (congrArg (· + 1) h.iteration).trans next, (congrArg (· + 1) h.step).trans next, ?_⟩
  have final : e.parameters.maxTimeSteps ≤ w.step + 1 ↔ left = 0 := by
    rw [h.step, next, whole, Int32.ofNat_le_iff_le small (by omega)]
    omega
  exact if_congr final rfl rfl

theorem Point.Between.live {w : Point} {complete left : Nat} (h : w.Between e complete (left + 1)) :
    ¬ w.iteration < 0 ∧ ¬ w.iteration + 1 < 0 := by
  have total := h.total
  have range := Int32.toInt_lt e.parameters.maxTimeSteps
  unfold Int32.toNatClampNeg at total
  have next : Int32.ofNat complete + 1 = Int32.ofNat (complete + 1) :=
    (Int32.ofNat_add complete 1).symm
  rw [h.iteration, next]
  exact ⟨Int32.not_lt.2 (Int32.zero_le_ofNat_of_lt (by omega)),
    Int32.not_lt.2 (Int32.zero_le_ofNat_of_lt (by omega))⟩

/-- Both time loops take the same steps, with the same record. -/
theorem meets_steps (launch : Launch r e place sound) (facing : Facing r e (n + 1) l)
    {mean : φ → Float} {out : Fin (n + 1) → Controller.ParentArrays}
    {G : Fin (n + 1) → Except Fault (List Entry) × Fluid.Coupled φ → Program Parallel α}
    {p : Structure.RunParameters} {s : Structure.State}
    {g : Except Fault (Structure.State × List Entry) × MessageChannel → Program Parallel β}
    (left complete : Nat) (between : w.Between e complete left)
    (h : ∀ i, (x i).Stands e (place i) sound w)
    (cap : p.maxSubIterations = e.parameters.maxSubIterations) (single : d.isLocalRoot = true)
    (size : s.forces.length = (n + 1) * (3 * e.surface.faceCount)) (time : s.time = w.time)
    (connected : s.connected = true) (fits : ∀ i, Fits e.surface (out i))
    (on : ∀ (w' : Point) (x' : Fin (n + 1) → Rank φ) (d' : MessageChannel) (s' : Structure.State)
      (entries : List Entry), entries.length = left →
      w'.Between e e.parameters.maxTimeSteps.toNatClampNeg 0 →
      (∀ i, (x' i).Stands e (place i) sound w') → d'.place = d.place → s'.connected = true →
      Meets r Q (fun i => G i (.ok entries, (x' i).pair (place i))) (g (.ok (s', entries), d'))
        .empty .empty) :
    Meets r Q (fun i =>
        (Fluid.stepsRecorded (place i) e.parameters mean (left + 2) (out i)
          ((x i).pair (place i))).bind (G i))
      ((Structure.timeStepsRecorded l p left (w.iteration + 1) s d).bind g) .empty .empty := by
  induction left generalizing w x d out s G g complete with
  | zero =>
    have total : complete = e.parameters.maxTimeSteps.toNatClampNeg := between.total
    refine Meets.of_eq (fun i => ?_) (on w x d s [] rfl (total ▸ between) h rfl connected)
    have idle : ¬ (x i).controller.phase = .active := by
      rw [(h i).controller.phase, between.phase, if_pos rfl]
      decide
    have ends : Fluid.stepsRecorded (place i) e.parameters mean (0 + 2) (out i)
        ((x i).pair (place i)) = .done (.ok [], (x i).pair (place i)) :=
      congrFun (if_neg idle) _
    rw [ends]
    rfl
  | succ left ih =>
    obtain ⟨live, later⟩ := between.live
    have active : w.phase = .active := between.phase
    let onward i (out : Controller.ParentArrays) : Act Parallel (Fluid.Coupled φ) (List Entry) :=
      Fluid.controller >>= fun c =>
        Fluid.stepsRecorded (place i) e.parameters mean (left + 2) out >>= fun later =>
          pure (Fluid.entryOf c :: later)
    have enters i : (Fluid.stepsRecorded (place i) e.parameters mean (left + 1 + 2) (out i)
        ((x i).pair (place i))).bind (G i) =
          (Fluid.step (place i) e.parameters mean (out i) ((x i).pair (place i))).bind
            (follows (onward i) (G i)) := by
      have goes : (x i).controller.phase = .active := (h i).controller.phase.trans active
      rw [← act_bind]
      exact congrArg (Program.bind · (G i)) (congrFun (if_pos goes) ((x i).pair (place i)))
    refine Meets.of_eq enters ?_
    unfold Structure.timeStepsRecorded
    rw [act_bind]
    refine meets_step launch facing h active live later cap single size fits
      fun x' d' out' dt count o forces small h' fits' place' size' => ?_
    have entry i : Fluid.entryOf (x' i).controller = ⟨count, dt, w.time + dt⟩ :=
      (h' i).controller.entryOf small
    refine Meets.of_eq (fun i => act_bind
      (Fluid.stepsRecorded (place i) e.parameters mean (left + 2) (out' i))
      (fun later => pure (Fluid.entryOf (x' i).controller :: later)) ((x' i).pair (place i)) (G i)) ?_
    rw [time]
    have resumes : follows (fun y : Structure.State × List Entry =>
        if y.1.connected then
          Structure.timeStepsRecorded l p left (w.iteration + 1 + 1) y.1 >>= fun z =>
            pure (z.1, y.2 ++ z.2)
        else pure (y.1, y.2)) g
          (.ok (⟨o, w.time + dt, true, forces⟩, [⟨count, dt, w.time + dt⟩]), d') =
        (Structure.timeStepsRecorded l p left ((w.completed e dt count).iteration + 1)
          ⟨o, w.time + dt, true, forces⟩ d').bind
            (follows (fun z => pure (z.1, [⟨count, dt, w.time + dt⟩] ++ z.2)) g) := by
      rw [← act_bind]
      rfl
    refine (congrArg (Meets r Q _ · Network.Mail.empty Network.Mail.empty) resumes).mpr ?_
    refine ih (w := w.completed e dt count) (s := ⟨o, w.time + dt, true, forces⟩) (complete + 1) between.completed h'
      (single_of_place place' single) (size'.trans size)
      rfl rfl fits' fun w'' x'' d'' s'' entries long between'' h'' place'' connected'' => ?_
    refine Meets.of_eq (fun i => ?_) (on w'' x'' d'' s'' (⟨count, dt, w.time + dt⟩ :: entries)
      (congrArg (· + 1) long) between'' h'' (place''.trans place') connected'')
    exact congrArg (fun first => G i (.ok (first :: entries), (x'' i).pair (place i))) (entry i)

end Steps

end FluidStructure.Programs
