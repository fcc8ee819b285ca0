import FluidStructure.Proofs.Programs.TimeSteps

/-!
# Whole runs of both programs

The fluid sends its parameters, both programs take all steps, and the fluid takes its leave.
Whatever the order of their steps is, neither program waits in vain, and both end with the
same record.
-/

namespace FluidStructure.Programs

open FluidStructure.Channel FluidStructure.Coupling FluidStructure.Journal FluidStructure.Parallel
open Network (Meets Roots Traffic Ahead)

section Runs

variable {φ : Type} [FluidSolver φ] {n : Nat} {r : Roots} {e : Terms}
  {place : Fin (n + 1) → Place} {sound : φ → Prop} {w : Point} {α β γ : Type}
  {Q : (Fin (n + 1) → α) → β → Traffic n → Prop} {x : Fin (n + 1) → Rank φ}
  {q : Program Parallel β} {d : MessageChannel} {l : Structure.Layout}

/-! ## The beginning -/

/-- The controller with staging buffers. -/
def staged (c : Controller) : Controller :=
  { c with
    displacementStaging := Session.zeroVectors c.session.vertexCount
    velocityStaging := Session.zeroVectors c.session.vertexCount }

theorem At.begun {place : Place} {c : Controller} (h : At e place w c) :
    At e place { w with phase := .active } { staged c with phase := .active } := by
  have long : (Session.zeroVectors c.session.vertexCount).length = 3 * e.surface.vertexCount := by
    unfold Session.zeroVectors
    rw [List.length_replicate, h.vertexCount]
  exact { h with
    phase := rfl
    buffers := { h.buffers with }
    staging := fun _ => ⟨long, long⟩ }

/-- The group hears from its root how the parameters were sent. -/
def telling (own : Status) : Act Coupling Controller Unit := do
  let shared ← shareInt own
  Controller.heed shared "parameter exchange"
  Controller.setPhase .active

/-- The messages with the parameters. -/
def sending (e : Terms) (peer : Int32) : Act Coupling Controller Status :=
  Controller.sendInTurn (sendInt peer 0 Variable.maxTimeSteps e.parameters.maxTimeSteps)
    [sendInt peer 0 Variable.maxSubIterations e.parameters.maxSubIterations,
      sendReal peer 0 Variable.tolerance e.parameters.tolerance,
      sendReal peer 0 Variable.initialTime e.parameters.initialTime,
      sendReal peer 0 Variable.referenceTimeStep e.parameters.referenceStep]

theorem At.begin_eq {place : Place} {c : Controller} (h : At e place w c)
    (fresh : w.phase = .uninitialized) (found : e.peer.found = true) :
    Controller.begin c =
      (Controller.onRoot (Controller.sendParameters c.session) >>= telling) (staged c) := by
  have registered : c.session.isRegistered = true := by
    unfold Session.isRegistered
    rw [h.surface]
    rfl
  unfold Controller.begin
  rw [Controller.requirePhase_bind_apply, if_pos (h.phase.trans fresh), Act.get_bind_apply,
    registered, if_neg (by decide)]
  unfold Controller.sizeStaging Controller.announce
  rw [Act.modify_bind_apply, bind_assoc, Act.get_bind_apply, if_neg]
  · rw [bind_assoc]
    refine congrFun (congrArg (_ >>= ·) ?_) _
    funext own
    exact bind_assoc _ _ _
  · exact Bool.eq_false_iff.1 (h.coupled found)

theorem meets_begin (launch : Launch r e place sound)
    {F : Fin (n + 1) → (Except Fault Unit × Controller) × Setting φ → Program Parallel α}
    {g : Option Structure.RunParameters → Program Parallel β}
    (h : ∀ i, (x i).Stands e (place i) sound w) (fresh : w.phase = .uninitialized)
    (on : ∀ x' : Fin (n + 1) → Rank φ,
      (∀ i, (x' i).Stands e (place i) sound { w with phase := .active }) →
      Meets r Q (fun i => F i ((x' i).gives (place i) ()))
        (g (some ⟨e.parameters.maxTimeSteps, e.parameters.maxSubIterations,
          e.parameters.tolerance, e.parameters.initialTime, e.parameters.referenceStep⟩))
        .empty .empty) :
    Meets r Q (fun i => ((x i).does (place i) Controller.begin).bind (F i))
      ((Structure.receiveParameters r.fluid).bind g) .empty .empty := by
  let c i := staged (x i).controller
  let y i : Rank φ := { x i with controller := c i }
  let left i : Program Coupling (Except Fault Unit × Controller) :=
    if i = 0 then (sending e r.solid >>= telling) (c i) else telling Status.ok (c i)
  have starts i : Ahead (((x i).does (place i) Controller.begin).bind (F i))
      (((left i).via Setting.answer ((x i).setting (place i))).bind (F i)) := by
    have at_ := (h i).controller
    have there : (x i).controller.session.peer.root = r.solid :=
      (congrArg Discovery.Peer.root at_.peer).trans launch.peer
    have root : (c i).place.isRoot = decide (i = 0) :=
      (congrArg Place.isRoot at_.place).trans (launch.root i)
    unfold Rank.does
    rw [at_.begin_eq fresh launch.found, Controller.onRoot_bind_apply,
      show (staged (x i).controller).place.isRoot = _ from root]
    dsimp only [left]
    by_cases here : i = 0
    · rw [decide_eq_true here, if_pos here, if_pos rfl]
      unfold Controller.sendParameters sending
      rw [bind_assoc, noteIf_bind_apply, there, at_.parameters]
      exact Rank.ahead_noting (x i) (place i) rfl _ _
    · rw [decide_eq_false here, if_neg here, if_neg Bool.false_ne_true]
      exact .inl rfl
  refine Meets.ahead starts ?_
  -- one parameter after the other
  let p := e.parameters
  let referenceStep := sendReal (σ := Controller) r.solid 0 Variable.referenceTimeStep p.referenceStep
  let initialTime := sendReal (σ := Controller) r.solid 0 Variable.initialTime p.initialTime
  let tolerance := sendReal (σ := Controller) r.solid 0 Variable.tolerance p.tolerance
  let maxSubIterations :=
    sendInt (σ := Controller) r.solid 0 Variable.maxSubIterations p.maxSubIterations
  let after (later : Act Coupling Controller Status) (status : Status) :
      Program Coupling (Except Fault Unit × Controller) :=
    ((if Status.failed status then pure status else later) >>= telling) (c 0)
  have asks : left 0 = .ask (.sendInts r.solid 0 Variable.maxTimeSteps [p.maxTimeSteps])
      (after (Controller.sendInTurn maxSubIterations [tolerance, initialTime, referenceStep])) :=
    if_pos rfl
  have first : ((left 0).via Setting.answer ((x 0).setting (place 0))).bind (F 0) = _ :=
    (congrArg (fun p => (Program.via (@Setting.answer φ _) p ((x 0).setting (place 0))).bind (F 0))
      asks).trans (Rank.via_sendInts _ _ _ _ _ _ _ _)
  refine Meets.intToSolid (by decide) first (Program.bind_assoc _ _ _) ?_
  refine Meets.intToSolid (by decide) (Network.put_same.trans (Rank.via_sendInts (x 0) (place 0) (F 0)
    r.solid 0 Variable.maxSubIterations [p.maxSubIterations]
      (after (Controller.sendInTurn tolerance [initialTime, referenceStep]))))
        (Program.bind_assoc _ _ _) ?_
  refine Meets.realToSolid (by decide) (Network.put_same.trans (Rank.via_sendReals (x 0) (place 0)
    (F 0) r.solid 0 Variable.tolerance [p.tolerance]
      (after (Controller.sendInTurn initialTime [referenceStep])))) (Program.bind_assoc _ _ _) ?_
  refine Meets.realToSolid (by decide) (Network.put_same.trans (Rank.via_sendReals (x 0) (place 0)
    (F 0) r.solid 0 Variable.initialTime [p.initialTime]
      (after referenceStep))) (Program.bind_assoc _ _ _) ?_
  refine Meets.realToSolid (by decide) (Network.put_same.trans (Rank.via_sendReals (x 0) (place 0)
    (F 0) r.solid 0 Variable.referenceTimeStep [p.referenceStep]
      fun status => telling status (c 0))) (Program.bind_assoc _ _ _) ?_
  -- the root tells its group
  let status (i : Fin (n + 1)) : Status := if i = 0 then 1 else Status.ok
  refine Meets.of_eq (fun i => show _ = ((telling (status i) (c i)).via Setting.answer
    ((x i).setting (place i))).bind (F i) from ?_) ?_
  · simp only [Network.put_put]
    by_cases here : i = 0
    · subst here
      rw [Network.put_same, show status 0 = 1 from if_pos rfl]
    · rw [Network.put_other here, show left i = _ from if_neg here,
        show status i = Status.ok from if_neg here]
  have told : status 0 = 1 := if_pos rfl
  have one i : [status i].length = 1 := rfl
  refine Meets.of_eq (fun i => congrArg (fun p => (Program.via (@Setting.answer φ _) p
    ((x i).setting (place i))).bind (F i)) (shareInt_bind_apply (status i) _ (c i))) ?_
  refine Meets.broadcastInts (fun i => Rank.via_broadcastInts _ _ _ _ _) one ?_
  rw [told]
  exact on (fun i => { x i with controller := { c i with phase := .active } })
    fun i => { h i with controller := (h i).controller.begun }

/-! ## The end -/

/-- The controller whose session is over. -/
def gone (c : Controller) : Controller := { c with session := c.session.release, phase := .closed }

/-- The last report of a rank. -/
def parting (c : Controller) : Program Coupling (Except Fault Unit × Controller) :=
  noting (c.place.isRoot && c.session.isVerbose) (.sessionClosed c.run.currentStep)
    (.done (.ok (), gone c))

theorem finish_apply {c : Controller} (begun : c.phase ≠ .uninitialized) (still : c.phase ≠ .closed)
    (connected : c.session.isConnected = true) :
    Controller.finish c =
      if c.place.isRoot then .ask (.close c.session.peer.root) fun _ => parting c
      else parting c := by
  have ends : (Controller.modifySession Session.release >>= fun _ =>
      Controller.setPhase .closed >>= fun _ =>
        noteIf (c.place.isRoot && c.session.isVerbose) (.sessionClosed c.run.currentStep)) c =
      parting c := noteIf_apply _ _ _
  unfold Controller.finish Controller.takeLeave closeChannel
  rw [Act.get_bind_apply, if_neg still, bind_assoc, Act.get_bind_apply]
  cases root : c.place.isRoot with
  | true =>
    rw [if_pos ⟨begun, connected, rfl⟩, if_pos rfl, Act.perform_bind_apply, ← ends, root]
  | false =>
    rw [if_neg fun wrong => Bool.false_ne_true wrong.2.2, if_neg Bool.false_ne_true, ← ends, root]
    rfl

theorem close_eq {d : MessageChannel} (root : d.isLocalRoot = true) (peer : Int32) :
    ∃ next, d.close peer = .ask (.sendHeader peer Network.closing) next ∧
      next (.ok ()) = .done () := by
  unfold MessageChannel.close
  rw [if_pos root]
  exact ⟨_, rfl, rfl⟩

/-- The root takes its leave; the structure has yet to hear of it. -/
theorem meets_finish (launch : Launch r e place sound)
    {F : Fin (n + 1) → (Except Fault Unit × Controller) × Setting φ → Program Parallel α}
    (h : ∀ i, (x i).Stands e (place i) sound w) (last : w.phase = .terminating)
    (live : ¬ w.iteration < 0)
    (on : Meets r Q (fun i => F i ((.ok (), gone (x i).controller), (x i).setting (place i))) q
      .empty ⟨[Network.closing], []⟩) :
    Meets r Q (fun i => ((x i).does (place i) Controller.finish).bind (F i)) q .empty .empty := by
  let c i := (x i).controller
  let left i : Program Coupling (Except Fault Unit × Controller) :=
    if i = 0 then .ask (.close r.solid) fun _ => parting (c i) else parting (c i)
  have does i : ((x i).does (place i) Controller.finish).bind (F i) =
      ((left i).via Setting.answer ((x i).setting (place i))).bind (F i) := by
    have at_ := (h i).controller
    have there : (c i).session.peer.root = r.solid :=
      (congrArg Discovery.Peer.root at_.peer).trans launch.peer
    have root : (c i).place.isRoot = decide (i = 0) :=
      (congrArg Place.isRoot at_.place).trans (launch.root i)
    have phase : (c i).phase = .terminating := at_.phase.trans last
    have connected : (c i).session.isConnected = true := by
      unfold Session.isConnected
      rw [show (c i).session.isDryRun = false from at_.coupled launch.found,
        show (c i).session.isTerminated = false from at_.live live]
      rfl
    have begun : (c i).phase ≠ .uninitialized := by rw [phase]; decide
    have still : (c i).phase ≠ .closed := by rw [phase]; decide
    unfold Rank.does
    rw [finish_apply begun still connected, root, there]
    dsimp only [left]
    by_cases here : i = 0
    · rw [if_pos here, if_pos (decide_eq_true here)]
    · rw [if_neg here, decide_eq_false here, if_neg Bool.false_ne_true]
  have single : (x 0).channel.isLocalRoot = true := by
    rw [(h 0).channel, launch.root 0]
    rfl
  obtain ⟨next, closes, closed⟩ := close_eq single r.solid
  have asks : left 0 = .ask (.close r.solid) fun _ => parting (c 0) := if_pos rfl
  have first : ((left 0).via Setting.answer ((x 0).setting (place 0))).bind (F 0) =
      .ask (.sendHeader r.solid Network.closing) fun reply => (next reply).bind fun _ =>
        ((parting (c 0)).via Setting.answer ((x 0).setting (place 0))).bind (F 0) := by
    rw [asks, Rank.via_close, closes]
    rfl
  refine Meets.of_eq does (Meets.rank 0 first (Network.sure_sendHeader _) (.inl rfl) rfl ?_)
  refine Meets.ahead (fun i => ?_) on
  by_cases here : i = 0
  · subst here
    rw [Network.put_same, closed]
    exact Rank.ahead_noting (x 0) (place 0) rfl _ _
  · rw [Network.put_other here, show left i = parting (c i) from if_neg here]
    exact Rank.ahead_noting (x i) (place i) rfl _ _

/-! ## The structure from beginning to end -/

namespace Structure

/-- What the structure does after its last time step. -/
def parting (l : Layout) (p : RunParameters) (s : State × List Entry) :
    Act Parallel MessageChannel (Int32 × List Entry) := do
  if s.1.connected then awaitEnding l p else pure ()
  note (.structureFinished s.1.time s.1.oscillator.motion.x)
  return (0, s.2)

/-- What the structure does with the parameters. -/
def exchanging (l : Layout) (o : Oscillator) :
    Option RunParameters → Act Parallel MessageChannel (Int32 × List Entry)
  | none => do
    note .parametersMissing
    return (1, [])
  | some p => do
    note (.structureCoupled declaration.name.shown l.fluidName.shown p.maxTimeSteps p.maxSubIterations
      l.faces l.vertices)
    timeStepsRecorded l p p.maxTimeSteps.toNatClampNeg 1
      { oscillator := o, time := p.initialTime, forces := Session.zeroVectors l.faces } >>= parting l p

theorem exchangeRecorded_eq (l : Layout) (o : Oscillator) :
    exchangeRecorded l o = Act.lift (receiveParameters l.fluid) >>= exchanging l o := by
  refine congrArg (_ >>= ·) ?_
  funext received
  cases received <;> rfl

/-- The closing message is the last that the structure waits for. -/
theorem parting_eq (p : RunParameters) {s : State × List Entry} (connected : s.1.connected = true) :
    ∃ next, parting l p s d = .ask (.receiveHeader l.fluid) next ∧
      next (.ok Network.closing) =
        .ask (.note (.structureFinished s.1.time s.1.oscillator.motion.x)) fun _ =>
          .done (.ok (0, s.2), d) := by
  unfold parting awaitEnding MessageChannel.receiveInt MessageChannel.receiveInts
  rw [if_pos connected, MessageChannel.receiveMessage_eq]
  exact ⟨_, rfl, rfl⟩

end Structure

/-- The structure hears that the run is over, after all ranks have ended. -/
theorem meets_parting {x : Fin (n + 1) → α}
    {Q : (Fin (n + 1) → α) → Except Fault (Int32 × List Entry) × MessageChannel → Traffic n → Prop}
    {p : Structure.RunParameters} {s : Structure.State × List Entry} (fluid : l.fluid = r.fluid)
    (connected : s.1.connected = true)
    (on : ∀ t : Traffic n, (∀ i, Network.failures (t.fluidLog i) = []) →
      Network.EndsWithClosing r.fluid t.solidLog → Q x (.ok (0, s.2), d) t) :
    Meets r Q (fun i => .done (x i)) (Structure.parting l p s d) .empty ⟨[Network.closing], []⟩ := by
  obtain ⟨next, waits, ends⟩ := Structure.parting_eq (l := l) (d := d) p connected
  intro t clean _ there
  have hears : Network.Sure r.fluid (.receiveHeader r.fluid) t.toSolid (.ok Network.closing) .empty
      .empty := there ▸ Network.sure_receiveHeader Network.closing .empty
  refine Network.Settles.solid (waits.trans (by rw [fluid])) hears ?_
  refine Network.Settles.solid ends (Network.sure_note _) ?_
  refine .done (fun _ => rfl) rfl (on _ clean.fluid ?_)
  refine ⟨t.solidLog, [⟨.note _, ()⟩], List.append_assoc _ _ _, clean.solid, rfl, ?_⟩
  intro made member
  rw [List.mem_singleton.1 member]
  rfl

/-! ## Both programs -/

/-- From parameters to farewell both programs go along with each other. -/
theorem meets_run (launch : Launch r e place sound) (facing : Facing r e (n + 1) l)
    {mean : φ → Float} {out : Fin (n + 1) → Controller.ParentArrays} {o : Oscillator}
    {Q : (Fin (n + 1) → Except Fault (List Entry) × Fluid.Coupled φ) →
      Except Fault (Int32 × List Entry) × MessageChannel → Traffic n → Prop}
    (h : ∀ i, (x i).Stands e (place i) sound w) (fresh : w.phase = .uninitialized)
    (iteration : w.iteration = 0) (step : w.step = 0) (time : w.time = e.parameters.initialTime)
    (some : 1 ≤ e.parameters.maxTimeSteps) (single : d.isLocalRoot = true)
    (fits : ∀ i, Fits e.surface (out i))
    (on : ∀ (y : Fin (n + 1) → Except Fault (List Entry) × Fluid.Coupled φ)
      (z : Except Fault (Int32 × List Entry) × MessageChannel) (t : Traffic n)
      (entries : List Entry), entries.length = e.parameters.maxTimeSteps.toNatClampNeg →
      (∀ i, (y i).1 = .ok entries) → z.1 = .ok (0, entries) →
      (∀ i, Network.failures (t.fluidLog i) = []) → Network.EndsWithClosing r.fluid t.solidLog →
      Q y z t) :
    Meets r Q (fun i =>
        Fluid.timeLoopRecorded (place i) e.parameters mean (out i) ((x i).pair (place i)))
      (Structure.exchangeRecorded l o d) .empty .empty := by
  let steps := e.parameters.maxTimeSteps.toNatClampNeg
  have positive : steps ≠ 0 := by
    have least := Int32.le_iff_toInt_le.1 some
    have one : (1 : Int32).toInt = 1 := rfl
    show e.parameters.maxTimeSteps.toNatClampNeg ≠ 0
    unfold Int32.toNatClampNeg
    omega
  -- the parameters
  refine Meets.of_eq (fun i => (Program.bind_done _).symm.trans
    (embed_bind (x i) (place i) Controller.begin _ .done)) ?_
  rw [Structure.exchangeRecorded_eq, Act.lift_bind_apply, facing.fluid]
  refine meets_begin launch h fresh fun x₁ h₁ => ?_
  refine Meets.solid_ahead (.inr ⟨_, _, rfl, rfl, rfl⟩) ?_
  -- the time steps
  let w₁ : Point := { w with phase := .active }
  have between : w₁.Between e 0 steps :=
    ⟨Nat.zero_add _, iteration, step, (if_neg positive).symm⟩
  let p : Structure.RunParameters :=
    ⟨e.parameters.maxTimeSteps, e.parameters.maxSubIterations, e.parameters.tolerance,
      e.parameters.initialTime, e.parameters.referenceStep⟩
  let first : Structure.State :=
    { oscillator := o, time := p.initialTime, forces := Session.zeroVectors l.faces }
  let closing (entries : List Entry) : Act Parallel (Fluid.Coupled φ) (List Entry) :=
    Setting.embed Controller.finish >>= fun _ => pure entries
  have resumes : (Structure.timeStepsRecorded l p steps 1 first >>= Structure.parting l p) d =
      (Structure.timeStepsRecorded l p steps (w₁.iteration + 1) first d).bind
        (follows (Structure.parting l p) .done) := by
    rw [show w₁.iteration = 0 from iteration, ← act_bind, Program.bind_done]
    rfl
  have size : first.forces.length = (n + 1) * (3 * e.surface.faceCount) := by
    show (Session.zeroVectors l.faces).length = _
    unfold Session.zeroVectors
    rw [List.length_replicate, facing.faces, Nat.mul_left_comm]
  refine (congrArg (Meets r Q _ · Network.Mail.empty Network.Mail.empty) resumes).mpr ?_
  refine Meets.of_eq (fun i => act_bind
    (Fluid.stepsRecorded (place i) e.parameters mean (steps + 2) (out i)) closing
      ((x₁ i).pair (place i)) .done) ?_
  refine meets_steps (w := w₁) launch facing steps 0 between h₁ rfl single size time.symm rfl fits
    fun w₂ x₂ d₂ s entries long between₂ h₂ _ connected => ?_
  -- the farewell
  have live : ¬ w₂.iteration < 0 := by
    have range := Int32.toInt_lt e.parameters.maxTimeSteps
    rw [between₂.iteration]
    refine Int32.not_lt.2 (Int32.zero_le_ofNat_of_lt ?_)
    unfold Int32.toNatClampNeg
    omega
  refine Meets.of_eq (fun i => embed_bind (x₂ i) (place i) Controller.finish _ .done) ?_
  refine meets_finish launch h₂ between₂.phase live ?_
  show Meets r Q _ ((Structure.parting l p (s, entries) d₂).bind .done) _ _
  rw [Program.bind_done]
  exact meets_parting facing.fluid connected fun t clean ends =>
    on _ _ t entries long (fun _ => rfl) rfl clean ends

end Runs

end FluidStructure.Programs
