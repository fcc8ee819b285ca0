import FluidStructure.Proofs.Counter
import FluidStructure.Proofs.Coupling.SubIteration

/-!
# The transport calls of an operation

On rank 0 the beginning sends the parameters, a step negotiates its length and sub-iterates
at least once, and the end closes the channel.
-/

namespace FluidStructure.Coupling

open FluidStructure.Channel FluidStructure.Journal

namespace Controller

variable {c : Controller} {α : Type}

/-! ## Steps -/

/-- A ready controller in a phase of the step after another one. -/
structure InStep (c : Controller) (iteration : Int32) (phase : Phase) (d : Controller) : Prop where
  ready : d.Ready
  frame : d.frame = { c.frame with
    iteration := iteration
    run := c.run.advance
    phase := phase }

theorem inStep_stepped {iteration : Int32} (ready : c.Ready) (positive : 0 < iteration)
    (dt : Float) :
    c.InStep iteration .subIterating (c.advanced.stepped
      ((⟨c.session, c.advanced.run⟩ : TimeStep.Schedule).agree iteration dt) dt) := by
  have live : ¬ iteration < 0 := Int32.not_lt.2 (Int32.le_of_lt positive)
  unfold TimeStep.Schedule.agree
  rw [if_neg live]
  exact ⟨⟨ready.root, ready.found, decide_eq_false live, ⟨{ ready.sized.buffers with }, ready.sized.staging⟩, ready.length⟩, rfl⟩

theorem leads_entering {iteration : Int32} (ready : c.Ready) (positive : 0 < iteration)
    (dt : Float) :
    Leads (c.entering (iteration, dt)) (exactly []) fun _ d => c.InStep iteration .subIterating d :=
  leads_broadcastReals (exactly_self _) <| leads_broadcastInts (exactly_self _) <|
    leads_noting (leads_done (inStep_stepped ready positive dt))

theorem loses_entering (found : c.session.isDryRun = false) (dt : Float) :
    Loses (c.entering (-1, dt)) :=
  loses_broadcastReals <| loses_broadcastInts <| loses_noting <|
    loses_done ⟨found, (rfl : decide ((-1 : Int32) < 0) = true)⟩

theorem leads_beginStep (ready : c.Ready) (turn : c.phase = .active)
    (room : c.session.iteration ≠ Int32.maxValue) (own : Float) :
    Leads (beginStep own c)
      (exactly (negotiationCalls c.session.peer.root (c.session.iteration + 1)))
      fun _ d => c.InStep (c.session.iteration + 1) .subIterating d := by
  rw [beginStep_live_apply own c turn ready.live]
  unfold TimeStep.proposal TimeStep.exchanged
  rw [ready.found, ready.root, if_pos (by decide), Program.ask_bind, Program.ask_bind]
  unfold negotiationCalls
  rw [exactly_cons, exactly_cons]
  refine leads_receiveReals (some_prepend (exactly_self _)) (fun received fine => ?_)
    fun received failed => ?_
  · dsimp only
    rw [fine, if_neg (by decide), Program.ask_bind, Program.ask_bind]
    refine leads_sendReals (exactly_self _) (fun status fine => ?_) fun status failed => ?_
    · rw [fine, if_neg (by decide), noting_bind, noting_bind]
      simp only [Program.done_bind]
      exact leads_noting (leads_entering ready (zero_lt_add_one (live_iff.1 ready.live) room) _)
    · rw [if_pos failed]
      simp only [Program.ask_bind, Program.done_bind]
      exact loses_ask rfl fun _ _ => .inr <| loses_ask rfl fun _ _ => .inr <|
        loses_entering ready.found _
  · dsimp only
    rw [if_pos failed]
    simp only [Program.ask_bind, Program.done_bind]
    exact loses_ask rfl fun _ _ => .inr <| loses_ask rfl fun _ _ => .inr <|
      loses_entering ready.found _

/-- The calls of a step with at least one and at most so many sub-iterations. -/
def stepPlans (peer iteration : Int32) (most : Nat) (plan : List Call) : Prop :=
  ∃ count, 0 < count ∧ count ≤ most ∧ plan = stepCalls peer iteration count

theorem quiet_subIterateAtMost (n : Nat) : (subIterateAtMost n).Keeps Quiet := by
  rw [← toAct_subIterateAtMostCourse]
  exact ((tame_subIterateAtMostCourse n).imp fun _ => Tame.quiet).keeps quiet

theorem follows_leaveStep {iteration : Int32} :
    Follows (c.InStep iteration .subIterating) leaveStep (exactly [])
      fun _ d => c.InStep iteration .stepDone d where
  leads d entered := by
    unfold leaveStep setPhase
    rw [Act.modify_bind_apply, Act.get_bind_apply, noteIf_bind_apply]
    have ready := entered.ready
    refine leads_noting (leads_done ⟨⟨ready.root, ready.found, ready.live, ⟨{ ready.sized.buffers with }, ready.sized.staging⟩,
      ready.length⟩, ?_⟩)
    exact congrArg (fun frame => { frame with phase := Phase.stepDone }) entered.frame
  quiet := quiet_of_hushed hushed_leaveStep

theorem leads_runStep (ready : c.Ready) (turn : c.phase = .active)
    (room : c.session.iteration ≠ Int32.maxValue) (own : Float) :
    Leads (runStep own c)
      (stepPlans c.session.peer.root (c.session.iteration + 1) (cap c.session).toNatClampNeg)
      fun _ d => c.InStep (c.session.iteration + 1) .stepDone d := by
  obtain ⟨most, limit⟩ := Nat.exists_eq_succ_of_ne_zero (Nat.ne_of_gt (cap_pos c.session))
  have inner (d : Controller) (entered : c.InStep (c.session.iteration + 1) .subIterating d) :
      Leads ((Act.get >>= fun d => subIterateAtMost (cap d.session).toNatClampNeg >>= fun _ =>
          leaveStep) d)
        (inTurn (inTurn (exactly (subIterationCalls c.session.peer.root (c.session.iteration + 1)))
          (upTo most (subIterationCalls c.session.peer.root (c.session.iteration + 1))))
          (exactly []))
        fun _ e => c.InStep (c.session.iteration + 1) .stepDone e := by
    have turn : d.phase = .subIterating := congrArg Frame.phase entered.frame
    have peer : d.session.peer = c.session.peer := congrArg Frame.peer entered.frame
    have iteration : d.session.iteration = c.session.iteration + 1 :=
      congrArg Frame.iteration entered.frame
    have parameters : d.session.parameters = c.session.parameters :=
      congrArg Frame.parameters entered.frame
    have same : (cap d.session).toNatClampNeg = most + 1 := by
      unfold cap
      rw [parameters]
      exact limit
    rw [Act.get_bind_apply, same, ← iteration, ← peer]
    have sub := follows_subIterateAtMost_succ turn (follows_subIterateAtMost turn most)
    refine ((sub.mono (fun _ => id) (fun _ => id) fun _ e resumes => ?_).bind (exactly_self _)
      fun _ => follows_leaveStep).leads d ⟨entered.ready, rfl⟩
    rw [iteration]
    exact ⟨resumes.ready, resumes.frame.trans entered.frame⟩
  refine (leads_bind ?_ (leads_beginStep ready turn room own) (fun _ => inner) fun _ => ?_).mono
    ?_ fun _ _ => id
  · exact some_inTurn (some_inTurn (exactly_self _) ⟨[], upTo_zero _ _⟩) (exactly_self _)
  · exact quiet.bind quiet.get fun d => quiet.bind (quiet_subIterateAtMost _) fun _ =>
      quiet_of_hushed hushed_leaveStep
  · rintro _ ⟨_, _, rfl, ⟨_, _, sub, rfl, rfl⟩, rfl⟩
    obtain ⟨count, positive, fits, rfl⟩ := inTurn_upTo sub
    rw [List.append_nil]
    exact ⟨count, positive, limit ▸ fits, rfl⟩

/-! ## The beginning -/

/-- A message whose status is passed on, after which the next one follows. -/
def Sends (act : Act Coupling Controller Status) (call : Call) : Prop :=
  ∀ {β : Type} (f : Status → Act Coupling Controller β) (c : Controller)
    (plans : List Call → Prop) (Q : β → Controller → Prop), (∃ plan, plans plan) →
    (∀ status, Status.failed status = false → Leads (f status c) plans Q) →
    (∀ status, Status.failed status = true → Loses (f status c)) →
    Leads ((act >>= f) c) (prepend [call] plans) Q

theorem sends_sendInt (peer iteration : Int32) (name : String) (value : Int32) :
    Sends (sendInt peer iteration name value) ⟨true, .ints, peer, iteration, name⟩ :=
  fun _ _ _ _ some_plan => leads_sendInts some_plan

theorem sends_sendReal (peer iteration : Int32) (name : String) (value : Float) :
    Sends (sendReal peer iteration name value) ⟨true, .reals, peer, iteration, name⟩ :=
  fun _ _ _ _ some_plan => leads_sendReals some_plan

theorem prepend_cons (call : Call) (rest : List Call) (plans : List Call → Prop) :
    prepend (call :: rest) plans = prepend [call] (prepend rest plans) := by
  funext plan
  refine propext ⟨?_, ?_⟩
  · rintro ⟨last, planned, rfl⟩
    exact ⟨rest ++ last, ⟨last, planned, rfl⟩, rfl⟩
  · rintro ⟨_, ⟨last, planned, rfl⟩, rfl⟩
    exact ⟨last, planned, rfl⟩

/-- Messages in turn, up to the first that fails. -/
theorem leads_sendInTurn {f : Status → Act Coupling Controller α} {plans : List Call → Prop}
    {Q : α → Controller → Prop} (some_plan : ∃ plan, plans plan)
    (h : ∀ status, Status.failed status = false → Leads (f status c) plans Q)
    (l : ∀ status, Status.failed status = true → Loses (f status c))
    {first : Act Coupling Controller Status} {call : Call} (one : Sends first call)
    (later : List (Act Coupling Controller Status × Call))
    (others : ∀ message ∈ later, Sends message.1 message.2) :
    Leads ((sendInTurn first (later.map Prod.fst) >>= f) c)
      (prepend (call :: later.map Prod.snd) plans) Q := by
  induction later generalizing first call with
  | nil => exact one f c plans Q some_plan h l
  | cons second later ih =>
    obtain ⟨two, others⟩ := List.forall_mem_cons.1 others
    rw [prepend_cons, List.map_cons]
    unfold sendInTurn
    rw [bind_assoc]
    refine one _ c _ Q (some_prepend some_plan) (fun status fine => ?_) fun status failed => ?_
    · rw [fine, if_neg (by decide)]
      exact ih two others
    · rw [if_pos failed]
      exact l status failed

theorem leads_sendParameters {f : Status → Act Coupling Controller α} {plans : List Call → Prop}
    {Q : α → Controller → Prop} (s : Session) (some_plan : ∃ plan, plans plan)
    (h : ∀ status, Status.failed status = false → Leads (f status c) plans Q)
    (l : ∀ status, Status.failed status = true → Loses (f status c)) :
    Leads ((sendParameters s >>= f) c) (prepend (parameterCalls s.peer.root) plans) Q := by
  unfold sendParameters
  dsimp only
  rw [bind_assoc, noteIf_bind_apply]
  have all := leads_sendInTurn some_plan h l
    (sends_sendInt s.peer.root 0 Variable.maxTimeSteps s.parameters.maxTimeSteps)
    [(sendInt s.peer.root 0 Variable.maxSubIterations s.parameters.maxSubIterations,
        ⟨true, .ints, s.peer.root, 0, Variable.maxSubIterations⟩),
      (sendReal s.peer.root 0 Variable.tolerance s.parameters.tolerance,
        ⟨true, .reals, s.peer.root, 0, Variable.tolerance⟩),
      (sendReal s.peer.root 0 Variable.initialTime s.parameters.initialTime,
        ⟨true, .reals, s.peer.root, 0, Variable.initialTime⟩),
      (sendReal s.peer.root 0 Variable.referenceTimeStep s.parameters.referenceStep,
        ⟨true, .reals, s.peer.root, 0, Variable.referenceTimeStep⟩)]
  refine leads_noting (all ?_)
  simp only [List.forall_mem_cons, List.not_mem_nil, false_implies, implies_true, and_true]
  exact ⟨sends_sendInt _ _ _ _, sends_sendReal _ _ _ _, sends_sendReal _ _ _ _,
    sends_sendReal _ _ _ _⟩

/-- Rank 0 with its peer and a registered interface, before the beginning. -/
structure Fresh (c : Controller) : Prop where
  root : c.place.isRoot = true
  found : c.session.isDryRun = false
  live : c.session.isTerminated = false
  registered : c.session.isRegistered = true
  sized : { c with
    displacementStaging := Session.zeroVectors c.session.vertexCount
    velocityStaging := Session.zeroVectors c.session.vertexCount }.Sized
  length : (0.0 : Float) < c.session.referenceLength
  phase : c.phase = .uninitialized

/-- A begun controller with what another one has. -/
structure Opens (c d : Controller) : Prop where
  ready : d.Ready
  frame : d.frame = { c.frame with phase := .active }

theorem leads_begin (fresh : c.Fresh) :
    Leads (begin c) (exactly (parameterCalls c.session.peer.root)) fun _ d => c.Opens d := by
  have same : exactly (parameterCalls c.session.peer.root) =
      prepend (parameterCalls c.session.peer.root) (exactly []) := by
    funext plan
    refine propext ⟨fun same => ⟨[], rfl, same.trans (List.append_nil _).symm⟩, ?_⟩
    rintro ⟨_, rfl, rfl⟩
    exact List.append_nil _
  unfold begin
  rw [requirePhase_bind_apply, if_pos fresh.phase, Act.get_bind_apply, fresh.registered,
    if_neg (by decide)]
  unfold sizeStaging announce
  rw [Act.modify_bind_apply, bind_assoc, Act.get_bind_apply]
  dsimp only
  rw [fresh.found, if_neg (by decide), bind_assoc, onRoot_bind_apply]
  dsimp only
  rw [fresh.root, if_pos rfl, same]
  refine leads_sendParameters c.session (exactly_self _) (fun status fine => ?_)
    fun status failed => ?_
  · rw [bind_assoc, shareInt_bind_apply]
    refine leads_broadcastInts (exactly_self _) ?_
    unfold heed
    rw [List.headD_cons, fine, if_neg (by decide)]
    exact leads_done ⟨⟨fresh.root, fresh.found, fresh.live, ⟨{ fresh.sized.buffers with }, fresh.sized.staging⟩, fresh.length⟩,
      rfl⟩
  · rw [bind_assoc, shareInt_bind_apply]
    refine loses_broadcastInts ?_
    rw [List.headD_cons, Act.bind_apply, heed_apply, noting_bind, if_pos failed]
    have orphaned := orphaned_lost (c := { c with
      displacementStaging := Session.zeroVectors c.session.vertexCount
      velocityStaging := Session.zeroVectors c.session.vertexCount }) fresh.found
    exact loses_noting (loses_done ⟨orphaned.found, orphaned.gone⟩)

/-! ## The end -/

/-- The end of a run with its peer closes the channel. -/
theorem leads_finish (ready : c.Ready) (begun : c.Begun) (onward : c.phase ≠ .closed) :
    Leads (finish c) (exactly [endingCall c.session.peer.root]) fun _ _ => True := by
  have connected : c.session.isConnected = true := by
    unfold Session.isConnected
    rw [ready.found, ready.live]
    rfl
  unfold finish takeLeave closeChannel
  rw [Act.get_bind_apply, if_neg onward, bind_assoc, Act.get_bind_apply,
    if_pos ⟨begun, connected, ready.root⟩, Act.perform_bind_apply, exactly_cons]
  refine leads_close (exactly_self _) ?_
  unfold modifySession setPhase
  rw [Act.modify_bind_apply, Act.modify_bind_apply, noteIf_apply]
  exact leads_noting (leads_done trivial)

end Controller

end FluidStructure.Coupling
