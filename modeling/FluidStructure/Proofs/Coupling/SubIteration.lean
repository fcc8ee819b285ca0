import FluidStructure.Proofs.Coupling.Plan
import FluidStructure.Proofs.Coupling.Sizes

/-!
# The transport calls of a sub-iteration

On rank 0 a sub-iteration sends the forces, receives the motion and sends the convergence
flag, or breaks off at a call that fails.  With enough room in the buffers nothing else can
go wrong.
-/

namespace FluidStructure.Coupling

open FluidStructure.Channel FluidStructure.Journal

/-! ## The protocol -/

def parameterCalls (peer : Int32) : List Call :=
  [⟨true, .ints, peer, 0, Variable.maxTimeSteps⟩, ⟨true, .ints, peer, 0, Variable.maxSubIterations⟩,
    ⟨true, .reals, peer, 0, Variable.tolerance⟩, ⟨true, .reals, peer, 0, Variable.initialTime⟩,
    ⟨true, .reals, peer, 0, Variable.referenceTimeStep⟩]

def negotiationCalls (peer iteration : Int32) : List Call :=
  [⟨false, .reals, peer, iteration, Variable.peerTimeStep⟩,
    ⟨true, .reals, peer, iteration, Variable.negotiatedTimeStep⟩]

def forceCalls (peer : Int32) : List Call := [⟨true, .field, peer, 0, Variable.fluidForces⟩]

def motionCalls (peer : Int32) : List Call :=
  [⟨false, .field, peer, 0, Variable.meshDisplacement⟩,
    ⟨false, .field, peer, 0, Variable.meshVelocity⟩]

def convergenceCalls (peer iteration : Int32) : List Call :=
  [⟨true, .ints, peer, iteration, Variable.convergence⟩]

def subIterationCalls (peer iteration : Int32) : List Call :=
  forceCalls peer ++ motionCalls peer ++ convergenceCalls peer iteration

/-- The calls of a step with so many sub-iterations. -/
def stepCalls (peer iteration : Int32) (count : Nat) : List Call :=
  negotiationCalls peer iteration ++ (List.replicate count (subIterationCalls peer iteration)).flatten

def endingCall (peer : Int32) : Call := ⟨true, .ending, peer, -1, Variable.ending⟩

namespace Controller

/-! ## Controllers that keep to the protocol -/

/-- Rank 0 with its peer and sound buffers. -/
structure Ready (c : Controller) : Prop where
  root : c.place.isRoot = true
  found : c.session.isDryRun = false
  live : c.session.isTerminated = false
  sized : c.Sized
  length : (0.0 : Float) < c.session.referenceLength

/-- What a sub-iteration leaves alone. -/
structure Frame where
  parameters : Parameters
  peer : Discovery.Peer
  iteration : Int32
  run : RunControl
  phase : Phase

def frame (c : Controller) : Frame :=
  ⟨c.session.parameters, c.session.peer, c.session.iteration, c.run, c.phase⟩

/-- A ready controller with the frame of another one. -/
structure Resumes (c d : Controller) : Prop where
  ready : d.Ready
  frame : d.frame = c.frame

/-! ## The status of an exchange -/

variable {c : Controller} {α : Type}

theorem orphaned_lost (found : c.session.isDryRun = false) : c.lost.Orphaned := by
  unfold lost
  split
  · rename_i gone
    exact ⟨found, gone⟩
  · exact ⟨found, rfl⟩

theorem loses_disconnect {during : String} (found : c.session.isDryRun = false) :
    Loses (disconnect during c) := by
  rw [disconnect_apply]
  exact loses_noting (loses_done (orphaned_lost found))

theorem loses_heed {status : Status} {during : String} (failed : Status.failed status = true)
    (found : c.session.isDryRun = false) : Loses (heed status during c) := by
  unfold heed
  rw [if_pos failed]
  exact loses_disconnect found

theorem leads_heed {status : Status} {during : String} {Q : Unit → Controller → Prop}
    (fine : Status.failed status = false) (h : Q () c) :
    Leads (heed status during c) (exactly []) Q := by
  unfold heed
  rw [fine, if_neg (by decide)]
  exact leads_done h

/-! ## Stages of a sub-iteration -/

theorem leads_computeForces (ready : c.Ready) :
    Leads (computeForces c) (exactly []) fun _ d => c.Resumes d := by
  intro log result d run compliant
  obtain ⟨reply, rfl, rfl, rfl⟩ := runs_computeForces run
  have fine : reply.1 = .ok () := compliant _ List.mem_cons_self
  rw [fine]
  have sized := ready.sized
  exact .through rfl rfl ⟨⟨ready.root, ready.found, ready.live,
    ⟨sized.buffers.overwriteForce _, sized.staging⟩, ready.length⟩, rfl⟩

theorem leads_sendForces (ready : c.Ready) (turn : c.phase = .subIterating) :
    Leads (sendForces c) (exactly (forceCalls c.session.peer.root)) fun _ d => c.Resumes d := by
  obtain ⟨predicted, sized, fine⟩ := Prediction.forces_ok ready.sized.buffers
  rw [sendForces_apply _ turn, ready.live, if_neg (by decide), fine, opening_ok]
  refine leads_noting ?_
  have found : Session.isDryRun { c.session with predictedForce := predicted } = false :=
    ready.found
  rw [found, if_neg (by decide)]
  unfold forceCalls
  rw [exactly_cons]
  refine leads_sendField (exactly_self _) (fun status fine => ?_) fun status failed => ?_
  · exact leads_heed fine ⟨⟨ready.root, found, ready.live, ⟨sized, ready.sized.staging⟩,
      ready.length⟩, rfl⟩
  · exact loses_heed failed found

theorem leads_receiveDisplacement (ready : c.Ready) (turn : c.phase = .subIterating) :
    Leads (receiveDisplacement c) (exactly (motionCalls c.session.peer.root))
      fun _ d => c.Resumes d := by
  rw [receiveDisplacement_apply _ turn, ready.found, if_neg (by decide), ready.live,
    if_neg (by decide)]
  refine leads_noting ?_
  rw [receiveStaged_bind_apply]
  unfold motionCalls
  rw [exactly_cons, exactly_cons]
  refine leads_receiveField (some_prepend (exactly_self _)) (fun first fine => ?_)
    fun first failed => ?_
  · dsimp only
    rw [fine, if_neg (by decide)]
    refine leads_receiveField (exactly_self _) (fun second fine => ?_) fun second failed => ?_
    · rw [acceptStaged_apply, fine, if_neg (by decide)]
      have sized := ready.sized
      have check : stagingCheck { c with
          displacementStaging := overwrite c.displacementStaging first.2
          velocityStaging := overwrite c.velocityStaging second.2 } = .ok () := by
        unfold stagingCheck Fault.assert
        rw [length_overwrite, sized.staging]
        simp
      rw [check]
      have taken := sized.buffers.overwriteMotion
        (overwrite c.displacementStaging first.2) (overwrite c.velocityStaging second.2)
      refine leads_done ⟨⟨ready.root, ready.found, ready.live, ⟨taken, ?_⟩, ready.length⟩, rfl⟩
      exact (length_overwrite _ _).trans (sized.staging.trans (length_overwrite _ _).symm)
    · rw [acceptStaged_apply, if_pos failed]
      exact loses_disconnect ready.found
  · dsimp only
    rw [if_pos failed, acceptStaged_apply, if_pos failed]
    exact loses_disconnect ready.found

theorem leads_predictDisplacement (ready : c.Ready) (turn : c.phase = .subIterating) :
    Leads (predictDisplacement c) (exactly []) fun _ d => c.Resumes d := by
  obtain ⟨predicted, sized, fine⟩ := Prediction.displacement_ok ready.sized.buffers
  rw [predictDisplacement_apply _ turn, ready.live, if_neg (by decide)]
  dsimp only
  rw [fine, opening_ok]
  exact leads_noting (leads_done ⟨⟨ready.root, ready.found, ready.live,
    ⟨sized, ready.sized.staging⟩, ready.length⟩, rfl⟩)

theorem leads_imposeDisplacement (ready : c.Ready) :
    Leads (unlessTerminated imposeDisplacement c) (exactly []) fun _ d => c.Resumes d := by
  rw [unlessTerminated_apply, ready.live, if_neg (by decide)]
  intro log result d run compliant
  obtain ⟨rfl, rfl⟩ := runs_imposeDisplacement run
  have fine : result = .ok () := compliant _ List.mem_cons_self
  rw [fine]
  exact .through rfl rfl ⟨ready, rfl⟩

/-- The exchange of the flag once the own one is known. -/
theorem leads_flag (ready : c.Ready) (own : Bool) :
    Leads ((askPeerConvergence own >>= fun peer => sendConvergence own >>= agree own peer) c)
      (exactly (convergenceCalls c.session.peer.root c.session.iteration))
      fun _ d => c.Resumes d := by
  rw [askPeerConvergence_bind_apply]
  refine leads_peerConvergence (exactly_self _) fun peer => ?_
  have connected : (c.heard peer).session.isConnected = true := by
    unfold Session.isConnected
    have found : (c.heard peer).session.isDryRun = false := ready.found
    have live : (c.heard peer).session.isTerminated = false := ready.live
    rw [found, live]
    rfl
  have root : (c.heard peer).place.isRoot = true := ready.root
  have resumes : c.Resumes (c.heard peer) :=
    ⟨⟨ready.root, ready.found, ready.live, ⟨{ ready.sized.buffers with }, ready.sized.staging⟩, ready.length⟩, rfl⟩
  rw [sendConvergence_bind_apply, connected, root, if_pos (by decide)]
  unfold convergenceCalls agree
  rw [exactly_cons]
  refine leads_sendInts (exactly_self _) (fun status fine => ?_) fun status failed => ?_
  · refine leads_broadcastInts (exactly_self _) ?_
    change Leads ((heed status "convergence exchange" >>= fun _ => pure _) (c.heard peer)) _ _
    unfold heed
    rw [fine, if_neg (by decide)]
    exact leads_done resumes
  · refine loses_broadcastInts ?_
    change Loses ((heed status "convergence exchange" >>= fun _ => pure _) (c.heard peer))
    rw [Act.bind_apply, heed_apply, noting_bind, if_pos failed]
    exact loses_noting (loses_done (orphaned_lost resumes.ready.found))

theorem checkOperands_ok (ready : c.Ready) :
    Convergence.checkOperands c.session.displacement c.session.predictedDisplacement
      c.session.referenceLength = .ok () := by
  unfold Convergence.checkOperands Fault.require
  rw [ready.sized.buffers.predictedDisplacement, decide_eq_true rfl, decide_eq_true ready.length]
  rfl

theorem leads_exchangeConvergence (ready : c.Ready) (turn : c.phase = .subIterating) :
    Leads (exchangeConvergence c)
      (exactly (convergenceCalls c.session.peer.root c.session.iteration))
      fun _ d => c.Resumes d := by
  rw [exchangeConvergence_apply _ turn, onEvaluation_evaluate_bind_apply]
  have onward (flag : Bool) (residual : Float) :
      Leads ((askPeerConvergence flag >>= fun peer => sendConvergence flag >>= agree flag peer)
          (c.assessed flag residual))
        (exactly (convergenceCalls c.session.peer.root c.session.iteration))
        fun _ d => c.Resumes d := by
    have assessed : c.Resumes (c.assessed flag residual) :=
      ⟨⟨ready.root, ready.found, ready.live, ⟨{ ready.sized.buffers with }, ready.sized.staging⟩, ready.length⟩, rfl⟩
    exact (leads_flag assessed.ready flag).mono (fun _ => id) fun _ _ resumes =>
      ⟨resumes.ready, resumes.frame.trans assessed.frame⟩
  split
  · rw [checkOperands_ok ready, opening_ok]
    exact leads_sumReals (exactly_self _) fun sums => leads_noting (onward _ _)
  · exact onward _ _

theorem leads_conclude (ready : c.Ready) (converged : Bool) :
    Leads (conclude converged c) (exactly []) fun _ d => c.Resumes d := by
  have saved : c.Resumes { c with
      session := if c.session.isImplicit then c.session else c.session.savePrevious } := by
    split
    · exact ⟨ready, rfl⟩
    · have sized := ready.sized
      exact ⟨⟨ready.root, ready.found, ready.live, ⟨sized.buffers.savePrevious, sized.staging⟩,
        ready.length⟩, rfl⟩
  have counted {d : Controller} (h : c.Resumes d) :
      c.Resumes { d with session := d.session.nextSubIteration } :=
    ⟨⟨h.ready.root, h.ready.found, h.ready.live, ⟨{ h.ready.sized.buffers with }, h.ready.sized.staging⟩, h.ready.length⟩, h.frame⟩
  exact leads_done (counted saved)

/-! ## Sub-iterations -/

theorem Resumes.trans {d e : Controller} (h : c.Resumes d) (k : d.Resumes e) : c.Resumes e :=
  ⟨k.ready, k.frame.trans h.frame⟩

/-- A stage that follows a plan from every ready controller, within a sub-iteration. -/
theorem follows_stage {act : Act Coupling Controller α} (plan : Frame → List Call)
    (turn : c.phase = .subIterating)
    (h : ∀ d : Controller, d.Ready → d.phase = .subIterating →
      Leads (act d) (exactly (plan d.frame)) fun _ e => d.Resumes e)
    (quiets : act.Keeps Quiet) :
    Follows c.Resumes act (exactly (plan c.frame)) fun _ => c.Resumes where
  leads d resumes := by
    have onward : d.phase = .subIterating := (congrArg Frame.phase resumes.frame).trans turn
    have lead := h d resumes.ready onward
    rw [resumes.frame] at lead
    exact lead.mono (fun _ => id) fun _ _ again => resumes.trans again
  quiet := quiets

theorem quiet_sendForces : sendForces.Keeps Quiet := by
  rw [← toAct_sendForcesCourse]
  exact (plain_sendForcesCourse.imp fun _ plain => plain.tame.quiet).keeps quiet

theorem quiet_receiveDisplacement : receiveDisplacement.Keeps Quiet := by
  rw [← toAct_receiveDisplacementCourse]
  exact (plain_receiveDisplacementCourse.imp fun _ plain => plain.tame.quiet).keeps quiet

theorem quiet_exchangeConvergence : exchangeConvergence.Keeps Quiet := by
  rw [← toAct_exchangeConvergenceCourse]
  exact (plain_exchangeConvergenceCourse.imp fun _ plain => plain.tame.quiet).keeps quiet

theorem follows_subIterate (turn : c.phase = .subIterating) :
    Follows c.Resumes subIterate
      (exactly (subIterationCalls c.session.peer.root c.session.iteration)) fun _ => c.Resumes := by
  have compute := follows_stage (fun _ => []) turn (fun _ ready _ => leads_computeForces ready)
    quiet_computeForces
  have send := follows_stage (fun frame => forceCalls frame.peer.root) turn
    (fun _ => leads_sendForces) quiet_sendForces
  have receive := follows_stage (fun frame => motionCalls frame.peer.root) turn
    (fun _ => leads_receiveDisplacement) quiet_receiveDisplacement
  have predict := follows_stage (fun _ => []) turn (fun _ => leads_predictDisplacement)
    (quiet_of_hushed hushed_predictDisplacement)
  have impose := follows_stage (fun _ => []) turn (fun _ ready _ => leads_imposeDisplacement ready)
    (quiet_of_hushed (hushed_unlessTerminated _))
  have exchange := follows_stage
    (fun frame => convergenceCalls frame.peer.root frame.iteration) turn
    (fun _ => leads_exchangeConvergence) quiet_exchangeConvergence
  have ending (converged : Bool) := follows_stage (fun _ => []) turn
    (fun _ ready _ => leads_conclude ready converged) (quiet_of_hushed (hushed_conclude converged))
  have all := compute.andThen fun _ => send.andThen fun _ => receive.andThen fun _ =>
    predict.andThen fun _ => impose.andThen fun _ => exchange.andThen ending
  have plan : [] ++ (forceCalls c.session.peer.root ++ (motionCalls c.session.peer.root ++
      ([] ++ ([] ++ (convergenceCalls c.session.peer.root c.session.iteration ++ []))))) =
      subIterationCalls c.session.peer.root c.session.iteration := by
    unfold subIterationCalls
    simp
  rw [← plan]
  exact all

/-- A number of repetitions of a block of calls, up to a limit. -/
def upTo (limit : Nat) (block plan : List Call) : Prop :=
  ∃ count ≤ limit, plan = (List.replicate count block).flatten

theorem upTo_zero (limit : Nat) (block : List Call) : upTo limit block [] :=
  ⟨0, Nat.zero_le limit, rfl⟩

/-- The repetitions of which there is at least one. -/
theorem inTurn_upTo {limit : Nat} {block plan : List Call}
    (h : inTurn (exactly block) (upTo limit block) plan) :
    ∃ count, 0 < count ∧ count ≤ limit + 1 ∧ plan = (List.replicate count block).flatten := by
  obtain ⟨_, _, rfl, ⟨count, most, rfl⟩, rfl⟩ := h
  refine ⟨count + 1, Nat.succ_pos count, Nat.succ_le_succ most, ?_⟩
  rw [List.replicate_succ, List.flatten_cons]

theorem follows_subIterateAtMost_succ {n : Nat} (turn : c.phase = .subIterating)
    (h : Follows c.Resumes (subIterateAtMost n)
      (upTo n (subIterationCalls c.session.peer.root c.session.iteration)) fun _ => c.Resumes) :
    Follows c.Resumes (subIterateAtMost (n + 1))
      (inTurn (exactly (subIterationCalls c.session.peer.root c.session.iteration))
        (upTo n (subIterationCalls c.session.peer.root c.session.iteration)))
      fun _ => c.Resumes := by
  refine (follows_subIterate turn).bind ⟨[], upTo_zero _ _⟩ fun last => ?_
  cases last with
  | false => exact h
  | true =>
    refine (Follows.pure fun _ => id).mono (fun _ => id) ?_ fun _ _ => id
    rintro _ rfl
    exact upTo_zero _ _

theorem follows_subIterateAtMost (turn : c.phase = .subIterating) (n : Nat) :
    Follows c.Resumes (subIterateAtMost n)
      (upTo n (subIterationCalls c.session.peer.root c.session.iteration)) fun _ => c.Resumes := by
  induction n with
  | zero =>
    refine (Follows.pure fun _ => id).mono (fun _ => id) ?_ fun _ _ => id
    rintro _ rfl
    exact upTo_zero _ _
  | succ n ih =>
    refine (follows_subIterateAtMost_succ turn ih).mono (fun _ => id) ?_ fun _ _ => id
    intro plan planned
    obtain ⟨count, -, most, rfl⟩ := inTurn_upTo planned
    exact ⟨count, most, rfl⟩

end Controller

end FluidStructure.Coupling
