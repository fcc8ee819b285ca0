import FluidStructure.Proofs.Coupling.Effects
import FluidStructure.Proofs.Coupling.Operation

/-!
# Stages that keep the iteration

The iteration and the last step change when a step is agreed on and when the peer is lost.  All
other stages keep them; no stage takes a run back before its beginning or changes its place or its
peer.
-/

namespace FluidStructure.Coupling

open FluidStructure.Channel FluidStructure.Journal

theorem Session.iteration_release (s : Session) : s.release.iteration = s.iteration := by
  unfold release
  split <;> rfl

theorem Session.peer_release (s : Session) : s.release.peer = s.peer := by
  unfold release
  split <;> rfl

namespace Controller

/-- Has the run been begun? -/
def Begun (c : Controller) : Prop := c.phase ≠ .uninitialized

/-- A run stays begun, in its place and with its peer. -/
structure Onward (c : Controller) (_ : Log Coupling) (d : Controller) : Prop where
  begun : c.Begun → d.Begun
  place : d.place = c.place
  peer : d.session.peer = c.session.peer

/-- The iteration and the last step stay, too. -/
structure Steady (c : Controller) (log : Log Coupling) (d : Controller) : Prop
    extends Onward c log d where
  iteration : d.session.iteration = c.session.iteration
  lastStep : d.run.lastStep = c.run.lastStep

theorem onward : Act.Transitive Onward where
  refl := fun _ => ⟨id, rfl, rfl⟩
  trans := fun _ _ _ _ _ h k =>
    ⟨fun begun => k.begun (h.begun begun), k.place.trans h.place, k.peer.trans h.peer⟩

theorem steady : Act.Transitive Steady where
  refl := fun _ => ⟨⟨id, rfl, rfl⟩, rfl, rfl⟩
  trans := fun _ _ _ _ _ h k =>
    ⟨onward.trans _ _ _ _ _ h.toOnward k.toOnward, k.iteration.trans h.iteration,
      k.lastStep.trans h.lastStep⟩

theorem isTerminated_eq {c d : Controller} (h : d.session.iteration = c.session.iteration) :
    d.session.isTerminated = c.session.isTerminated := by
  unfold Session.isTerminated
  rw [h]

theorem steady_setPhase {phase : Phase} (h : phase ≠ .uninitialized) :
    (setPhase phase).Keeps Steady := Act.keeps_modify fun _ => ⟨⟨fun _ => h, rfl, rfl⟩, rfl, rfl⟩

theorem steady_modifySession {change : Session → Session}
    (peer : ∀ s, (change s).peer = s.peer) (iteration : ∀ s, (change s).iteration = s.iteration) :
    (modifySession change).Keeps Steady :=
  Act.keeps_modify fun _ => ⟨⟨id, rfl, peer _⟩, iteration _, rfl⟩

theorem steady_perform (request : Request) :
    (Act.perform (I := Coupling) request).Keeps Steady :=
  Act.keeps_perform fun _ _ => ⟨⟨id, rfl, rfl⟩, rfl, rfl⟩

theorem steady_noteIf (condition : Bool) (notice : Notice) :
    (noteIf condition notice).Keeps Steady := steady.noteIf (fun _ => steady_perform _) _ _

theorem steady_shareInt (own : Int32) : (shareInt own).Keeps Steady :=
  steady.bind (steady_perform _) fun _ => steady.bind (steady.ofExcept _) fun _ => steady.pure _

theorem steady_sendParameters (s : Session) : (sendParameters s).Keeps Steady := by
  unfold sendParameters
  refine steady.bind (steady_noteIf _ _) fun _ => steady.sendInTurn _ _ fun act member => ?_
  simp only [List.mem_cons, List.not_mem_nil, or_false] at member
  rcases member with rfl | rfl | rfl | rfl | rfl <;> exact steady_perform _

theorem steady_offerParameters : offerParameters.Keeps Steady := by
  unfold offerParameters
  refine steady.bind (steady.requirePhase _ _) fun _ => steady.bind steady.get fun c => ?_
  split
  · exact steady.fail _
  · refine steady.bind (Act.keeps_modify fun _ => ⟨⟨id, rfl, rfl⟩, rfl, rfl⟩) fun _ =>
      steady.bind steady.get fun d => ?_
    split
    · exact steady.bind (steady_noteIf _ _) fun _ => steady.pure _
    · exact steady.bind (steady.onRoot (steady_sendParameters _)) fun _ => steady_shareInt _

theorem steady_lift {α : Type} (program : Program Coupling α) :
    (Act.lift program : Act Coupling Controller α).Keeps Steady := by
  intro c log result d run
  obtain ⟨_, _, _, -, -, last⟩ := Program.runs_bind.1 run
  obtain ⟨-, h⟩ := Program.runs_done.1 last
  obtain ⟨-, rfl⟩ := Prod.mk.inj h
  exact ⟨⟨id, rfl, rfl⟩, rfl, rfl⟩

theorem steady_proposeStep (own : Float) : (proposeStep own).Keeps Steady := by
  unfold proposeStep
  refine steady.bind (steady.requirePhase _ _) fun _ =>
    steady.bind (steady_setPhase (by decide)) fun _ =>
    steady.bind (Act.keeps_modify fun _ => ⟨⟨id, rfl, rfl⟩, rfl, rfl⟩) fun _ =>
    steady.bind steady.get fun c => ?_
  split
  · exact steady.pure _
  · rw [TimeStep.propose_eq_lift]
    exact steady_lift _

theorem steady_enterStep (dt : Float) : (enterStep dt).Keeps Steady :=
  steady.bind (Act.keeps_modify fun _ => ⟨⟨id, rfl, rfl⟩, rfl, rfl⟩) fun _ =>
    steady.bind (steady_modifySession (fun _ => rfl) fun _ => rfl) fun _ =>
    steady.bind (steady_setPhase (by decide)) fun _ => steady.pure _

theorem steady_computeForces : computeForces.Keeps Steady :=
  steady.computeForces (fun _ _ _ => steady_perform _) fun _ =>
    steady_modifySession (fun _ => rfl) fun _ => rfl

theorem steady_offerForces : offerForces.Keeps Steady := by
  unfold offerForces
  refine steady.bind (steady.requirePhase _ _) fun _ => steady.bind steady.get fun c => ?_
  split
  · exact steady.pure _
  · refine steady.bind ?_ fun _ => steady.bind steady.get fun d => ?_
    · intro c log result d run
      obtain ⟨-, predicted, rfl⟩ := runs_predictForces run
      exact ⟨⟨id, rfl, rfl⟩, rfl, rfl⟩
    · dsimp only
      split
      · exact steady.pure _
      · exact steady.bind (steady_perform _) fun _ => steady.ofExcept _

theorem steady_collectMotion : collectMotion.Keeps Steady := by
  unfold collectMotion
  refine steady.bind (steady.requirePhase _ _) fun _ => steady.bind steady.get fun c => ?_
  split
  · exact steady.bind (steady_modifySession (fun _ => rfl) fun _ => rfl) fun _ => steady.pure _
  · split
    · exact steady.pure _
    · exact steady.bind (steady_noteIf _ _) fun _ =>
        steady.bind (steady.receiveStaged (fun _ _ => steady_perform _)
          (fun _ _ => ⟨⟨id, rfl, rfl⟩, rfl, rfl⟩) fun _ _ => ⟨⟨id, rfl, rfl⟩, rfl, rfl⟩) fun _ =>
        steady.pure _

theorem steady_predictDisplacement : predictDisplacement.Keeps Steady := by
  unfold predictDisplacement
  refine steady.bind (steady.requirePhase _ _) fun _ => steady.bind steady.get fun c => ?_
  split
  · exact steady.pure _
  · intro c log result d run
    obtain ⟨-, predicted, rfl⟩ := runs_predictMotion run
    exact ⟨⟨id, rfl, rfl⟩, rfl, rfl⟩

theorem steady_predictDisplacementOnto (parent : List Float) :
    (predictDisplacementOnto parent).Keeps Steady :=
  steady.predictDisplacementOnto steady_predictDisplacement parent

theorem steady_imposeDisplacement : (unlessTerminated imposeDisplacement).Keeps Steady :=
  steady.unlessTerminated (steady.imposeDisplacement fun _ _ => steady_perform _)

theorem steady_evaluate (place : Parallel.Place) :
    (onEvaluation (Convergence.evaluate place)).Keeps Steady := by
  intro c log result d run
  obtain ⟨-, flag, residual, rfl⟩ := runs_evaluate run
  exact ⟨⟨id, rfl, rfl⟩, rfl, rfl⟩

theorem steady_askPeerConvergence (own : Bool) : (askPeerConvergence own).Keeps Steady :=
  steady.bind steady.get fun _ => steady.bind (steady_perform _) fun _ =>
    steady.bind (steady.ofExcept _) fun _ =>
    steady.bind (steady_modifySession (fun _ => rfl) fun _ => rfl) fun _ => steady.pure _

theorem steady_sendConvergence (own : Bool) : (sendConvergence own).Keeps Steady := by
  refine steady.bind steady.get fun _ => ?_
  dsimp only
  split
  · exact steady.onRoot (steady_perform _)
  · exact steady.pure _

theorem steady_shareDecision : shareDecision.Keeps Steady :=
  steady.bind (steady.requirePhase _ _) fun _ => steady.bind steady.get fun _ =>
    steady.bind (steady_evaluate _) fun _ =>
    steady.bind (steady_askPeerConvergence _) fun _ =>
    steady.bind (steady_sendConvergence _) fun _ =>
    steady.bind (steady_perform _) fun _ => steady.bind (steady.ofExcept _) fun _ => steady.pure _

theorem steady_saveValues : saveValues.Keeps Steady := by
  refine steady_modifySession (fun s => ?_) fun s => ?_ <;> (split <;> rfl)

theorem steady_conclude (converged : Bool) : (conclude converged).Keeps Steady :=
  steady.bind steady_saveValues fun _ =>
    steady.bind (steady_modifySession (fun _ => rfl) fun _ => rfl) fun _ =>
    steady.bind steady.get fun _ => steady.pure _

theorem steady_leaveStep : leaveStep.Keeps Steady :=
  steady.bind (steady_setPhase (by decide)) fun _ => steady.bind steady.get fun _ =>
    steady.bind (steady_noteIf _ _) fun _ => steady.pure _

theorem steady_endStep : endStep.Keeps Steady := by
  refine Act.keeps_get_bind fun c log result d run => ?_
  dsimp only at run
  split at run
  · exact steady.fail _ _ _ _ _ run
  · obtain ⟨-, -, rfl⟩ := Act.runs_set.1 run
    exact ⟨⟨fun _ => by unfold Begun; dsimp only; split <;> decide, rfl, rfl⟩, rfl, rfl⟩

theorem steady_finish : finish.Keeps Steady := by
  refine steady.bind steady.get fun c => ?_
  split
  · exact steady.pure _
  · refine steady.bind ?_ fun _ => steady.bind (steady_modifySession Session.peer_release
      Session.iteration_release) fun _ => steady.bind (steady_setPhase (by decide)) fun _ =>
      steady_noteIf _ _
    refine steady.bind steady.get fun c => ?_
    split
    · exact steady_perform _
    · exact steady.pure _

end Controller

end FluidStructure.Coupling
