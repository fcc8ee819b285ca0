import FluidStructure.Proofs.Coupling.Effects
import FluidStructure.Proofs.Coupling.Operation

/-!
# Dry runs

Without a peer from the beginning no operation makes a transport call.
-/

namespace FluidStructure.Coupling

open FluidStructure.Channel FluidStructure.Journal

namespace Controller

/-- A dry run stays dry and makes no transport call. -/
def Dry (c : Controller) (log : Log Coupling) (d : Controller) : Prop :=
  c.session.isDryRun = true → calls log = [] ∧ d.session.isDryRun = true

theorem dry : Act.Transitive Dry where
  refl := fun _ alone => ⟨rfl, alone⟩
  trans := by
    intro c first d second e h k alone
    obtain ⟨before, still⟩ := h alone
    obtain ⟨after, again⟩ := k still
    exact ⟨by rw [calls_append, before, after]; rfl, again⟩

/-! ## Parts -/

/-- A change of the state that keeps the peer. -/
theorem dry_modify {change : Controller → Controller}
    (peer : ∀ c, (change c).session.peer = c.session.peer) : (Act.modify change).Keeps Dry := by
  refine Act.keeps_modify fun c alone => ⟨rfl, ?_⟩
  unfold Session.isDryRun
  rw [peer c]
  exact alone

theorem dry_modifySession {change : Session → Session} (peer : ∀ s, (change s).peer = s.peer) :
    (modifySession change).Keeps Dry := dry_modify fun _ => peer _

theorem dry_setPhase (phase : Phase) : (setPhase phase).Keeps Dry := dry_modify fun _ => rfl

theorem dry_perform {request : Request} (h : request.call? = none) :
    (Act.perform (I := Coupling) request).Keeps Dry :=
  Act.keeps_perform fun _ _ alone => ⟨by rw [calls_cons, h]; rfl, alone⟩

theorem dry_noteIf (condition : Bool) (notice : Notice) : (noteIf condition notice).Keeps Dry :=
  dry.noteIf (fun _ => dry_perform rfl) _ _

/-- After a look at the state, what matters is only what is done without a peer. -/
theorem dry_get_bind {α : Type} {f : Controller → Act Coupling Controller α}
    (h : ∀ c : Controller, c.session.isDryRun = true → (f c).Keeps Dry) :
    (Act.get >>= f).Keeps Dry :=
  Act.keeps_get_bind fun c _ _ _ run alone => h c alone _ _ _ _ run alone

theorem dry_heed (status : Status) (during : String) : (heed status during).Keeps Dry :=
  dry.heed (dry.disconnect (fun _ => dry_perform rfl) (fun _ alone => ⟨rfl, alone⟩) _) _

/-! ## Operations -/

theorem dry_begin : begin.Keeps Dry := by
  refine dry.bind (dry.requirePhase _ _) fun _ => dry.bind dry.get fun c => ?_
  split
  · exact dry.fail _
  · refine dry.bind (dry_modify fun _ => rfl) fun _ => dry.bind ?_ fun _ => dry_setPhase _
    refine dry_get_bind fun d alone => ?_
    rw [if_pos alone]
    exact dry_noteIf _ _

theorem dry_negotiate (place : Parallel.Place) (own : Float) :
    (onSchedule (TimeStep.negotiate place own)).Keeps Dry := by
  intro c log result d run alone
  obtain ⟨t, h, rfl⟩ := Act.runs_zoom.1 run
  unfold Act.Runs at h
  rw [TimeStep.negotiate_apply] at h
  split at h
  · obtain ⟨rfl, k⟩ := Program.runs_done.1 h
    obtain ⟨-, rfl⟩ := Prod.mk.inj k
    exact ⟨rfl, alone⟩
  · unfold TimeStep.proposal at h
    dsimp only at h
    rw [alone, Bool.not_true, Bool.false_and, if_neg (by decide), Program.done_bind] at h
    obtain ⟨silent, ⟨rfl, -⟩ | ⟨dts, iterations, -, -, rfl⟩⟩ := TimeStep.runs_settle h
    · exact ⟨silent.calls, alone⟩
    · exact ⟨silent.calls, alone⟩

theorem dry_beginStep (own : Float) : (beginStep own).Keeps Dry :=
  dry.bind (dry.requirePhase _ _) fun _ => dry.bind (dry_setPhase _) fun _ =>
    dry.bind (dry_modify fun _ => rfl) fun _ => dry.bind dry.get fun _ =>
    dry.bind (dry_negotiate _ _) fun _ => dry.bind (dry_modify fun _ => rfl) fun _ =>
    dry.bind (dry_modifySession fun _ => rfl) fun _ => dry.bind (dry_setPhase _) fun _ =>
    dry.pure _

theorem dry_computeForces : computeForces.Keeps Dry :=
  dry.computeForces (fun _ _ _ => dry_perform rfl) fun _ => dry_modifySession fun _ => rfl

theorem dry_sendForces : sendForces.Keeps Dry := by
  refine dry.bind (dry.requirePhase _ _) fun _ => dry.unlessTerminated <| dry.bind ?_ fun _ =>
    dry_get_bind fun c alone => ?_
  · intro c log result d run alone
    obtain ⟨noted, predicted, rfl⟩ := runs_predictForces run
    exact ⟨noted.local.calls, alone⟩
  · dsimp only
    rw [if_pos alone]
    exact dry.pure _

theorem dry_receiveDisplacement : receiveDisplacement.Keeps Dry := by
  refine dry.bind (dry.requirePhase _ _) fun _ => dry_get_bind fun c alone => ?_
  rw [if_pos alone]
  exact dry_modifySession fun _ => rfl

theorem dry_predictDisplacement : predictDisplacement.Keeps Dry := by
  refine dry.bind (dry.requirePhase _ _) fun _ => dry.bind dry.get fun c => ?_
  split
  · exact dry.pure _
  · intro c log result d run alone
    obtain ⟨noted, predicted, rfl⟩ := runs_predictMotion run
    exact ⟨noted.local.calls, alone⟩

theorem dry_exchangeConvergence : exchangeConvergence.Keeps Dry := by
  refine dry.bind (dry.requirePhase _ _) fun _ => dry.bind dry.get fun c =>
    dry.bind ?_ fun own => dry.bind ?_ fun peer => dry.bind ?_ fun status => dry.bind ?_ fun _ =>
    dry.bind (dry_heed _ _) fun _ => dry.pure _
  · intro c log result d run alone
    obtain ⟨silent, flag, residual, rfl⟩ := runs_evaluate run
    exact ⟨silent.calls, alone⟩
  · exact dry.bind dry.get fun _ => dry.bind (dry_perform rfl) fun _ =>
      dry.bind (dry.ofExcept _) fun _ => dry.bind (dry_modifySession fun _ => rfl) fun _ =>
      dry.pure _
  · refine dry_get_bind fun d alone => ?_
    dsimp only
    unfold Session.isConnected
    rw [alone, Bool.not_true, Bool.false_and, if_neg (by decide)]
    exact dry.pure _
  · exact dry.bind (dry_perform rfl) fun _ => dry.bind (dry.ofExcept _) fun _ => dry.pure _

theorem dry_saveValues : saveValues.Keeps Dry := by
  refine dry_modifySession fun s => ?_
  split <;> rfl

theorem dry_subIterate : subIterate.Keeps Dry :=
  dry.bind dry_computeForces fun _ => dry.bind dry_sendForces fun _ =>
    dry.bind dry_receiveDisplacement fun _ => dry.bind dry_predictDisplacement fun _ =>
    dry.bind (dry.unlessTerminated (dry.imposeDisplacement fun _ _ => dry_perform rfl)) fun _ =>
    dry.bind dry_exchangeConvergence fun _ => dry.bind dry_saveValues fun _ =>
    dry.bind (dry_modifySession fun _ => rfl) fun _ => dry.bind dry.get fun _ => dry.pure _

theorem dry_runStep (own : Float) : (runStep own).Keeps Dry :=
  dry.bind (dry_beginStep own) fun _ => dry.bind dry.get fun _ =>
    dry.bind (dry.subIterateAtMost dry_subIterate _) fun _ => dry.bind (dry_setPhase _) fun _ =>
    dry.bind dry.get fun _ => dry.bind (dry_noteIf _ _) fun _ => dry.pure _

theorem dry_endStep : endStep.Keeps Dry := by
  refine Act.keeps_get_bind fun c log result d run alone => ?_
  dsimp only at run
  split at run
  · exact dry.fail _ _ _ _ _ run alone
  · obtain ⟨rfl, -, rfl⟩ := Act.runs_set.1 run
    exact ⟨rfl, alone⟩

theorem dry_finish : finish.Keeps Dry := by
  refine dry.bind dry.get fun c => ?_
  split
  · exact dry.pure _
  · refine dry.bind (dry_get_bind fun d alone => ?_) fun _ =>
      dry.bind (dry_modifySession fun s => ?_) fun _ => dry.bind (dry_setPhase _) fun _ =>
      dry_noteIf _ _
    · have parted : d.session.isConnected = false := by
        unfold Session.isConnected
        rw [alone]
        rfl
      rw [if_neg (by rw [parted]; rintro ⟨-, h, -⟩; cases h)]
      exact dry.pure _
    · unfold Session.release
      split <;> rfl

theorem dry_perform_operation (operation : Operation) : operation.perform.Keeps Dry := by
  cases operation with
  | begin => exact dry.bind dry_begin fun _ => dry.pure _
  | beginStep own => exact dry.bind (dry_beginStep own) fun _ => dry.pure _
  | runStep own => exact dry.bind (dry_runStep own) fun _ => dry.pure _
  | endStep => exact dry.bind dry_endStep fun _ => dry.pure _
  | finish => exact dry.bind dry_finish fun _ => dry.pure _
  | sendForces => exact dry.bind dry_sendForces fun _ => dry.pure _
  | receiveDisplacement => exact dry.bind dry_receiveDisplacement fun _ => dry.pure _
  | predictDisplacement parent =>
    exact dry.bind (dry.predictDisplacementOnto dry_predictDisplacement parent) fun _ =>
      dry.pure _
  | exchangeConvergence => exact dry.bind dry_exchangeConvergence fun _ => dry.pure _
  | saveValues => exact dry.bind dry_saveValues fun _ => dry.pure _

end Controller

/-- Whatever is called in whatever order, a dry run makes no transport call. -/
theorem calls_of_dryRun {c d : Controller} {records : List Record}
    (history : History c records d) (alone : c.session.isDryRun = true) :
    calls (records.flatMap Record.log) = [] := by
  induction history with
  | nil => rfl
  | @cons c d e record records run _ ih =>
    obtain ⟨silent, still⟩ := Controller.dry_perform_operation _ _ _ _ _ run alone
    rw [List.flatMap_cons, calls_append, silent, ih still]
    rfl

end FluidStructure.Coupling
