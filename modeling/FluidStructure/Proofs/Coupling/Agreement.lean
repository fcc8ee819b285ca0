import FluidStructure.Proofs.Coupling.Operation
import FluidStructure.Proofs.Coupling.Ranks
import FluidStructure.Proofs.Coupling.Sizes

/-!
# Agreement of two ranks

Two ranks of a group agree on where the run stands, whatever their interfaces, their fluid
solvers and their candidates for the step are.  Each stage keeps the agreement: what only
one rank knows reaches the others by a broadcast before it matters.
-/

namespace FluidStructure.Coupling

open FluidStructure.Channel FluidStructure.Journal

namespace Controller

/-- What two ranks agree on. -/
structure Agree (a b : Controller) : Prop where
  phase : a.phase = b.phase
  parameters : a.session.parameters = b.session.parameters
  peer : a.session.peer = b.session.peer
  registered : a.session.isRegistered = b.session.isRegistered
  released : a.session.released = b.session.released
  referenceLength : a.session.referenceLength = b.session.referenceLength
  iteration : a.session.iteration = b.session.iteration
  subIteration : a.session.subIteration = b.session.subIteration
  dt : a.session.dt = b.session.dt
  previousDt : a.session.previousDt = b.session.previousDt
  currentStep : a.run.currentStep = b.run.currentStep
  lastStep : a.run.lastStep = b.run.lastStep

/-- The buffers of a rank have the sizes that its phase needs. -/
structure Fits (c : Controller) : Prop where
  buffers : c.session.Sized
  staging : c.phase = .closed ∨
    c.phase = .uninitialized ∧ 3 * c.session.vertexCount = c.session.displacement.length ∨
    c.phase ≠ .uninitialized ∧
      c.displacementStaging.length = c.session.displacement.length

/-- Two ranks that agree, each with fitting buffers; and something about the phase and the steps
in use, which stays within a step. -/
structure Paired (K : Phase → Float → Float → Prop) (a b : Controller) : Prop extends
    Agree a b where
  first : a.Fits
  second : b.Fits
  kept : K a.phase a.stepDt b.stepDt

/-- Two ranks between two operations, or after a fault. -/
abbrev Bound : Controller → Controller → Prop := Paired fun _ _ _ => True

variable {α : Type} {K : Phase → Float → Float → Prop} {a b : Controller}

theorem Paired.bound (h : Paired K a b) : Bound a b := { h with kept := trivial }

theorem Agree.isTerminated (h : Agree a b) : a.session.isTerminated = b.session.isTerminated := by
  unfold Session.isTerminated
  rw [h.iteration]

theorem Agree.isDryRun (h : Agree a b) : a.session.isDryRun = b.session.isDryRun := by
  unfold Session.isDryRun
  rw [h.peer]

theorem Agree.isImplicit (h : Agree a b) : a.session.isImplicit = b.session.isImplicit := by
  unfold Session.isImplicit
  rw [h.parameters]

theorem Agree.cap (h : Agree a b) : cap a.session = cap b.session := by
  unfold Controller.cap
  rw [h.parameters]

/-- After the beginning the staging buffers have their size. -/
theorem Fits.staged {c : Controller} (h : c.Fits) (begun : c.phase ≠ .uninitialized)
    (onward : c.phase ≠ .closed) :
    c.displacementStaging.length = c.session.displacement.length := by
  rcases h.staging with closed | ⟨fresh, -⟩ | ⟨-, same⟩
  · exact absurd closed onward
  · exact absurd fresh begun
  · exact same

/-! ## Refusals and losses -/

variable {Q : α → α → Controller → Controller → Prop}

theorem beside_requirePhase {expected : Phase} {operation : String}
    {f g : Unit → Act Coupling Controller α} (h : Paired K a b)
    (on : a.phase = expected → b.phase = expected → Beside Bound Q (f () a) (g () b)) :
    Beside Bound Q ((requirePhase expected operation >>= f) a)
      ((requirePhase expected operation >>= g) b) := by
  rw [requirePhase_bind_apply, requirePhase_bind_apply, ← h.phase]
  by_cases turn : a.phase = expected
  · rw [if_pos turn, if_pos turn]
    exact on turn (h.phase.symm.trans turn)
  · rw [if_neg turn, if_neg turn]
    exact beside_fault h.bound

theorem Agree.windDown (h : Agree a b) : a.run.windDown.currentStep = b.run.windDown.currentStep ∧
    a.run.windDown.lastStep = b.run.windDown.lastStep := by
  unfold RunControl.windDown RunControl.stepAfterLast
  rw [h.currentStep, h.lastStep]
  split
  · exact ⟨h.currentStep, rfl⟩
  · exact ⟨h.currentStep, h.lastStep⟩

theorem Paired.lost (h : Paired K a b) : Paired K a.lost b.lost := by
  unfold Controller.lost
  rw [h.isTerminated]
  split
  · exact h
  · exact { h with
      iteration := rfl
      currentStep := h.windDown.1
      lastStep := h.windDown.2
      first := ⟨{ h.first.buffers with }, h.first.staging⟩
      second := ⟨{ h.second.buffers with }, h.second.staging⟩ }

theorem beside_disconnect {during : String} (h : Paired K a b) :
    Beside Bound (fun _ _ => Paired K) (disconnect during a) (disconnect during b) := by
  rw [disconnect_apply, disconnect_apply]
  exact beside_noting (beside_done h.lost)

theorem beside_heed {x y : Status} {during : String} (same : Status.failed x = Status.failed y)
    (h : Paired K a b) :
    Beside Bound (fun _ _ => Paired K) (heed x during a) (heed y during b) := by
  unfold heed
  rw [same]
  split
  · exact beside_disconnect h
  · exact beside_done h

/-! ## Stages of a sub-iteration -/

theorem beside_computeForces (h : Paired K a b) :
    Beside Bound (fun _ _ => Paired K) (computeForces a) (computeForces b) := by
  rw [computeForces_apply, computeForces_apply]
  refine .first rfl fun x fine => ?_
  refine .second rfl fun y fine' => ?_
  dsimp only
  rw [show x.1 = .ok () from fine, show y.1 = .ok () from fine']
  exact beside_done { h with
    first := ⟨h.first.buffers.overwriteForce _, h.first.staging⟩
    second := ⟨h.second.buffers.overwriteForce _, h.second.staging⟩ }

/-- The exchange of the forces once they are predicted. -/
theorem beside_offer (h : Paired K a b) :
    Beside Bound (fun _ _ => Paired K)
      (if a.session.isDryRun then .done (.ok (), a)
      else .ask (.sendField a.session.peer.root Variable.fluidForces a.session.predictedForce)
        (opening a fun status => heed status "force exchange" a))
      (if b.session.isDryRun then .done (.ok (), b)
      else .ask (.sendField b.session.peer.root Variable.fluidForces b.session.predictedForce)
        (opening b fun status => heed status "force exchange" b)) := by
  rw [h.isDryRun, h.peer]
  split
  · exact beside_done h
  · exact beside_sendField fun x y same => beside_heed same h

theorem beside_sendForces (h : Paired K a b) :
    Beside Bound (fun _ _ => Paired K) (sendForces a) (sendForces b) := by
  by_cases turn : a.phase = .subIterating
  · obtain ⟨f, fits, fine⟩ := Prediction.forces_ok h.first.buffers
    obtain ⟨g, fits', fine'⟩ := Prediction.forces_ok h.second.buffers
    rw [sendForces_apply a turn, sendForces_apply b (h.phase.symm.trans turn), h.isTerminated,
      fine, fine', opening_ok, opening_ok]
    have after : Paired K { a with session := { a.session with predictedForce := f } }
        { b with session := { b.session with predictedForce := g } } := { h with
      first := ⟨fits, h.first.staging⟩
      second := ⟨fits', h.second.staging⟩ }
    split
    · exact beside_done h
    · exact beside_noting (beside_offer after)
  · unfold sendForces
    exact beside_requirePhase h fun on _ => absurd on turn

theorem beside_acceptStaged {x y : Status} (same : Status.failed x = Status.failed y)
    (turn : a.phase = .subIterating) (h : Paired K a b) :
    Beside Bound (fun _ _ => Paired K) (acceptStaged x a) (acceptStaged y b) := by
  have staged {c : Controller} (fits : c.Fits) (turn : c.phase = .subIterating) :
      c.displacementStaging.length = c.session.displacement.length :=
    fits.staged (by rw [turn]; decide) (by rw [turn]; decide)
  have check {c : Controller} (fits : c.Fits) (turn : c.phase = .subIterating) :
      c.stagingCheck = .ok () := by
    unfold stagingCheck Fault.assert
    rw [staged fits turn]
    simp
  have taken {c : Controller} (fits : c.Fits) (turn : c.phase = .subIterating) : c.taken.Fits := by
    refine ⟨fits.buffers.overwriteMotion _ _, .inr (.inr ⟨?_, ?_⟩)⟩
    · exact fun fresh => Phase.noConfusion (turn.symm.trans fresh)
    · exact (staged fits turn).trans (length_overwrite _ _).symm
  have turn' := h.phase.symm.trans turn
  rw [acceptStaged_apply, acceptStaged_apply, same]
  split
  · exact beside_disconnect h
  · rw [check h.first turn, check h.second turn']
    exact beside_done { h with
      first := taken h.first turn
      second := taken h.second turn' }

theorem beside_receiveDisplacement (h : Paired K a b) :
    Beside Bound (fun _ _ => Paired K) (receiveDisplacement a) (receiveDisplacement b) := by
  by_cases turn : a.phase = .subIterating
  · have turn' := h.phase.symm.trans turn
    rw [receiveDisplacement_apply a turn, receiveDisplacement_apply b turn', h.isDryRun,
      h.isTerminated]
    have rested {c : Controller} (fits : c.Fits) :
        ({ c with session := rest c.session } : Controller).Fits := by
      have sized := fits.buffers
      have same : (List.replicate c.session.displacement.length (0.0 : Float)).length =
          c.session.displacement.length := List.length_replicate
      refine ⟨⟨?_, ?_, ?_, sized.previousForce, sized.predictedForce⟩, ?_⟩
      · exact sized.predictedDisplacement.trans same.symm
      · exact List.length_replicate.trans (sized.velocity.trans same.symm)
      · exact sized.previousVelocity.trans same.symm
      · exact fits.staging.imp_right fun later => later.imp
          (fun fresh => ⟨fresh.1, fresh.2.trans same.symm⟩)
          fun staged => ⟨staged.1, staged.2.trans same.symm⟩
    split
    · exact beside_done { h with
        first := rested h.first
        second := rested h.second }
    · split
      · exact beside_done h
      · refine beside_noting ?_
        rw [receiveStaged_bind_apply, receiveStaged_bind_apply, h.peer]
        have staged {c : Controller} (fits : c.Fits) (xs ys : List Float) :
            ({ c with
              displacementStaging := overwrite c.displacementStaging xs
              velocityStaging := ys } : Controller).Fits :=
          ⟨fits.buffers, fits.staging.imp_right fun later => later.imp_right fun staged =>
            ⟨staged.1, (length_overwrite _ _).trans staged.2⟩⟩
        refine beside_receiveField fun x y same => ?_
        dsimp only
        rw [same]
        split
        · exact beside_acceptStaged same turn { h with
            first := staged h.first _ _
            second := staged h.second _ _ }
        · refine beside_receiveField fun x' y' same' => ?_
          exact beside_acceptStaged same' turn { h with
            first := staged h.first _ _
            second := staged h.second _ _ }
  · unfold receiveDisplacement
    exact beside_requirePhase h fun on _ => absurd on turn

theorem Agree.coefficients (h : Agree a b) :
    Prediction.displacementCoefficients a.session = Prediction.displacementCoefficients b.session := by
  unfold Prediction.displacementCoefficients
  rw [h.subIteration, h.dt, h.previousDt]

theorem beside_predictDisplacement (h : Paired K a b) :
    Beside Bound (fun v w c d => v = w ∧ Paired K c d) (predictDisplacement a)
      (predictDisplacement b) := by
  by_cases turn : a.phase = .subIterating
  · obtain ⟨f, fits, fine⟩ := Prediction.displacement_ok h.first.buffers
    obtain ⟨g, fits', fine'⟩ := Prediction.displacement_ok h.second.buffers
    rw [predictDisplacement_apply a turn, predictDisplacement_apply b (h.phase.symm.trans turn),
      h.isTerminated]
    dsimp only
    rw [fine, fine', opening_ok, opening_ok]
    split
    · exact beside_done ⟨rfl, h⟩
    · exact beside_noting (beside_done ⟨h.coefficients, { h with
        first := ⟨fits, h.first.staging⟩
        second := ⟨fits', h.second.staging⟩ }⟩)
  · unfold predictDisplacement
    exact beside_requirePhase h fun on _ => absurd on turn

theorem beside_imposeDisplacement (h : Paired K a b) :
    Beside Bound (fun _ _ => Paired K) (unlessTerminated imposeDisplacement a)
      (unlessTerminated imposeDisplacement b) := by
  rw [unlessTerminated_apply, unlessTerminated_apply, h.isTerminated]
  split
  · exact beside_done h
  · rw [imposeDisplacement_apply, imposeDisplacement_apply]
    refine .first rfl fun x fine => ?_
    refine .second rfl fun y fine' => ?_
    rw [show x = .ok () from fine, show y = .ok () from fine']
    exact beside_done h

/-! ## The convergence exchange -/

/-- The decision and the status of rank 0 count for both. -/
theorem beside_agree {x y : Bool} {u v : Bool} {t t' : Status} (h : Paired K a b) :
    Beside Bound (fun v w c d => v = w ∧ Paired K c d) (agree x u t a) (agree y v t' b) := by
  refine beside_broadcastInts rfl ?_
  exact beside_bind (beside_heed rfl h) fun _ _ c d after => beside_done ⟨rfl, after⟩

/-- Own flags and the answers of the structure side can differ. -/
theorem beside_flag (h : Paired K a b) (x y : Bool) :
    Beside Bound (fun v w c d => v = w ∧ Paired K c d)
      ((askPeerConvergence x >>= fun peer => sendConvergence x >>= agree x peer) a)
      ((askPeerConvergence y >>= fun peer => sendConvergence y >>= agree y peer) b) := by
  rw [askPeerConvergence_bind_apply, askPeerConvergence_bind_apply]
  refine .first rfl fun _ answer => ?_
  obtain ⟨u, rfl⟩ := answer
  refine .second rfl fun _ answer => ?_
  obtain ⟨v, rfl⟩ := answer
  refine beside_solitary (solitary_sendConvergence _) (solitary_sendConvergence _) fun t t' => ?_
  exact beside_agree { h with
    first := ⟨{ h.first.buffers with }, h.first.staging⟩
    second := ⟨{ h.second.buffers with }, h.second.staging⟩ }

theorem beside_exchangeConvergence (h : Paired K a b) :
    Beside Bound (fun v w c d => v = w ∧ Paired K c d) (exchangeConvergence a)
      (exchangeConvergence b) := by
  have assessed (x y : Bool) (r r' : Float) : Paired K (a.assessed x r) (b.assessed y r') :=
    { h with
      first := ⟨{ h.first.buffers with }, h.first.staging⟩
      second := ⟨{ h.second.buffers with }, h.second.staging⟩ }
  by_cases turn : a.phase = .subIterating
  · rw [exchangeConvergence_apply a turn, exchangeConvergence_apply b (h.phase.symm.trans turn),
      onEvaluation_evaluate_bind_apply, onEvaluation_evaluate_bind_apply, h.isImplicit]
    split
    · rw [Convergence.checkOperands_of_sized h.first.buffers,
        Convergence.checkOperands_of_sized h.second.buffers, h.referenceLength]
      cases Fault.require (0.0 < b.session.referenceLength) "lref > 0.0"
          "reference length must be positive" with
      | error fault => exact beside_fault h.bound
      | ok _ =>
        refine beside_sumReals rfl fun sums => beside_noting ?_
        exact beside_flag (assessed _ _ _ _) _ _
    · exact beside_flag (assessed _ _ _ _) _ _
  · unfold exchangeConvergence
    exact beside_requirePhase h fun on _ => absurd on turn

/-! ## Sub-iterations -/

theorem Paired.saveValues (h : Paired K a b) : Paired K
    { a with session := if a.session.isImplicit then a.session else a.session.savePrevious }
    { b with session := if b.session.isImplicit then b.session else b.session.savePrevious } := by
  rw [h.isImplicit]
  split
  · exact h
  · exact { h with
      first := ⟨h.first.buffers.savePrevious, h.first.staging⟩
      second := ⟨h.second.buffers.savePrevious, h.second.staging⟩ }

theorem beside_saveValues (h : Paired K a b) :
    Beside Bound (fun _ _ => Paired K) (saveValues a) (saveValues b) := by
  rw [saveValues_apply, saveValues_apply]
  exact beside_done h.saveValues

theorem Agree.isDone (h : Agree a b) (converged : Bool) :
    isDone a.session converged = isDone b.session converged := by
  unfold Controller.isDone
  rw [h.isTerminated, h.cap, h.subIteration]

theorem beside_conclude (h : Paired K a b) (converged : Bool) :
    Beside Bound (fun v w c d => v = w ∧ Paired K c d) (conclude converged a)
      (conclude converged b) := by
  refine beside_bind (beside_saveValues h) fun _ _ c d saved => ?_
  have after : Paired K { c with session := c.session.nextSubIteration }
      { d with session := d.session.nextSubIteration } := { saved with
    subIteration := congrArg (· + 1) saved.subIteration
    first := ⟨{ saved.first.buffers with }, saved.first.staging⟩
    second := ⟨{ saved.second.buffers with }, saved.second.staging⟩ }
  exact beside_done ⟨after.isDone converged, after⟩

theorem beside_subIterate (h : Paired K a b) :
    Beside Bound (fun v w c d => v = w ∧ Paired K c d) (subIterate a) (subIterate b) := by
  refine beside_bind (beside_computeForces h) fun _ _ c d h => ?_
  refine beside_bind (beside_sendForces h) fun _ _ c d h => ?_
  refine beside_bind (beside_receiveDisplacement h) fun _ _ c d h => ?_
  refine beside_bind (beside_predictDisplacement h) fun _ _ c d h => ?_
  refine beside_bind (beside_imposeDisplacement h.2) fun _ _ c d h => ?_
  refine beside_bind (beside_exchangeConvergence h) fun v w c d h => ?_
  obtain ⟨rfl, h⟩ := h
  exact beside_conclude h v

theorem beside_subIterateAtMost (n : Nat) (h : Paired K a b) :
    Beside Bound (fun _ _ => Paired K) (subIterateAtMost n a) (subIterateAtMost n b) := by
  induction n generalizing a b with
  | zero => exact beside_done h
  | succ n ih =>
    refine beside_bind (beside_subIterate h) fun v w c d h => ?_
    obtain ⟨rfl, h⟩ := h
    cases v with
    | true => exact beside_done h
    | false => exact ih h

end Controller

end FluidStructure.Coupling
