import FluidStructure.Coupling.Controller

/-!
# Closed forms of the controller's stages

Each stage, entered in its own phase, is written as the requests that it makes and what it
does with the replies.  Outside its phase it refuses and changes nothing.
-/

namespace FluidStructure.Coupling

open FluidStructure.Channel FluidStructure.Journal

variable {σ α β : Type}

/-! ## Notices -/

/-- A notice, under a condition, ahead of a program. -/
def noting (condition : Bool) (notice : Notice) (p : Program Coupling α) : Program Coupling α :=
  if condition then .ask (.note notice) fun _ => p else p

@[simp] theorem noting_bind (condition : Bool) (notice : Notice) (p : Program Coupling α)
    (f : α → Program Coupling β) :
    (noting condition notice p).bind f = noting condition notice (p.bind f) := by
  cases condition <;> rfl

theorem noteIf_apply (condition : Bool) (notice : Notice) (s : σ) :
    (noteIf condition notice : Act Coupling σ Unit) s =
      noting condition notice (.done (.ok (), s)) := by
  cases condition <;> rfl

theorem noteIf_bind_apply (condition : Bool) (notice : Notice) (f : Unit → Act Coupling σ β)
    (s : σ) : (noteIf condition notice >>= f) s = noting condition notice (f () s) := by
  cases condition <;> rfl

/-! ## Replies that may be faults -/

/-- Goes on with a value, or ends with a fault. -/
def opening (s : σ) (f : α → Program Coupling (Except Fault β × σ)) :
    Except Fault α → Program Coupling (Except Fault β × σ)
  | .ok value => f value
  | .error fault => .done (.error fault, s)

@[simp] theorem opening_ok (s : σ) (f : α → Program Coupling (Except Fault β × σ)) (value : α) :
    opening s f (.ok value) = f value := rfl

@[simp] theorem opening_error (s : σ) (f : α → Program Coupling (Except Fault β × σ))
    (fault : Fault) : opening s f (.error fault) = .done (.error fault, s) := rfl

theorem ofExcept_bind_apply (outcome : Except Fault α) (f : α → Act Coupling σ β) (s : σ) :
    (Act.ofExcept outcome >>= f) s = opening s (fun value => f value s) outcome := by
  cases outcome <;> rfl

theorem sumReals_bind_apply (values : List Float) (f : List Float → Act Coupling σ β) (s : σ) :
    (sumReals values >>= f) s = .ask (.sumReals values) (opening s fun sums => f sums s) := by
  unfold sumReals
  rw [bind_assoc, Act.perform_bind_apply]
  congr 1
  funext reply
  exact ofExcept_bind_apply reply f s

theorem shareReal_bind_apply (own : Float) (f : Float → Act Coupling σ β) (s : σ) :
    (shareReal own >>= f) s =
      .ask (.broadcastReals [own]) (opening s fun values => f (values.headD own) s) := by
  unfold shareReal
  rw [bind_assoc, Act.perform_bind_apply]
  congr 1
  funext reply
  rw [bind_assoc, ofExcept_bind_apply]
  rfl

theorem shareInt_bind_apply (own : Int32) (f : Int32 → Act Coupling σ β) (s : σ) :
    (shareInt own >>= f) s =
      .ask (.broadcastInts [own]) (opening s fun values => f (values.headD own) s) := by
  unfold shareInt
  rw [bind_assoc, Act.perform_bind_apply]
  congr 1
  funext reply
  rw [bind_assoc, ofExcept_bind_apply]
  rfl

theorem sharePair_bind_apply (first second : Int32) (f : Int32 × Int32 → Act Coupling σ β)
    (s : σ) :
    (sharePair first second >>= f) s =
      .ask (.broadcastInts [first, second])
        (opening s fun values => f (values[0]?.getD first, values[1]?.getD second) s) := by
  unfold sharePair
  rw [bind_assoc, Act.perform_bind_apply]
  congr 1
  funext reply
  rw [bind_assoc, ofExcept_bind_apply]
  rfl

theorem sendField_bind_apply (peer : Int32) (name : String) (values : List Float)
    (f : Status → Act Coupling σ β) (s : σ) :
    (sendField peer name values >>= f) s =
      .ask (.sendField peer name values) (opening s fun status => f status s) := by
  unfold sendField
  rw [bind_assoc, Act.perform_bind_apply]
  congr 1
  funext reply
  exact ofExcept_bind_apply reply f s

theorem receiveField_bind_apply (peer : Int32) (name : String) (buffer : List Float)
    (f : Status × List Float → Act Coupling σ β) (s : σ) :
    (receiveField peer name buffer >>= f) s =
      .ask (.receiveField peer name buffer)
        (opening s fun received => f (received.1, overwrite buffer received.2) s) := by
  unfold receiveField
  rw [bind_assoc, Act.perform_bind_apply]
  congr 1
  funext reply
  rw [bind_assoc, ofExcept_bind_apply]
  rfl

theorem sendReal_bind_apply (peer iteration : Int32) (name : String) (value : Float)
    (f : Status → Act Coupling σ β) (s : σ) :
    (sendReal peer iteration name value >>= f) s =
      .ask (.sendReals peer iteration name [value]) fun status => f status s := rfl

theorem receiveReal_bind_apply (peer iteration : Int32) (name : String) (old : Float)
    (f : Status × Float → Act Coupling σ β) (s : σ) :
    (receiveReal peer iteration name old >>= f) s =
      .ask (.receiveReals peer iteration name [old])
        fun received => f (received.1, received.2.headD old) s := rfl

/-! ## Residual -/

namespace Convergence

/-- What is checked before a residual is computed. -/
def checkOperands (a b : List Float) (length : Float) : Except Fault Unit := do
  Fault.require (a.length = b.length) "a.size() == b.size()" "residual operands differ in size"
  Fault.require (0.0 < length) "lref > 0.0" "reference length must be positive"

theorem relativeResidual_bind_apply (a b : List Float) (length : Float)
    (f : Float → Act Coupling σ β) (s : σ) :
    (relativeResidual a b length >>= f) s =
      opening s
        (fun _ => .ask (.sumReals [squaredDistance a b, Float.ofNat (a.length / 3)])
          (opening s fun sums => f (residualOf (sums.headD 0.0) (sums[1]?.getD 0.0) length) s))
        (checkOperands a b length) := by
  unfold relativeResidual checkOperands
  rw [bind_assoc, ofExcept_bind_apply]
  cases Fault.require (a.length = b.length) "a.size() == b.size()"
      "residual operands differ in size" with
  | error fault => rfl
  | ok _ =>
    rw [opening_ok, bind_assoc, ofExcept_bind_apply]
    congr 1
    funext _
    rw [bind_assoc, sumReals_bind_apply]
    rfl

/-- The state after an evaluation. -/
def Evaluated.settle (e : Evaluated) (converged : Bool) (residual : Float) : Evaluated :=
  ⟨{ e.session with localConvergence := converged }, residual⟩

theorem evaluate_apply (place : Parallel.Place) (e : Evaluated) :
    evaluate place e =
      if e.session.isImplicit then
        opening e
          (fun _ => .ask (.sumReals
              [squaredDistance e.session.displacement e.session.predictedDisplacement,
                Float.ofNat (e.session.displacement.length / 3)])
            (opening e fun sums =>
              let residual := residualOf (sums.headD 0.0) (sums[1]?.getD 0.0)
                e.session.referenceLength
              let converged := decide (residual ≤ e.session.parameters.tolerance)
              noting (place.isRoot && e.session.isVerbose)
                (.residual e.session.subIteration residual e.session.parameters.tolerance
                  converged)
                (.done (.ok converged, e.settle converged residual))))
          (checkOperands e.session.displacement e.session.predictedDisplacement
            e.session.referenceLength)
      else .done (.ok true, e.settle true e.lastResidual) := by
  unfold evaluate
  rw [Act.get_bind_apply]
  cases e.session.isImplicit with
  | false => rfl
  | true =>
    simp only [Bool.not_true, Bool.false_eq_true, if_false, if_true]
    rw [relativeResidual_bind_apply]
    congr 1; funext _; congr 1; funext reply; congr 1; funext sums
    rw [Act.set_bind_apply, noteIf_bind_apply]
    rfl

end Convergence

/-! ## Negotiation -/

namespace TimeStep

/-- The exchange with the peer, which does not depend on a state. -/
def exchanged (s : Session) (iteration : Int32) (own : Float) : Program Coupling (Option Float) :=
  .ask (.receiveReals s.peer.root iteration Variable.peerTimeStep [s.parameters.referenceStep])
    fun received =>
      if Status.failed received.1 then
        .ask (.note (.receiveFailed Variable.peerTimeStep received.1)) fun _ => .done none
      else
        let proposed := received.2.headD s.parameters.referenceStep
        let chosen := smallest s.parameters.referenceStep proposed own
        .ask (.sendReals s.peer.root iteration Variable.negotiatedTimeStep [chosen]) fun sent =>
          if Status.failed sent then
            .ask (.note (.sendFailed Variable.negotiatedTimeStep sent)) fun _ => .done none
          else noting s.isTracing (.stepExchanged iteration own proposed chosen) (.done (some chosen))

theorem exchange_eq_lift (s : Session) (iteration : Int32) (own : Float) :
    (exchange s iteration own : Act Coupling σ _) = Act.lift (exchanged s iteration own) := by
  funext t
  unfold exchange exchanged Act.lift
  rw [receiveReal_bind_apply, Program.ask_bind]
  congr 1
  funext received
  dsimp only
  split
  · rfl
  · rw [sendReal_bind_apply, Program.ask_bind]
    congr 1
    funext sent
    split
    · rfl
    · rw [noteIf_bind_apply, noting_bind]
      rfl

/-- The proposal of a rank to its group. -/
def proposal (place : Parallel.Place) (s : Session) (own : Float) :
    Program Coupling (Int32 × Float) :=
  if !s.isDryRun && place.isRoot then
    (exchanged s (s.iteration + 1) own).bind fun
      | some chosen => .done (s.iteration + 1, chosen)
      | none => .ask (.note .exchangeLost) fun _ => .done (-1, s.parameters.referenceStep)
  else .done (s.iteration + 1, smaller s.parameters.referenceStep own)

theorem propose_eq_lift (place : Parallel.Place) (s : Session) (own : Float) :
    (propose place s own : Act Coupling σ _) = Act.lift (proposal place s own) := by
  funext t
  unfold propose proposal
  dsimp only
  split
  · rw [exchange_eq_lift, Act.lift_bind_apply]
    unfold Act.lift
    rw [Program.bind_assoc]
    congr 1
    funext chosen
    cases chosen <;> rfl
  · rfl

/-- What the group makes of a proposal. -/
def settle (wanted : Bool) (proposed : Int32 × Float) : Act Coupling Schedule Float := fun t =>
  .ask (.broadcastReals [proposed.2]) <| opening t fun dts =>
    .ask (.broadcastInts [proposed.1]) <| opening t fun iterations =>
      let dt := dts.headD proposed.2
      let iteration := iterations.headD proposed.1
      noting (wanted && !(iteration < 0)) (.stepNegotiated iteration dt)
        (.done (.ok dt, t.agree iteration dt))

theorem negotiate_apply (place : Parallel.Place) (own : Float) (t : Schedule) :
    negotiate place own t =
      if t.session.isTerminated then .done (.ok own, t)
      else
        (proposal place t.session own).bind fun proposed =>
          settle (place.isRoot && t.session.isVerbose) proposed t := by
  unfold negotiate
  rw [Act.get_bind_apply]
  split
  · rfl
  · rw [propose_eq_lift, Act.lift_bind_apply]
    congr 1
    funext ⟨iteration, dt⟩
    refine (shareReal_bind_apply ..).trans ?_
    unfold settle
    congr 1; funext reply; congr 1; funext dts
    rw [shareInt_bind_apply]
    congr 1; funext reply; congr 1; funext iterations
    rw [Act.modify_bind_apply, noteIf_bind_apply]
    rfl

end TimeStep

/-! ## Stages of the controller -/

namespace Controller

theorem requirePhase_bind_apply (expected : Phase) (operation : String)
    (f : Unit → Act Coupling Controller β) (c : Controller) :
    (requirePhase expected operation >>= f) c =
      if c.phase = expected then f () c
      else .done (.error (.wrongPhase operation c.phase expected), c) := by
  unfold requirePhase
  rw [bind_assoc, Act.get_bind_apply]
  dsimp only
  split <;> rfl

theorem unlessTerminated_apply (act : Act Coupling Controller Unit) (c : Controller) :
    unlessTerminated act c = if c.session.isTerminated then .done (.ok (), c) else act c := by
  unfold unlessTerminated
  rw [Act.get_bind_apply]
  split <;> rfl

/-- The controller once the peer is lost. -/
def lost (c : Controller) : Controller :=
  if c.session.isTerminated then c
  else { c with session := c.session.terminate, run := c.run.windDown }

theorem disconnect_apply (during : String) (c : Controller) :
    disconnect during c =
      noting (!c.session.isTerminated && c.place.isRoot)
        (.disconnected during (stopStep c.lost.run)) (.done (.ok (), c.lost)) := by
  unfold disconnect lost
  rw [unlessTerminated_apply]
  cases c.session.isTerminated with
  | true => rfl
  | false =>
    simp only [Bool.false_eq_true, if_false, Bool.not_false, Bool.true_and]
    rw [Act.modify_bind_apply, Act.get_bind_apply, noteIf_apply]

theorem heed_apply (status : Status) (during : String) (c : Controller) :
    heed status during c =
      noting (Status.failed status && (!c.session.isTerminated && c.place.isRoot))
        (.disconnected during (stopStep c.lost.run))
        (.done (.ok (), if Status.failed status then c.lost else c)) := by
  unfold heed
  cases Status.failed status with
  | true => exact disconnect_apply during c
  | false => rfl

theorem sendForces_apply (c : Controller) (turn : c.phase = .subIterating) :
    sendForces c =
      if c.session.isTerminated then .done (.ok (), c)
      else
        opening c (fun s =>
          noting s.isTracing
            (.forcePrediction Prediction.forceCoefficients.c1 Prediction.forceCoefficients.c2)
            (if s.isDryRun then .done (.ok (), { c with session := s })
            else
              .ask (.sendField s.peer.root Variable.fluidForces s.predictedForce)
                (opening { c with session := s } fun status =>
                  heed status "force exchange" { c with session := s })))
          (Prediction.forces c.session) := by
  unfold sendForces
  rw [requirePhase_bind_apply, if_pos turn, unlessTerminated_apply]
  split
  · rfl
  · unfold onSession Prediction.predictForces
    rw [Act.bind_apply, Act.zoom_apply, Act.get_bind_apply, ofExcept_bind_apply]
    cases Prediction.forces c.session with
    | error fault => rfl
    | ok s =>
      rw [opening_ok, opening_ok, Act.set_bind_apply, noteIf_bind_apply, noting_bind, noting_bind]
      congr 1
      change (Act.get >>= _) _ = _
      rw [Act.get_bind_apply]
      dsimp only
      split
      · rfl
      · rw [sendField_bind_apply]

/-- The controller that took its staging buffers over. -/
def taken (c : Controller) : Controller :=
  { c with
    session :=
      { c.session with
        displacement := overwrite c.session.displacement c.displacementStaging
        velocity := overwrite c.session.velocity c.velocityStaging } }

/-- Do the staging buffers have the size of the session's? -/
def stagingCheck (c : Controller) : Except Fault Unit :=
  Fault.assert (c.displacementStaging.length = c.session.displacement.length)
    "displacement_staging_.size() == session_.displacement_current().size()"
    "staging buffers sized at initialize"

theorem acceptStaged_apply (status : Status) (c : Controller) :
    acceptStaged status c =
      if Status.failed status then disconnect "displacement exchange" c
      else opening c (fun _ => .done (.ok (), c.taken)) c.stagingCheck := by
  unfold acceptStaged
  split
  · rfl
  · rw [Act.get_bind_apply, ofExcept_bind_apply]
    rfl

theorem receiveStaged_bind_apply (peer : Int32) (f : Status → Act Coupling Controller β)
    (c : Controller) :
    (receiveStaged peer >>= f) c =
      .ask (.receiveField peer Variable.meshDisplacement c.displacementStaging)
        (opening c fun first =>
          let c := { c with displacementStaging := overwrite c.displacementStaging first.2 }
          if Status.failed first.1 then f first.1 c
          else
            .ask (.receiveField peer Variable.meshVelocity c.velocityStaging)
              (opening c fun second =>
                f second.1 { c with velocityStaging := overwrite c.velocityStaging second.2 })) := by
  unfold receiveStaged
  rw [bind_assoc, Act.get_bind_apply, bind_assoc, receiveField_bind_apply]
  congr 1; funext reply; congr 1; funext first
  dsimp only
  rw [bind_assoc, Act.modify_bind_apply]
  split
  · rfl
  · rw [bind_assoc, Act.get_bind_apply, bind_assoc, receiveField_bind_apply]
    rfl

theorem receiveDisplacement_apply (c : Controller) (turn : c.phase = .subIterating) :
    receiveDisplacement c =
      if c.session.isDryRun then .done (.ok (), { c with session := rest c.session })
      else if c.session.isTerminated then .done (.ok (), c)
      else
        noting (c.session.isTracing && c.place.isRoot)
          (.receivingFields Variable.meshDisplacement Variable.meshVelocity)
          ((receiveStaged c.session.peer.root >>= acceptStaged) c) := by
  unfold receiveDisplacement
  rw [requirePhase_bind_apply, if_pos turn, Act.get_bind_apply]
  split
  · rfl
  · rw [unlessTerminated_apply]
    split
    · rfl
    · rw [noteIf_bind_apply]

theorem predictDisplacement_apply (c : Controller) (turn : c.phase = .subIterating) :
    predictDisplacement c =
      if c.session.isTerminated then .done (.ok {}, c)
      else
        let used := Prediction.displacementCoefficients c.session
        opening c (fun s =>
          noting s.isTracing (.displacementPrediction s.subIteration used.c1 used.c2 used.c3)
            (.done (.ok used, { c with session := s })))
          (Prediction.displacement c.session) := by
  unfold predictDisplacement
  rw [requirePhase_bind_apply, if_pos turn, Act.get_bind_apply]
  split
  · rfl
  · unfold onSession Prediction.predictDisplacement
    rw [Act.zoom_apply, Act.get_bind_apply]
    dsimp only
    rw [ofExcept_bind_apply]
    cases Prediction.displacement c.session with
    | error fault => rfl
    | ok s =>
      rw [opening_ok, opening_ok, Act.set_bind_apply, noteIf_bind_apply, noting_bind]
      rfl

/-- The controller that heard from the structure side. -/
def heard (c : Controller) (peer : Bool) : Controller :=
  { c with session := { c.session with globalConvergence := peer } }

theorem askPeerConvergence_bind_apply (own : Bool) (f : Bool → Act Coupling Controller β)
    (c : Controller) :
    (askPeerConvergence own >>= f) c =
      .ask (.peerConvergence c.session own) (opening c fun peer => f peer (c.heard peer)) := by
  unfold askPeerConvergence
  rw [bind_assoc, Act.get_bind_apply, bind_assoc, Act.perform_bind_apply]
  congr 1
  funext reply
  rw [bind_assoc, ofExcept_bind_apply]
  rfl

theorem onRoot_bind_apply (exchange : Act Coupling Controller Status)
    (f : Status → Act Coupling Controller β) (c : Controller) :
    (onRoot exchange >>= f) c =
      if c.place.isRoot then (exchange >>= f) c else f Status.ok c := by
  unfold onRoot
  rw [bind_assoc, Act.get_bind_apply]
  split <;> rfl

theorem sendConvergence_bind_apply (own : Bool) (f : Status → Act Coupling Controller β)
    (c : Controller) :
    (sendConvergence own >>= f) c =
      if c.session.isConnected && c.place.isRoot then
        .ask (.sendInts c.session.peer.root c.session.iteration Variable.convergence
          [if own then 1 else 0]) fun status => f status c
      else f Status.ok c := by
  unfold sendConvergence
  rw [bind_assoc, Act.get_bind_apply]
  dsimp only
  cases c.session.isConnected with
  | false => rfl
  | true =>
    rw [if_pos rfl, onRoot_bind_apply, Bool.true_and]
    rfl

/-- The controller after an evaluation. -/
def assessed (c : Controller) (converged : Bool) (residual : Float) : Controller :=
  { c with
    session := { c.session with localConvergence := converged }
    lastResidual := residual }

theorem onEvaluation_evaluate_bind_apply (place : Parallel.Place)
    (f : Bool → Act Coupling Controller β) (c : Controller) :
    (onEvaluation (Convergence.evaluate place) >>= f) c =
      if c.session.isImplicit then
        opening c
          (fun _ => .ask (.sumReals
              [Convergence.squaredDistance c.session.displacement c.session.predictedDisplacement,
                Float.ofNat (c.session.displacement.length / 3)])
            (opening c fun sums =>
              let residual := Convergence.residualOf (sums.headD 0.0) (sums[1]?.getD 0.0)
                c.session.referenceLength
              let converged := decide (residual ≤ c.session.parameters.tolerance)
              noting (place.isRoot && c.session.isVerbose)
                (.residual c.session.subIteration residual c.session.parameters.tolerance
                  converged)
                (f converged (c.assessed converged residual))))
          (Convergence.checkOperands c.session.displacement c.session.predictedDisplacement
            c.session.referenceLength)
      else f true (c.assessed true c.lastResidual) := by
  unfold onEvaluation
  rw [Act.bind_apply, Act.zoom_apply, Convergence.evaluate_apply]
  dsimp only
  split
  · cases Convergence.checkOperands c.session.displacement c.session.predictedDisplacement
        c.session.referenceLength with
    | error fault => rfl
    | ok _ =>
      simp only [opening_ok, Program.ask_bind]
      congr 1
      funext reply
      cases reply with
      | error fault => rfl
      | ok sums =>
        simp only [opening_ok, noting_bind]
        rfl
  · rfl

/-- What follows once the own flag and that of the structure side are known. -/
def agree (own peer : Bool) (status : Status) : Act Coupling Controller Bool := fun c =>
  .ask (.broadcastInts [if own && peer then 1 else 0, status]) <| opening c fun shared =>
    (heed (shared[1]?.getD status) "convergence exchange" >>= fun _ =>
      pure (shared[0]?.getD (if own && peer then 1 else 0) != 0)) c

theorem exchangeConvergence_apply (c : Controller) (turn : c.phase = .subIterating) :
    exchangeConvergence c =
      (onEvaluation (Convergence.evaluate c.place) >>= fun own =>
        askPeerConvergence own >>= fun peer => sendConvergence own >>= agree own peer) c := by
  unfold exchangeConvergence
  rw [requirePhase_bind_apply, if_pos turn, Act.get_bind_apply]
  refine congrFun (congrArg (onEvaluation (Convergence.evaluate c.place) >>= ·) ?_) c
  funext own
  refine congrArg (askPeerConvergence own >>= ·) ?_
  funext peer
  refine congrArg (sendConvergence own >>= ·) ?_
  funext status c
  rw [sharePair_bind_apply]
  rfl

theorem computeForces_apply (c : Controller) :
    computeForces c =
      .ask (.computeForces c.session c.run c.session.force) fun reply =>
        let c := { c with
          session := { c.session with force := overwrite c.session.force reply.2 } }
        opening c (fun _ => .done (.ok (), c)) reply.1 := by
  unfold computeForces
  rw [Act.get_bind_apply, Act.perform_bind_apply]
  congr 1
  funext ⟨result, values⟩
  cases result <;> rfl

theorem imposeDisplacement_apply (c : Controller) :
    imposeDisplacement c =
      .ask (.imposeDisplacement c.session c.session.predictedDisplacement)
        (opening c fun _ => .done (.ok (), c)) := by
  unfold imposeDisplacement
  rw [Act.get_bind_apply]
  dsimp only
  rw [Act.perform_bind_apply]
  congr 1
  funext reply
  cases reply <;> rfl

theorem saveValues_apply (c : Controller) :
    saveValues c =
      .done (.ok (),
        { c with session := if c.session.isImplicit then c.session else c.session.savePrevious }) :=
  rfl

/-! ## Whole operations -/

/-- The controller in which a step is about to be negotiated. -/
def advanced (c : Controller) : Controller := { c with phase := .negotiating, run := c.run.advance }

/-- The controller with a negotiated step. -/
def stepped (c : Controller) (t : TimeStep.Schedule) (dt : Float) : Controller :=
  { c with
    session := t.session.resetSubIterations
    run := t.run
    stepDt := dt
    phase := .subIterating }

theorem beginStep_apply (own : Float) (c : Controller) (turn : c.phase = .active) :
    beginStep own c =
      (TimeStep.negotiate c.place own ⟨c.session, c.advanced.run⟩).bind fun
        | (.ok dt, t) => .done (.ok dt, c.advanced.stepped t dt)
        | (.error fault, t) =>
          .done (.error fault, { c.advanced with session := t.session, run := t.run }) := by
  unfold beginStep
  rw [requirePhase_bind_apply, if_pos turn]
  unfold setPhase
  rw [Act.modify_bind_apply, Act.modify_bind_apply, Act.get_bind_apply]
  unfold onSchedule
  rw [Act.bind_apply, Act.zoom_apply, Program.bind_assoc]
  refine congrArg (Program.bind _) ?_
  funext ⟨result, t⟩
  cases result <;> rfl

/-- The agreement of the group on a proposal, and the entry into the step. -/
def entering (c : Controller) (proposed : Int32 × Float) :
    Program Coupling (Except Fault Float × Controller) :=
  .ask (.broadcastReals [proposed.2]) <| opening c.advanced fun dts =>
    .ask (.broadcastInts [proposed.1]) <| opening c.advanced fun iterations =>
      let dt := dts.headD proposed.2
      let iteration := iterations.headD proposed.1
      noting (c.place.isRoot && c.session.isVerbose && !(iteration < 0))
        (.stepNegotiated iteration dt)
        (.done (.ok dt, c.advanced.stepped
          ((⟨c.session, c.advanced.run⟩ : TimeStep.Schedule).agree iteration dt) dt))

/-- A step of a session that is not terminated. -/
theorem beginStep_live_apply (own : Float) (c : Controller) (turn : c.phase = .active)
    (live : c.session.isTerminated = false) :
    beginStep own c = (TimeStep.proposal c.place c.session own).bind c.entering := by
  rw [beginStep_apply own c turn, TimeStep.negotiate_apply, live, if_neg (by decide),
    Program.bind_assoc]
  congr 1
  funext proposed
  unfold TimeStep.settle entering
  rw [Program.ask_bind]
  congr 1
  funext reply
  cases reply with
  | error fault => rfl
  | ok dts =>
    rw [opening_ok, opening_ok, Program.ask_bind]
    congr 1
    funext reply
    cases reply with
    | error fault => rfl
    | ok iterations =>
      rw [opening_ok, opening_ok]
      exact noting_bind _ _ _ _

end Controller

end FluidStructure.Coupling
