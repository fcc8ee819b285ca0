import FluidStructure.Proofs.Programs.Crew

/-!
# Meetings of the fluid ranks with the structure

One lemma for each stage of a coupled step: all ranks of the fluid program enter it at one
point of the run, the structure answers what they ask, and all ranks leave it at one point.
-/

namespace FluidStructure.Programs

open FluidStructure.Channel FluidStructure.Coupling FluidStructure.Journal FluidStructure.Parallel
open Network (Meets Roots Traffic Ahead)

/-- A launch of both programs with the same parameters and the same interface. -/
structure Launch {φ : Type} [FluidSolver φ] {n : Nat} (r : Roots) (e : Terms)
    (place : Fin (n + 1) → Place) (sound : φ → Prop) : Prop where
  root : ∀ i, (place i).isRoot = decide (i = 0)
  found : e.peer.found = true
  peer : e.peer.root = r.solid
  length : 0.0 < e.parameters.referenceLength
  solver : Dependable sound e.surface.vertexCount
  someFaces : 0 < e.surface.faceCount
  someVertices : 0 < e.surface.vertexCount
  faces : (n + 1) * (3 * e.surface.faceCount) < 2 ^ 31
  vertices : (n + 1) * (3 * e.surface.vertexCount) < 2 ^ 31

/-- Parts of one size make a field. -/
theorem length_flatten_ofFn {n size : Nat} {parts : Fin n → List Float}
    (h : ∀ i, (parts i).length = size) : (List.ofFn parts).flatten.length = n * size := by
  induction n with
  | zero => simp
  | succ n ih =>
    rw [List.ofFn_succ, List.flatten_cons, List.length_append, h, ih fun i => h i.succ,
      Nat.succ_mul, Nat.add_comm]

section Stages

variable {φ : Type} [FluidSolver φ] {n : Nat} {r : Roots} {e : Terms}
  {place : Fin (n + 1) → Place} {sound : φ → Prop} {w : Point} {α β γ : Type}
  {Q : (Fin (n + 1) → α) → β → Traffic n → Prop} {x : Fin (n + 1) → Rank φ}
  {q : Program Parallel β} {d : MessageChannel}

theorem At.live {place : Place} {c : Controller} (h : At e place w c) (live : ¬ w.iteration < 0) :
    c.session.isTerminated = false := by
  unfold Session.isTerminated
  rw [h.iteration]
  exact decide_eq_false live

theorem At.coupled {place : Place} {c : Controller} (h : At e place w c)
    (found : e.peer.found = true) : c.session.isDryRun = false := by
  unfold Session.isDryRun
  rw [h.peer, found]
  rfl

theorem failed_ofNat {size : Nat} (h : size < 2 ^ 31) :
    Status.failed (Int32.ofNat size) = false :=
  decide_eq_false (Int32.not_lt.2 (Int32.zero_le_ofNat_of_lt h))

theorem heed_fine {status : Status} {during : String} (fine : Status.failed status = false) :
    Controller.heed status during = pure () :=
  if_neg (by rw [fine]; exact Bool.false_ne_true)

variable {F : Fin (n + 1) → (Except Fault Unit × Controller) × Setting φ → Program Parallel α}

theorem meets_computeForces (launch : Launch r e place sound)
    (h : ∀ i, (x i).Stands e (place i) sound w)
    (on : ∀ x' : Fin (n + 1) → Rank φ, (∀ i, (x' i).Stands e (place i) sound w) →
      Meets r Q (fun i => F i ((x' i).gives (place i) ())) q .empty .empty) :
    Meets r Q (fun i => ((x i).does (place i) Controller.computeForces).bind (F i)) q
      .empty .empty := by
  have one i : ∃ x' : Rank φ, x'.Stands e (place i) sound w ∧
      ((x i).does (place i) Controller.computeForces).bind (F i) = F i (x'.gives (place i) ()) := by
    let c := (x i).controller
    let computed := FluidSolver.computeForces c.session c.run c.session.force (x i).solver
    obtain ⟨fine, kept⟩ := launch.solver.computes c.session c.run c.session.force (x i).solver
      (h i).solver
    refine ⟨{ x i with
      controller := { c with
        session := { c.session with force := overwrite c.session.force computed.1.2 } }
      solver := computed.2 }, ?_, ?_⟩
    · exact { h i with
        controller := { (h i).controller with
          force := (length_overwrite _ _).trans (h i).controller.force
          buffers := (h i).controller.buffers.overwriteForce _ }
        solver := kept }
    · unfold Rank.does
      rw [Controller.computeForces_apply, Rank.via_computeForces]
      dsimp only
      rw [fine]
      rfl
  choose x' stands does using one
  exact Meets.of_eq does (on x' stands)

/-- The forces of all ranks reach the structure. -/
theorem meets_sendForces (launch : Launch r e place sound)
    (h : ∀ i, (x i).Stands e (place i) sound w) (turn : w.phase = .subIterating)
    (live : ¬ w.iteration < 0) {forces : List Float}
    {g : Except Fault (Status × List Float) × MessageChannel → Program Parallel β}
    (single : d.isLocalRoot = true) (size : forces.length = (n + 1) * (3 * e.surface.faceCount))
    (receives : q = (MessageChannel.receiveField r.fluid Variable.fluidForces forces d).bind g)
    (on : ∀ (x' : Fin (n + 1) → Rank φ) (d' : MessageChannel) (forces' : List Float),
      (∀ i, (x' i).Stands e (place i) sound w) → d'.place = d.place →
      forces'.length = forces.length →
      Meets r Q (fun i => F i ((x' i).gives (place i) ()))
        (g (.ok (Int32.ofNat forces.length, forces'), d')) .empty .empty) :
    Meets r Q (fun i => ((x i).does (place i) Controller.sendForces).bind (F i)) q
      .empty .empty := by
  have predicted i := Prediction.forces_ok (h i).controller.buffers
  choose values fits fine using predicted
  have sent i : (values i).length = 3 * e.surface.faceCount :=
    (fits i).predictedForce.trans (h i).controller.force
  have whole := length_flatten_ofFn sent
  let c i : Controller := { (x i).controller with
    session := { (x i).controller.session with predictedForce := values i } }
  have stands i (channel : MessageChannel) (same : channel.place = (x i).channel.place) :
      ({ x i with controller := c i, channel := channel } : Rank φ).Stands e (place i) sound w :=
    { h i with
      controller := { (h i).controller with buffers := fits i }
      channel := by
        have root := (h i).channel
        unfold MessageChannel.isLocalRoot at root ⊢
        rw [same, root] }
  have does i : ((x i).does (place i) Controller.sendForces).bind (F i) =
      ((noting (c i).session.isTracing
        (.forcePrediction Prediction.forceCoefficients.c1 Prediction.forceCoefficients.c2)
        (.ask (.sendField r.solid Variable.fluidForces (values i))
          (opening (c i) fun status => Controller.heed status "force exchange" (c i)))).via
            Setting.answer ((x i).setting (place i))).bind (F i) := by
    have at_ := (h i).controller
    have there : (c i).session.peer.root = r.solid :=
      (congrArg Discovery.Peer.root at_.peer).trans launch.peer
    have coupled : (c i).session.isDryRun = false := at_.coupled launch.found
    unfold Rank.does
    rw [Controller.sendForces_apply _ (at_.phase.trans turn), at_.live live,
      if_neg Bool.false_ne_true, fine i, opening_ok]
    rw [show ({ (x i).controller.session with predictedForce := values i } : Session).isDryRun =
      false from coupled, if_neg Bool.false_ne_true]
    rw [← there]
  refine Meets.of_eq does (Meets.ahead (fun i => Rank.ahead_noting _ _ rfl _ _) ?_)
  refine Meets.fieldToSolid (by decide) (fun i => (h i).channel.trans (launch.root i)) single
    ?_ ?_ ?_ (fun i => Rank.via_sendField _ _ _ _ _ _ _) receives
    fun channels d' forces' places alone kept => ?_
  · exact whole.trans size.symm
  · rw [size]
    exact Nat.mul_pos (Nat.succ_pos n) (Nat.mul_pos (by decide) launch.someFaces)
  · rw [size]
    exact launch.faces
  · refine Meets.of_eq (fun i => ?_)
      (on _ d' forces' (fun i => stands i (channels i) (places i)) alone kept)
    have small : (values i).length < 2 ^ 31 :=
      Nat.lt_of_le_of_lt (sent i ▸ Nat.le_mul_of_pos_left _ (Nat.succ_pos n)) launch.faces
    dsimp only
    rw [opening_ok, heed_fine (failed_ofNat small)]
    rfl

theorem single_of_place {c d : MessageChannel} (same : c.place = d.place)
    (single : d.isLocalRoot = true) : c.isLocalRoot = true := by
  unfold MessageChannel.isLocalRoot at single ⊢
  rw [same, single]

/-- What follows on the displacement. -/
def receiveVelocity (peer : Int32) (c : Controller) :
    Program Coupling (Except Fault Unit × Controller) :=
  .ask (.receiveField peer Variable.meshVelocity c.velocityStaging) <| opening c fun second =>
    Controller.acceptStaged second.1
      { c with velocityStaging := overwrite c.velocityStaging second.2 }

/-- Displacement and velocity reach all ranks. -/
theorem meets_receiveDisplacement (launch : Launch r e place sound)
    (h : ∀ i, (x i).Stands e (place i) sound w) (turn : w.phase = .subIterating)
    (live : ¬ w.iteration < 0) {displacement velocity : List Float}
    {g g' : Except Fault Status × MessageChannel → Program Parallel β}
    (single : d.isLocalRoot = true)
    (size : displacement.length = (n + 1) * (3 * e.surface.vertexCount))
    (size' : velocity.length = (n + 1) * (3 * e.surface.vertexCount))
    (sends : q = (MessageChannel.sendField r.fluid Variable.meshDisplacement displacement d).bind g)
    (sends' : ∀ d' : MessageChannel, d'.place = d.place →
      g (.ok (Int32.ofNat displacement.length), d') =
        (MessageChannel.sendField r.fluid Variable.meshVelocity velocity d').bind g')
    (on : ∀ (x' : Fin (n + 1) → Rank φ) (d' : MessageChannel),
      (∀ i, (x' i).Stands e (place i) sound w) → d'.place = d.place →
      Meets r Q (fun i => F i ((x' i).gives (place i) ()))
        (g' (.ok (Int32.ofNat velocity.length), d')) .empty .empty) :
    Meets r Q (fun i => ((x i).does (place i) Controller.receiveDisplacement).bind (F i)) q
      .empty .empty := by
  have begun : w.phase ≠ .uninitialized := by rw [turn]; decide
  have staged i := (h i).controller.staging begun
  have some : 0 < (n + 1) * (3 * e.surface.vertexCount) :=
    Nat.mul_pos (Nat.succ_pos n) (Nat.mul_pos (by decide) launch.someVertices)
  have small {buffer : List Float} (long : buffer.length = 3 * e.surface.vertexCount) :
      Status.failed (Int32.ofNat buffer.length) = false :=
    failed_ofNat (Nat.lt_of_le_of_lt (long ▸ Nat.le_mul_of_pos_left _ (Nat.succ_pos n))
      launch.vertices)
  have root {channel : MessageChannel} {i : Fin (n + 1)}
      (same : channel.place = (x i).channel.place) : channel.isLocalRoot = (place i).isRoot := by
    refine Eq.trans ?_ (h i).channel
    unfold MessageChannel.isLocalRoot
    rw [same]
  have does i : ((x i).does (place i) Controller.receiveDisplacement).bind (F i) =
      ((noting ((x i).controller.session.isTracing && (x i).controller.place.isRoot)
        (.receivingFields Variable.meshDisplacement Variable.meshVelocity)
        ((Controller.receiveStaged r.solid >>= Controller.acceptStaged) (x i).controller)).via
          Setting.answer ((x i).setting (place i))).bind (F i) := by
    have at_ := (h i).controller
    have there : (x i).controller.session.peer.root = r.solid :=
      (congrArg Discovery.Peer.root at_.peer).trans launch.peer
    unfold Rank.does
    rw [Controller.receiveDisplacement_apply _ (at_.phase.trans turn), at_.live live,
      at_.coupled launch.found, if_neg Bool.false_ne_true, if_neg Bool.false_ne_true, there]
  refine Meets.of_eq does (Meets.ahead (fun i => Rank.ahead_noting _ _ rfl _ _) ?_)
  have first i := congrArg
    (fun p => (Program.via Setting.answer p ((x i).setting (place i))).bind (F i))
    (Controller.receiveStaged_bind_apply r.solid Controller.acceptStaged (x i).controller)
  refine Meets.of_eq (fun i => (first i).trans (Rank.via_receiveField _ _ _ _ _ _ _)) ?_
  refine Meets.fieldToFluid (by decide) (fun i => (h i).channel.trans (launch.root i)) single
    ?_ (size ▸ some) ?_ sends (fun i => rfl) fun channels d' parts places alone kept => ?_
  · exact (length_flatten_ofFn fun i => (staged i).1).trans size.symm
  · rw [size]
    exact launch.vertices
  -- the second field follows on the first
  let c i : Controller := { (x i).controller with
    displacementStaging := overwrite (x i).controller.displacementStaging (parts i) }
  let x₁ i : Rank φ := { x i with controller := c i, channel := channels i }
  refine Meets.of_eq (fun i => show _ = ((receiveVelocity r.solid (c i)).via Setting.answer
    ((x₁ i).setting (place i))).bind (F i) from ?_) ?_
  · dsimp only
    rw [opening_ok]
    dsimp only
    rw [small (staged i).1, if_neg Bool.false_ne_true]
    rfl
  refine Meets.fieldToFluid (by decide) (fun i => (root (places i)).trans (launch.root i))
    (single_of_place alone single) ?_ (size' ▸ some) ?_ (sends' d' alone)
    (fun i => Rank.via_receiveField _ _ _ _ _ _ _)
    fun channels' d'' parts' places' alone' kept' => ?_
  · exact (length_flatten_ofFn fun i => (staged i).2).trans size'.symm
  · rw [size']
    exact launch.vertices
  let c' i : Controller :=
    { c i with velocityStaging := overwrite (c i).velocityStaging (parts' i) }
  let x₂ i : Rank φ := ⟨(c' i).taken, channels' i, (x i).solver⟩
  refine Meets.of_eq (fun i => ?_) (on x₂ d'' (fun i => ?_) (alone'.trans alone))
  · have check : (c' i).stagingCheck = .ok () := by
      unfold Controller.stagingCheck Fault.assert
      rw [show (c' i).displacementStaging.length = (c' i).session.displacement.length from
        (length_overwrite _ _).trans ((staged i).1.trans (h i).controller.displacement.symm)]
      simp
    dsimp only
    rw [opening_ok, Controller.acceptStaged_apply, small (staged i).2, if_neg Bool.false_ne_true,
      show Controller.stagingCheck _ = .ok () from check, opening_ok]
    rfl
  · exact { h i with
      controller := { (h i).controller with
        displacement := (length_overwrite _ _).trans (h i).controller.displacement
        buffers := (h i).controller.buffers.overwriteMotion _ _
        staging := fun _ => ⟨(length_overwrite _ _).trans (staged i).1,
          (length_overwrite _ _).trans (staged i).2⟩ }
      channel := root ((places' i).trans (places i)) }

theorem meets_predictDisplacement
    {F : Fin (n + 1) → (Except Fault Coefficients × Controller) × Setting φ → Program Parallel α}
    (h : ∀ i, (x i).Stands e (place i) sound w) (turn : w.phase = .subIterating)
    (live : ¬ w.iteration < 0)
    (on : ∀ (x' : Fin (n + 1) → Rank φ) (used : Fin (n + 1) → Coefficients),
      (∀ i, (x' i).Stands e (place i) sound w) →
      Meets r Q (fun i => F i ((x' i).gives (place i) (used i))) q .empty .empty) :
    Meets r Q (fun i => ((x i).does (place i) Controller.predictDisplacement).bind (F i)) q
      .empty .empty := by
  have predicted i := Prediction.displacement_ok (h i).controller.buffers
  choose values fits fine using predicted
  let x' i : Rank φ := { x i with
    controller := { (x i).controller with
      session := { (x i).controller.session with predictedDisplacement := values i } } }
  refine Meets.ahead (fun i => ?_) (on x' (fun i => Prediction.displacementCoefficients
    (x i).controller.session) fun i => { h i with
      controller := { (h i).controller with buffers := fits i } })
  have at_ := (h i).controller
  unfold Rank.does
  rw [Controller.predictDisplacement_apply _ (at_.phase.trans turn), at_.live live,
    if_neg Bool.false_ne_true]
  dsimp only
  rw [fine i, opening_ok]
  exact Rank.ahead_noting _ _ rfl _ _

theorem meets_imposeDisplacement (launch : Launch r e place sound)
    (h : ∀ i, (x i).Stands e (place i) sound w) (live : ¬ w.iteration < 0)
    (on : ∀ x' : Fin (n + 1) → Rank φ, (∀ i, (x' i).Stands e (place i) sound w) →
      Meets r Q (fun i => F i ((x' i).gives (place i) ())) q .empty .empty) :
    Meets r Q (fun i => ((x i).does (place i)
      (Controller.unlessTerminated Controller.imposeDisplacement)).bind (F i)) q
      .empty .empty := by
  have one i : ∃ x' : Rank φ, x'.Stands e (place i) sound w ∧
      ((x i).does (place i) (Controller.unlessTerminated Controller.imposeDisplacement)).bind
        (F i) = F i (x'.gives (place i) ()) := by
    let s := (x i).controller.session
    have at_ := (h i).controller
    obtain ⟨fine, kept⟩ := launch.solver.imposes s s.predictedDisplacement (x i).solver (h i).solver
      (at_.buffers.predictedDisplacement.trans at_.displacement)
    refine ⟨{ x i with
      solver := (FluidSolver.imposeDisplacement s s.predictedDisplacement (x i).solver).2 },
      { h i with solver := kept }, ?_⟩
    unfold Rank.does
    rw [Controller.unlessTerminated_apply, at_.live live, if_neg Bool.false_ne_true,
      Controller.imposeDisplacement_apply, Rank.via_imposeDisplacement, fine]
    rfl
  choose x' stands does using one
  exact Meets.of_eq does (on x' stands)

/-- All ranks have the flag that the structure hears of. -/
theorem meets_flag (launch : Launch r e place sound)
    {F : Fin (n + 1) → (Except Fault Bool × Controller) × Setting φ → Program Parallel α}
    (h : ∀ i, (x i).Stands e (place i) sound w) (live : ¬ w.iteration < 0) (own : Bool)
    {old : Int32} {g : Status × Int32 → Program Parallel β}
    (receives : q = (MessageChannel.receiveInt r.fluid w.iteration Variable.convergence old).bind g)
    (on : ∀ x' : Fin (n + 1) → Rank φ, (∀ i, (x' i).Stands e (place i) sound w) →
      Meets r Q (fun i => F i ((x' i).gives (place i) own)) (g (1, if own then 1 else 0))
        .empty .empty) :
    Meets r Q (fun i => ((x i).does (place i) (Controller.askPeerConvergence own >>= fun peer =>
      Controller.sendConvergence own >>= Controller.agree own peer)).bind (F i)) q
        .empty .empty := by
  let c i := (x i).controller.heard own
  let x' i : Rank φ := { x i with controller := c i }
  let left i : Program Coupling (Except Fault Bool × Controller) := if i = 0 then
      .ask (.sendInts r.solid w.iteration Variable.convergence [if own then 1 else 0])
        fun status => Controller.agree own own status (c i)
    else Controller.agree own own Status.ok (c i)
  have does i : ((x i).does (place i) (Controller.askPeerConvergence own >>= fun peer =>
      Controller.sendConvergence own >>= Controller.agree own peer)).bind (F i) =
        ((left i).via Setting.answer ((x' i).setting (place i))).bind (F i) := by
    have at_ := (h i).controller
    have there : (c i).session.peer.root = r.solid :=
      (congrArg Discovery.Peer.root at_.peer).trans launch.peer
    have connected : (c i).session.isConnected = true := by
      unfold Session.isConnected
      rw [show (c i).session.isDryRun = false from at_.coupled launch.found,
        show (c i).session.isTerminated = false from at_.live live]
      rfl
    have root : (c i).place.isRoot = decide (i = 0) :=
      (congrArg Place.isRoot at_.place).trans (launch.root i)
    unfold Rank.does
    rw [Controller.askPeerConvergence_bind_apply, Rank.via_peerConvergence, launch.solver.decides,
      opening_ok, Controller.sendConvergence_bind_apply,
      show (x i).controller.heard own = c i from rfl, connected, root, there, Bool.true_and,
      show (c i).session.iteration = w.iteration from at_.iteration]
    dsimp only [left]
    by_cases here : i = 0
    · rw [if_pos here, if_pos (decide_eq_true here)]
      rfl
    · rw [if_neg here, decide_eq_false here, if_neg Bool.false_ne_true]
      rfl
  have asks : left 0 = .ask (.sendInts r.solid w.iteration Variable.convergence
      [if own then 1 else 0]) fun status => Controller.agree own own status (c 0) := if_pos rfl
  have first : ((left 0).via Setting.answer ((x' 0).setting (place 0))).bind (F 0) =
      (MessageChannel.sendInts r.solid w.iteration Variable.convergence
        [if own then 1 else 0]).bind fun status =>
          ((Controller.agree own own status (c 0)).via Setting.answer
            ((x' 0).setting (place 0))).bind (F 0) := by
    rw [asks]
    exact Rank.via_sendInts _ _ _ _ _ _ _ _
  refine Meets.of_eq does (Meets.intToSolid (by decide) first receives ?_)
  -- the root tells its group how the exchange went
  let status (i : Fin (n + 1)) : Status := if i = 0 then 1 else Status.ok
  refine Meets.of_eq (fun i => show _ = ((Controller.agree own own (status i) (c i)).via
    Setting.answer ((x' i).setting (place i))).bind (F i) from ?_) ?_
  · by_cases here : i = 0
    · subst here
      rw [Network.put_same, show status 0 = 1 from if_pos rfl]
    · rw [Network.put_other here, show left i = _ from if_neg here,
        show status i = Status.ok from if_neg here]
  have two i : [if own && own then 1 else 0, status i].length = 2 := rfl
  refine Meets.broadcastInts (fun i => Rank.via_broadcastInts _ _ _ _ _) two ?_
  have told : status 0 = 1 := if_pos rfl
  have decided : ((if own && own then (1 : Int32) else 0) != 0) = own := by cases own <;> rfl
  refine Meets.of_eq (fun i => ?_) (on x' fun i => { h i with controller := { (h i).controller with
    buffers := { (h i).controller.buffers with } } })
  rw [told]
  exact congrArg (fun flag => F i ((x' i).gives (place i) flag)) decided

theorem At.fine {place : Place} {c : Controller} (h : At e place w c)
    (length : 0.0 < e.parameters.referenceLength) :
    Convergence.checkOperands c.session.displacement c.session.predictedDisplacement
      c.session.referenceLength = .ok () := by
  rw [Convergence.checkOperands_of_sized h.buffers, h.referenceLength]
  exact if_pos (decide_eq_true length)

/-- Own flag, flag of the structure and agreement, which together make up an exchange. -/
theorem meets_exchangeConvergence (launch : Launch r e place sound)
    {F : Fin (n + 1) → (Except Fault Bool × Controller) × Setting φ → Program Parallel α}
    (h : ∀ i, (x i).Stands e (place i) sound w) (turn : w.phase = .subIterating)
    (live : ¬ w.iteration < 0) {old : Int32} {g : Status × Int32 → Program Parallel β}
    (receives : q = (MessageChannel.receiveInt r.fluid w.iteration Variable.convergence old).bind g)
    (on : ∀ (x' : Fin (n + 1) → Rank φ) (converged : Bool),
      (∀ i, (x' i).Stands e (place i) sound w) →
      Meets r Q (fun i => F i ((x' i).gives (place i) converged))
        (g (1, if converged then 1 else 0)) .empty .empty) :
    Meets r Q (fun i => ((x i).does (place i) Controller.exchangeConvergence).bind (F i)) q
      .empty .empty := by
  let flagged (own : Bool) : Act Coupling Controller Bool :=
    Controller.askPeerConvergence own >>= fun peer =>
      Controller.sendConvergence own >>= Controller.agree own peer
  let x' (own : Bool) (residual : Fin (n + 1) → Float) i : Rank φ :=
    { x i with controller := (x i).controller.assessed own (residual i) }
  have assessed own residual i : (x' own residual i).Stands e (place i) sound w :=
    { h i with controller := { (h i).controller with
      buffers := { (h i).controller.buffers with } } }
  by_cases implicit : e.parameters.isImplicit = true
  · let own (sums : List Float) : Float :=
      Convergence.residualOf (sums.headD 0.0) (sums[1]?.getD 0.0) e.parameters.referenceLength
    let converged (sums : List Float) : Bool := decide (own sums ≤ e.parameters.tolerance)
    have does i : ((x i).does (place i) Controller.exchangeConvergence).bind (F i) =
        ((Program.ask (I := Coupling) (.sumReals
          [Convergence.squaredDistance (x i).controller.session.displacement
            (x i).controller.session.predictedDisplacement,
          Float.ofNat ((x i).controller.session.displacement.length / 3)])
          (opening (x i).controller fun sums =>
            noting ((x i).controller.place.isRoot && (x i).controller.session.isVerbose)
              (.residual (x i).controller.session.subIteration (own sums) e.parameters.tolerance
                (converged sums))
              (flagged (converged sums)
                ((x i).controller.assessed (converged sums) (own sums))))).via Setting.answer
                  ((x i).setting (place i))).bind (F i) := by
      have at_ := (h i).controller
      have coupling : (x i).controller.session.isImplicit = true :=
        (congrArg Parameters.isImplicit at_.parameters).trans implicit
      unfold Rank.does
      rw [Controller.exchangeConvergence_apply _ (at_.phase.trans turn),
        Controller.onEvaluation_evaluate_bind_apply, if_pos coupling, at_.fine launch.length,
        opening_ok, at_.referenceLength, at_.parameters]
    have two i : [Convergence.squaredDistance (x i).controller.session.displacement
          (x i).controller.session.predictedDisplacement,
        Float.ofNat ((x i).controller.session.displacement.length / 3)].length = 2 := rfl
    refine Meets.reduceReals (fun i => (does i).trans (Rank.via_sumReals _ _ _ _ _)) two
      fun sums => ?_
    refine Meets.ahead (fun i => Rank.ahead_noting (x' (converged sums) (fun _ => own sums) i)
      (place i) rfl _ _) ?_
    exact meets_flag launch (assessed (converged sums) fun _ => own sums) live _ receives
      fun x' stands => on x' _ stands
  · have does i : ((x i).does (place i) Controller.exchangeConvergence).bind (F i) =
        ((x' true (fun i => (x i).controller.lastResidual) i).does (place i)
          (flagged true)).bind (F i) := by
      have at_ := (h i).controller
      have coupling : ¬ (x i).controller.session.isImplicit = true := fun wrong =>
        implicit ((congrArg Parameters.isImplicit at_.parameters).symm.trans wrong)
      unfold Rank.does
      rw [Controller.exchangeConvergence_apply _ (at_.phase.trans turn),
        Controller.onEvaluation_evaluate_bind_apply, if_neg coupling]
      rfl
    exact Meets.of_eq does (meets_flag launch (assessed true _) live true receives
      fun x' stands => on x' _ stands)

end Stages

end FluidStructure.Programs
