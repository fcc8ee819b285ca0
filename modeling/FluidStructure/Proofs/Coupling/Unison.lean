import FluidStructure.Proofs.Coupling.Agreement

/-!
# The ranks of a group stay in unison

Rank 0 and any other rank of a group that make the same calls of their controllers never
wait for each other in vain, and agree on where the run stands after every call.
-/

namespace FluidStructure.Coupling

open FluidStructure.Channel FluidStructure.Journal

namespace Controller

variable {α : Type} {K : Phase → Float → Float → Prop} {a b : Controller}

/-! ## The beginning -/

theorem lost_withPhase (c : Controller) (phase : Phase) :
    { c.lost with phase := phase } = ({ c with phase := phase } : Controller).lost := by
  unfold lost
  dsimp only
  split <;> rfl

theorem beside_heed_withPhase {status : Status} {during : String} {phase : Phase}
    (h : Bound { a with phase := phase } { b with phase := phase }) :
    Beside Bound (fun _ _ c d => Bound { c with phase := phase } { d with phase := phase })
      (heed status during a) (heed status during b) := by
  unfold heed
  split
  · rw [disconnect_apply, disconnect_apply]
    refine beside_noting (beside_done ?_)
    rw [lost_withPhase, lost_withPhase]
    exact h.lost
  · exact beside_done h

/-- The exchange of the parameters; the phase does not matter in it. -/
theorem beside_announce {phase : Phase}
    (h : Bound { a with phase := phase } { b with phase := phase }) :
    Beside Bound (fun _ _ c d => Bound { c with phase := phase } { d with phase := phase })
      (announce a) (announce b) := by
  unfold announce
  rw [Act.get_bind_apply, Act.get_bind_apply, show a.session.isDryRun = b.session.isDryRun from
    h.isDryRun]
  split
  · rw [noteIf_apply, noteIf_apply]
    exact beside_noting (beside_done h)
  · refine beside_solitary (solitary_onRoot (solitary_sendParameters _))
      (solitary_onRoot (solitary_sendParameters _)) fun x y => ?_
    rw [shareInt_bind_apply, shareInt_bind_apply]
    exact beside_broadcastInts rfl (beside_heed_withPhase h)

/-- The staging buffers that the beginning makes. -/
theorem Fits.begun {c : Controller} (h : c.Fits) (turn : c.phase = .uninitialized) :
    ({ c with
      displacementStaging := Session.zeroVectors c.session.vertexCount
      velocityStaging := Session.zeroVectors c.session.vertexCount
      phase := .active } : Controller).Fits := by
  refine ⟨h.buffers, .inr (.inr ⟨(by decide : Phase.active ≠ .uninitialized), ?_⟩)⟩
  rcases h.staging with closed | ⟨-, same⟩ | ⟨begun, -⟩
  · exact Phase.noConfusion (turn.symm.trans closed)
  · exact List.length_replicate.trans same
  · exact absurd turn begun

theorem beside_begin (h : Bound a b) :
    Beside Bound (fun _ _ => Bound) (begin a) (begin b) := by
  refine beside_requirePhase h fun turn turn' => ?_
  rw [Act.get_bind_apply, Act.get_bind_apply, h.registered]
  split
  · exact beside_fault h
  · unfold sizeStaging
    rw [Act.modify_bind_apply, Act.modify_bind_apply]
    refine beside_bind (beside_announce { h with
      phase := rfl
      first := h.first.begun turn
      second := h.second.begun turn' }) fun _ _ c d after => ?_
    exact beside_done after

/-! ## Steps -/

/-- A step in which the ranks agree on its length, under a condition. -/
def InUse (agreed : Prop) (phase : Phase) (v w : Float) : Prop :=
  phase = .subIterating ∧ (agreed → v = w)

/-- The entry into a step with a session and a run control that are agreed on. -/
theorem Paired.stepped {agreed : Prop} {t u : TimeStep.Schedule} {dt dt' : Float}
    (h : Bound { a with session := t.session, run := t.run }
      { b with session := u.session, run := u.run })
    (turn : a.phase = .active) (same : agreed → dt = dt') :
    Paired (InUse agreed) (a.advanced.stepped t dt) (b.advanced.stepped u dt') := by
  have turn' : b.phase = .active := h.phase.symm.trans turn
  have entered : Phase.subIterating ≠ .uninitialized := by decide
  have staged := h.first.staged (by rw [turn]; decide) (by rw [turn]; decide)
  have staged' := h.second.staged (by rw [turn']; decide) (by rw [turn']; decide)
  exact { h with
    phase := rfl
    subIteration := rfl
    first := ⟨{ h.first.buffers with }, .inr (.inr ⟨entered, staged⟩)⟩
    second := ⟨{ h.second.buffers with }, .inr (.inr ⟨entered, staged'⟩)⟩
    kept := ⟨rfl, same⟩ }

theorem Paired.advanced (h : Bound a b) :
    Bound { a with run := a.run.advance } { b with run := b.run.advance } :=
  { h with
    currentStep := congrArg (· + 1) h.currentStep
    first := ⟨h.first.buffers, h.first.staging⟩
    second := ⟨h.second.buffers, h.second.staging⟩ }

/-- What the group agrees on is the same for both. -/
theorem Paired.agree (h : Bound a b) (iteration : Int32) (dt : Float) :
    Bound
      { a with
        session := ((⟨a.session, a.run⟩ : TimeStep.Schedule).agree iteration dt).session
        run := ((⟨a.session, a.run⟩ : TimeStep.Schedule).agree iteration dt).run }
      { b with
        session := ((⟨b.session, b.run⟩ : TimeStep.Schedule).agree iteration dt).session
        run := ((⟨b.session, b.run⟩ : TimeStep.Schedule).agree iteration dt).run } := by
  have first : Session.Sized (TimeStep.Schedule.agree ⟨a.session, a.run⟩ iteration dt).session :=
    { h.first.buffers with }
  have second : Session.Sized (TimeStep.Schedule.agree ⟨b.session, b.run⟩ iteration dt).session :=
    { h.second.buffers with }
  have moved : (a.run.windDown.currentStep = b.run.windDown.currentStep ∧
      a.run.windDown.lastStep = b.run.windDown.lastStep) := h.windDown
  refine { h with
    iteration := rfl
    subIteration := rfl
    dt := rfl
    previousDt := h.dt
    currentStep := ?_
    lastStep := ?_
    first := ⟨first, h.first.staging⟩
    second := ⟨second, h.second.staging⟩ }
  · unfold TimeStep.Schedule.agree
    dsimp only
    split
    · exact moved.1
    · exact h.currentStep
  · unfold TimeStep.Schedule.agree
    dsimp only
    split
    · exact moved.2
    · exact h.lastStep

theorem beside_entering {x y : Int32 × Float} (h : Bound a b) (turn : a.phase = .active) :
    Beside Bound (fun v w c d => v = w ∧ Paired (InUse True) c d) (a.entering x)
      (b.entering y) := by
  refine beside_broadcastReals rfl (beside_broadcastInts rfl (beside_noting (beside_done ?_)))
  exact ⟨rfl, Paired.stepped (h.advanced.agree x.1 x.2) turn fun _ => rfl⟩

/-- With the peer the ranks agree on the step; without it each takes its own candidate. -/
theorem beside_beginStep (h : Bound a b) (own own' : Float) :
    Beside Bound (fun v w c d => (a.session.isTerminated = false → v = w) ∧
      Paired (InUse (a.session.isTerminated = false)) c d) (beginStep own a)
      (beginStep own' b) := by
  by_cases turn : a.phase = .active
  · have turn' : b.phase = .active := h.phase.symm.trans turn
    cases gone : a.session.isTerminated with
    | true =>
      have gone' := h.isTerminated.symm.trans gone
      rw [beginStep_apply own a turn, beginStep_apply own' b turn', TimeStep.negotiate_apply,
        TimeStep.negotiate_apply, if_pos gone, if_pos gone']
      refine beside_done ⟨fun live => Bool.noConfusion live, ?_⟩
      exact Paired.stepped h.advanced turn fun live => Bool.noConfusion live
    | false =>
      have live := h.isTerminated.symm.trans gone
      rw [beginStep_live_apply own a turn gone, beginStep_live_apply own' b turn' live]
      refine Pact.Lockstep.first_own (own_proposal _ _ _) fun x _ => ?_
      refine Pact.Lockstep.second_own (own_proposal _ _ _) fun y _ => ?_
      refine (beside_entering h turn).mono fun v w c d agreed => ?_
      exact ⟨fun _ => agreed.1, { agreed.2 with
        kept := ⟨agreed.2.kept.1, fun _ => agreed.2.kept.2 trivial⟩ }⟩
  · unfold beginStep
    exact beside_requirePhase h fun on _ => absurd on turn

theorem beside_leaveStep {agreed : Prop} (h : Paired (InUse agreed) a b) :
    Beside Bound (fun v w c d => (agreed → v = w) ∧ Bound c d) (leaveStep a) (leaveStep b) := by
  have turn := h.kept.1
  have turn' : b.phase = .subIterating := h.phase.symm.trans turn
  have done : Phase.stepDone ≠ .uninitialized := by decide
  have staged := h.first.staged (by rw [turn]; decide) (by rw [turn]; decide)
  have staged' := h.second.staged (by rw [turn']; decide) (by rw [turn']; decide)
  unfold leaveStep setPhase
  rw [Act.modify_bind_apply, Act.modify_bind_apply, Act.get_bind_apply, Act.get_bind_apply,
    noteIf_bind_apply, noteIf_bind_apply]
  exact beside_noting (beside_done ⟨h.kept.2, { h with
    phase := rfl
    first := ⟨h.first.buffers, .inr (.inr ⟨done, staged⟩)⟩
    second := ⟨h.second.buffers, .inr (.inr ⟨done, staged'⟩)⟩
    kept := trivial }⟩)

theorem beside_runStep (h : Bound a b) (own own' : Float) :
    Beside Bound (fun v w c d => (a.session.isTerminated = false → v = w) ∧ Bound c d)
      (runStep own a) (runStep own' b) := by
  refine beside_bind (beside_beginStep h own own') fun _ _ c d begun => ?_
  rw [Act.get_bind_apply, Act.get_bind_apply, begun.2.cap]
  exact beside_bind (beside_subIterateAtMost _ begun.2) fun _ _ c d h => beside_leaveStep h

theorem beside_endStep (h : Bound a b) :
    Beside Bound (fun _ _ => Bound) (endStep a) (endStep b) := by
  unfold endStep
  rw [Act.get_bind_apply, Act.get_bind_apply]
  dsimp only
  rw [← h.phase]
  split
  · exact beside_fault h
  · rename_i opened
    have begun : a.phase ≠ .uninitialized ∧ a.phase ≠ .closed := by
      constructor
      · intro wrong
        exact opened ⟨by rw [wrong]; decide, by rw [wrong]; decide⟩
      · intro wrong
        exact opened ⟨by rw [wrong]; decide, by rw [wrong]; decide⟩
    have staged := h.first.staged begun.1 begun.2
    have staged' := h.second.staged (h.phase ▸ begun.1) (h.phase ▸ begun.2)
    have last : (a.run.complete a.stepDt).isLastStep = (b.run.complete b.stepDt).isLastStep := by
      unfold RunControl.isLastStep RunControl.complete
      dsimp only
      rw [h.lastStep, h.currentStep]
    have after : (if (a.run.complete a.stepDt).isLastStep then Phase.terminating else .active) ≠
        .uninitialized := by split <;> decide
    refine beside_done { h with
      phase := ?_
      first := ⟨h.first.buffers, .inr (.inr ⟨after, staged⟩)⟩
      second := ⟨h.second.buffers, .inr (.inr ⟨last ▸ after, staged'⟩)⟩
      kept := trivial }
    dsimp only
    rw [last]

/-! ## The end and the rest -/

theorem solitary_takeLeave : Solitary takeLeave := by
  refine solitary_get_bind fun c => ?_
  split
  · exact solitary_perform rfl
  · exact solitary_pure _

theorem Paired.release (h : Bound a b) :
    Bound { a with session := a.session.release, phase := .closed }
      { b with session := b.session.release, phase := .closed } := by
  unfold Session.release
  rw [h.released]
  split
  · exact { h with
      phase := rfl
      first := ⟨h.first.buffers, .inl rfl⟩
      second := ⟨h.second.buffers, .inl rfl⟩
      kept := trivial }
  · exact { h with
      phase := rfl
      registered := rfl
      released := rfl
      first := ⟨⟨rfl, rfl, rfl, rfl, rfl⟩, .inl rfl⟩
      second := ⟨⟨rfl, rfl, rfl, rfl, rfl⟩, .inl rfl⟩
      kept := trivial }

theorem beside_finish (h : Bound a b) :
    Beside Bound (fun _ _ => Bound) (finish a) (finish b) := by
  unfold finish
  rw [Act.get_bind_apply, Act.get_bind_apply, ← h.phase]
  split
  · exact beside_done h
  · refine beside_solitary solitary_takeLeave solitary_takeLeave fun _ _ => ?_
    unfold modifySession setPhase
    rw [Act.modify_bind_apply, Act.modify_bind_apply, Act.modify_bind_apply,
      Act.modify_bind_apply, noteIf_apply, noteIf_apply]
    exact beside_noting (beside_done h.release)

theorem beside_predictDisplacementOnto (h : Bound a b) :
    Beside Bound (fun v w c d => v = w ∧ Bound c d) (predictDisplacementOnto [] a)
      (predictDisplacementOnto [] b) := by
  unfold predictDisplacementOnto
  rw [Act.get_bind_apply, Act.get_bind_apply]
  refine beside_bind (beside_predictDisplacement h) fun v w c d after => ?_
  obtain ⟨rfl, h⟩ := after
  rw [Act.get_bind_apply, Act.get_bind_apply]
  dsimp only
  rw [List.isEmpty_nil, Bool.or_true, Bool.or_true, if_pos rfl, if_pos rfl]
  exact beside_done ⟨rfl, h⟩

end Controller

namespace Operation

/-- Calls that all ranks make in the same place.  Each rank has its own candidate for a step, and
there is no parent array. -/
inductive Common : Operation → Operation → Prop
  | begin : Common begin begin
  | beginStep (own own' : Float) : Common (beginStep own) (beginStep own')
  | runStep (own own' : Float) : Common (runStep own) (runStep own')
  | endStep : Common endStep endStep
  | finish : Common finish finish
  | sendForces : Common sendForces sendForces
  | receiveDisplacement : Common receiveDisplacement receiveDisplacement
  | predictDisplacement : Common (predictDisplacement []) (predictDisplacement [])
  | exchangeConvergence : Common exchangeConvergence exchangeConvergence
  | saveValues : Common saveValues saveValues

/-- Does the operation give the step that it uses? -/
def givesStep : Operation → Bool
  | beginStep _ | runStep _ => true
  | _ => false

open Controller

/-- Both ranks get the same answer, apart from the step that each uses without the peer. -/
theorem Common.beside {first second : Operation} (h : Common first second) {a b : Controller}
    (bound : Bound a b) :
    Beside Bound
      (fun v w c d => (first.givesStep = false ∨ a.session.isTerminated = false → v = w) ∧
        Bound c d)
      (first.perform a) (second.perform b) := by
  have step {v w : Float} {c d : Controller}
      (after : (a.session.isTerminated = false → v = w) ∧ Bound c d) :
      (true = false ∨ a.session.isTerminated = false → Answer.step v = Answer.step w) ∧
        Bound c d :=
    ⟨fun aware => congrArg Answer.step (after.1 (aware.resolve_left Bool.noConfusion)), after.2⟩
  cases h with
  | begin => exact beside_bind (beside_begin bound) fun _ _ _ _ h => beside_done ⟨fun _ => rfl, h⟩
  | beginStep own own' =>
    refine beside_bind (beside_beginStep bound own own') fun _ _ _ _ h => beside_done (step ?_)
    exact ⟨h.1, h.2.bound⟩
  | runStep own own' =>
    exact beside_bind (beside_runStep bound own own') fun _ _ _ _ h => beside_done (step h)
  | endStep =>
    exact beside_bind (beside_endStep bound) fun _ _ _ _ h => beside_done ⟨fun _ => rfl, h⟩
  | finish =>
    exact beside_bind (beside_finish bound) fun _ _ _ _ h => beside_done ⟨fun _ => rfl, h⟩
  | sendForces =>
    exact beside_bind (beside_sendForces bound) fun _ _ _ _ h => beside_done ⟨fun _ => rfl, h⟩
  | receiveDisplacement =>
    exact beside_bind (beside_receiveDisplacement bound) fun _ _ _ _ h =>
      beside_done ⟨fun _ => rfl, h⟩
  | predictDisplacement =>
    refine beside_bind (beside_predictDisplacementOnto bound) fun _ _ _ _ h => beside_done ?_
    exact ⟨fun _ => by rw [h.1], h.2⟩
  | exchangeConvergence =>
    refine beside_bind (beside_exchangeConvergence bound) fun _ _ _ _ h => beside_done ?_
    exact ⟨fun _ => by rw [h.1], h.2⟩
  | saveValues =>
    exact beside_bind (beside_saveValues bound) fun _ _ _ _ h => beside_done ⟨fun _ => rfl, h⟩

end Operation

/-! ## Whole runs -/

open Controller

/-- A call with its outcome, and the controller before and after it. -/
structure Visit where
  before : Controller
  operation : Operation
  outcome : Except Fault Answer
  after : Controller

/-- A caller that makes one call after the other, whatever becomes of them. -/
def visits : List Operation → Controller → Program Coupling (List Visit)
  | [], _ => .done []
  | operation :: later, c =>
    (operation.perform c).bind fun (outcome, d) =>
      (visits later d).bind fun rest => .done (⟨c, operation, outcome, d⟩ :: rest)

/-- Two ranks agree after a call.  Both have the same answer or the same fault; only the step of
a session that was terminated before can differ. -/
structure Visit.Agrees (v w : Visit) : Prop where
  state : Agree v.after w.after
  answer : v.operation.givesStep = false ∨ v.before.session.isTerminated = false →
    v.outcome = w.outcome
  fault : ∀ fault, v.outcome = .error fault ↔ w.outcome = .error fault

/-- Two ranks agree after each of their calls. -/
inductive Alike : List Visit → List Visit → Prop
  | nil : Alike [] []
  | cons {v w : Visit} {vs ws : List Visit} (first : v.Agrees w) (later : Alike vs ws) :
    Alike (v :: vs) (w :: ws)

/-- Calls that all ranks make in the same places. -/
inductive Operation.CommonAll : List Operation → List Operation → Prop
  | nil : CommonAll [] []
  | cons {first second : Operation} {later later' : List Operation} (h : Common first second)
    (on : CommonAll later later') : CommonAll (first :: later) (second :: later')

/-- The callers of two ranks are in lockstep. -/
theorem lockstep_visits {calls calls' : List Operation} (common : Operation.CommonAll calls calls')
    {a b : Controller} (bound : Bound a b) :
    ranks.Lockstep Alike (visits calls a) (visits calls' b) := by
  induction common generalizing a b with
  | nil => exact .done .nil
  | cons h _ ih =>
    refine Pact.Lockstep.bind (h.beside bound) fun x y settled => ?_
    cases settled with
    | ok after =>
      refine (ih after.2).bind fun vs ws alike => .done (.cons ⟨after.2.toAgree, ?_, ?_⟩ alike)
      · exact fun aware => congrArg Except.ok (after.1 aware)
      · intro fault
        constructor <;> (intro wrong; cases wrong)
    | fault after =>
      refine (ih after).bind fun vs ws alike => .done (.cons ⟨after.toAgree, ?_, ?_⟩ alike)
      · exact fun _ => rfl
      · exact fun fault => Iff.rfl

/-- Two ranks with their own interfaces start bound. -/
theorem bound_of_attach (place place' : Parallel.Place) (parameters : Parameters)
    (peer : Discovery.Peer) (surface surface' : Surface) (length : Float)
    (faces vertices faces' vertices' : Int64) (run : RunControl) :
    Bound
      { place := place
        session := (Session.new parameters peer).attach surface length faces vertices
        run := run }
      { place := place'
        session := (Session.new parameters peer).attach surface' length faces' vertices'
        run := run } := by
  refine ⟨⟨rfl, rfl, rfl, rfl, rfl, rfl, rfl, rfl, rfl, rfl, rfl, rfl⟩, ⟨?_, ?_⟩, ⟨?_, ?_⟩, trivial⟩
  · exact Session.sized_attach _ _ _ _ _
  · exact .inr (.inl ⟨rfl, List.length_replicate.symm⟩)
  · exact Session.sized_attach _ _ _ _ _
  · exact .inr (.inl ⟨rfl, List.length_replicate.symm⟩)

/-- Rank 0 and another rank, each with its own interface, fluid solver and candidates for the
step, make the same calls.  In whatever order they proceed, there is always a next step until
both have made all their calls, there is no infinite run, and at the end they agree after every
call. -/
theorem ranks_agree {place place' : Parallel.Place} {parameters : Parameters}
    {peer : Discovery.Peer} {surface surface' : Surface} {length : Float}
    {faces vertices faces' vertices' : Int64} {run : RunControl} {calls calls' : List Operation}
    (common : Operation.CommonAll calls calls') {p q : Program Coupling (List Visit)}
    (reached : ranks.Reaches
      (visits calls
        { place := place
          session := (Session.new parameters peer).attach surface length faces vertices
          run := run })
      (visits calls'
        { place := place'
          session := (Session.new parameters peer).attach surface' length faces' vertices'
          run := run })
      p q) :
    Acc (fun after before : Program Coupling (List Visit) × Program Coupling (List Visit) =>
        ranks.Step before.1 before.2 after.1 after.2) (p, q) ∧
      ((∃ p' q', ranks.Step p q p' q') ∨
        ∃ vs ws, p = .done vs ∧ q = .done ws ∧ Alike vs ws) := by
  have lockstep := (lockstep_visits common (bound_of_attach place place' parameters peer surface
    surface' length faces vertices faces' vertices' run)).reaches reached
  exact ⟨Pact.acc_step p q, lockstep.goes_on⟩

namespace UnevenRanks

/-- A rank with this interface, in a run of two steps with a peer. -/
def rank (place : Parallel.Place) (surface : Surface) : Controller where
  place := place
  session := (Session.new { maxSubIterations := 4 } { root := 2 }).attach surface 1.0 1 4
  run := { lastStep := 2, previousTime := 0.0, time := 0.0 }

def first : Program Coupling (List Visit) :=
  visits [.begin, .runStep 0.5, .endStep, .finish]
    (rank { rank := 0, size := 2 } { faceIds := [0], vertexIds := [0, 1, 2, 3], ownedVertices := 4 })

def second : Program Coupling (List Visit) :=
  visits [.begin, .runStep 0.25, .endStep, .finish]
    (rank { rank := 1, size := 2 } { faceIds := [], vertexIds := [], ownedVertices := 0 })

/-- A rank with one face and a rank without any. -/
theorem uneven_ranks_agree :
    Acc (fun after before : Program Coupling (List Visit) × Program Coupling (List Visit) =>
        ranks.Step before.1 before.2 after.1 after.2) (first, second) ∧
      ((∃ p' q', ranks.Step first second p' q') ∨
        ∃ vs ws, first = .done vs ∧ second = .done ws ∧ Alike vs ws) :=
  ranks_agree (.cons .begin (.cons (.runStep 0.5 0.25) (.cons .endStep (.cons .finish .nil)))) .here

end UnevenRanks

end FluidStructure.Coupling
