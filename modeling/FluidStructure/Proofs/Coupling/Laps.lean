import FluidStructure.Proofs.Coupling.Conformance
import FluidStructure.Proofs.Coupling.Outcomes

/-!
# Laps of a driver

A driver begins the run and then makes one lap after the other as long as the run is active: a
step is run and ended.  In an orderly run the beginning and every lap come to their end, and the
peer is lost in the first of them in which an exchange fails.
-/

namespace FluidStructure.Coupling

open FluidStructure.Channel FluidStructure.Journal

namespace Controller

variable {c d : Controller} {log : Log Coupling} {bad : Bool}

/-! ## All sub-iterations of a step -/

/-- Sub-iterations up to the last one, but at most so many. -/
inductive SubIterations : Nat → Controller → Log Coupling → Bool → Controller → Prop
  | spent (c : Controller) : SubIterations 0 c [] false c
  | last {n : Nat} {c d : Controller} {log : Log Coupling} {bad : Bool}
      (sub : SubIterated c log bad true d) : SubIterations (n + 1) c log bad d
  | again {n : Nat} {c d e : Controller} {log later : Log Coupling} {bad worse : Bool}
      (sub : SubIterated c log bad false d) (on : SubIterations n d later worse e) :
    SubIterations (n + 1) c (log ++ later) (bad || worse) e

theorem SubIterations.akin {n : Nat} (h : SubIterations n c log bad d) : c.Akin d := by
  induction h with
  | spent c => exact Akin.refl c
  | last sub => exact sub.akin
  | again sub _ ih => exact sub.akin.trans ih

theorem runs_subIterateAtMost {n : Nat} {result : Except Fault Unit}
    (turn : c.phase = .subIterating) (sound : c.Sound) (fair : c.Assessable) (run : (subIterateAtMost n).Runs c log result d)
    (orderly : ∀ e ∈ log, Orderly c.place.isRoot e) :
    result = .ok () ∧ SubIterations n c (carried log) (lossy log) d := by
  induction n generalizing c log with
  | zero =>
    obtain ⟨rfl, rfl, rfl⟩ := Act.runs_pure.1 run
    exact ⟨rfl, .spent d⟩
  | succ n ih =>
    unfold subIterateAtMost at run
    obtain ⟨first, last, e, rest, rfl, before, calm, after, later⟩ := runs_calm_bind run orderly
      fun _ _ _ h k => (runs_subIterate turn sound fair h k).imp fun _ => And.left
    obtain ⟨_, same, sub⟩ := runs_subIterate turn sound fair before calm
    obtain rfl := Except.ok.inj same
    cases last with
    | true =>
      obtain ⟨rfl, rfl, rfl⟩ := Act.runs_pure.1 after
      rw [List.append_nil]
      exact ⟨rfl, .last sub⟩
    | false =>
      have akin := sub.akin
      have place := akin.place
      rw [← place] at later
      obtain ⟨fine, on⟩ := ih (akin.phase.trans turn) (akin.sound sound) (akin.assessable.2 fair)
        after later
      rw [carried_append, lossy_append]
      exact ⟨fine, .again sub on⟩

/-! ## Negotiation -/

/-- The controller that has entered a step. -/
def entered (c : Controller) (iteration : Int32) (dt : Float) : Controller :=
  c.advanced.stepped ((⟨c.session, c.advanced.run⟩ : TimeStep.Schedule).agree iteration dt) dt

/-- How a step begins: without the peer, with an agreement, or with the loss of the peer. -/
inductive StepBegun (c : Controller) : Bool → Float → Controller → Prop
  | gone (gone : c.session.isTerminated = true) (own : Float) :
    StepBegun c false own (c.advanced.stepped ⟨c.session, c.advanced.run⟩ own)
  | agreed (live : c.session.isTerminated = false) (dt : Float) :
    StepBegun c false dt (c.entered (c.session.iteration + 1) dt)
  | lost (live : c.session.isTerminated = false) (dt : Float) :
    StepBegun c true dt (c.entered (-1) dt)

/-- A proposal is the next iteration, or the mark of an exchange that has failed on the root. -/
theorem runs_proposal_told {place : Parallel.Place} {s : Session} {own : Float}
    {proposed : Int32 × Float} (run : (TimeStep.proposal place s own).Runs log proposed) :
    carried log = [] ∧ (lossy log = false ∧ proposed.1 = s.iteration + 1 ∨
      lossy log = true ∧ proposed.1 = -1 ∧ place.isRoot = true) := by
  unfold TimeStep.proposal at run
  split at run
  · rename_i meets
    have onRoot : place.isRoot = true := (Bool.and_eq_true _ _ ▸ meets).2
    unfold TimeStep.exchanged at run
    obtain ⟨received, rest, rfl, on⟩ := Program.runs_ask.1 run
    dsimp only at on
    by_cases lost : Status.failed received.1 = true
    · rw [if_pos lost] at on
      obtain ⟨_, _, rfl, on'⟩ := Program.runs_ask.1 on
      obtain ⟨_, _, rfl, ends⟩ := Program.runs_ask.1 on'
      obtain ⟨rfl, rfl⟩ := Program.runs_done.1 ends
      refine ⟨rfl, .inr ⟨?_, rfl, onRoot⟩⟩
      have told : reveals ⟨.receiveReals s.peer.root (s.iteration + 1) Variable.peerTimeStep
          [s.parameters.referenceStep], received⟩ = !!Status.failed received.1 := rfl
      rw [lossy_cons, told, lost]
      rfl
    · have kept : Status.failed received.1 = false := Bool.eq_false_iff.2 lost
      rw [if_neg lost] at on
      obtain ⟨sent, rest', rfl, on'⟩ := Program.runs_ask.1 on
      dsimp only at on'
      have told : reveals ⟨.receiveReals s.peer.root (s.iteration + 1) Variable.peerTimeStep
          [s.parameters.referenceStep], received⟩ = !!Status.failed received.1 := rfl
      have sending (values : List Float) : reveals ⟨.sendReals s.peer.root (s.iteration + 1)
          Variable.negotiatedTimeStep values, sent⟩ = !!Status.failed sent := rfl
      rw [lossy_cons, lossy_cons, told, sending, kept]
      by_cases lost : Status.failed sent = true
      · rw [if_pos lost] at on'
        obtain ⟨_, _, rfl, noted⟩ := Program.runs_ask.1 on'
        obtain ⟨_, _, rfl, ends⟩ := Program.runs_ask.1 noted
        obtain ⟨rfl, rfl⟩ := Program.runs_done.1 ends
        rw [lost]
        exact ⟨rfl, .inr ⟨rfl, rfl, onRoot⟩⟩
      · rw [if_neg lost, noting_bind] at on'
        obtain ⟨tail, ends, values, losses, -⟩ := runs_noting_mute on'
        obtain ⟨rfl, rfl⟩ := Program.runs_done.1 ends
        rw [Bool.eq_false_iff.2 lost, carried_cons, carried_cons, values, losses]
        exact ⟨rfl, .inl ⟨rfl, rfl⟩⟩
  · obtain ⟨rfl, rfl⟩ := Program.runs_done.1 run
    exact ⟨rfl, .inl ⟨rfl, rfl⟩⟩

/-- The group agrees on the proposal of the root. -/
theorem runs_entering {proposed : Int32 × Float} {result : Except Fault Float}
    (run : (c.entering proposed).Runs log (result, d))
    (orderly : ∀ e ∈ log, Orderly c.place.isRoot e)
    (told : 0 < proposed.1 ∨ proposed.1 = -1 ∧ c.place.isRoot = true) :
    ∃ dt, result = .ok dt ∧ carried log = [] ∧
      (lossy log = false ∧ 0 < proposed.1 ∧ d = c.entered proposed.1 dt ∨
        lossy log = true ∧ (proposed.1 = -1 ∨ c.place.isRoot = false) ∧ d = c.entered (-1) dt) := by
  unfold entering at run
  obtain ⟨reply, rest, rfl, on⟩ := Program.runs_ask.1 run
  have first := orderly _ List.mem_cons_self
  cases reply with
  | error fault => cases first.sound
  | ok dts =>
    rw [opening_ok] at on
    obtain ⟨reply, rest', rfl, on'⟩ := Program.runs_ask.1 on
    have second := orderly _ (List.mem_cons_of_mem _ List.mem_cons_self)
    cases reply with
    | error fault => cases second.sound
    | ok iterations =>
      rw [opening_ok] at on'
      obtain ⟨tail, ends, values, losses, -⟩ := runs_noting_mute on'
      obtain ⟨rfl, h⟩ := Program.runs_done.1 ends
      obtain ⟨rfl, rfl⟩ := Prod.mk.inj h
      have quiet : reveals ⟨.broadcastReals [proposed.2], .ok dts⟩ = false := rfl
      rw [carried_cons, carried_cons, values, lossy_cons, lossy_cons, losses, quiet,
        reveals_single second, lossy_nil, Bool.or_false, Bool.false_or]
      refine ⟨dts.headD proposed.2, rfl, rfl, ?_⟩
      obtain ⟨-, same, either⟩ := second.shared _ _ rfl
      rcases told with positive | ⟨mark, onRoot⟩
      · rcases either _ rfl positive with rfl | rfl
        · refine .inl ⟨?_, positive, rfl⟩
          exact decide_eq_false (Int32.not_lt.2 (Int32.le_of_lt positive))
        · refine .inr ⟨rfl, .inr ?_, rfl⟩
          refine Bool.eq_false_iff.2 fun onRoot => ?_
          have wrong := List.singleton_inj.1 (same onRoot)
          rw [← wrong] at positive
          exact absurd positive (by decide)
      · obtain rfl := same onRoot
        rw [mark]
        exact .inr ⟨rfl, .inl rfl, rfl⟩

/-- A step that begins ends its beginning. -/
theorem runs_beginStep {own : Float} {result : Except Fault Float} (turn : c.phase = .active)
    (room : c.session.isTerminated = false → 0 < c.session.iteration + 1)
    (run : (beginStep own).Runs c log result d) (orderly : ∀ e ∈ log, Orderly c.place.isRoot e) :
    ∃ dt, result = .ok dt ∧ carried log = [] ∧ StepBegun c (lossy log) dt d := by
  cases live : c.session.isTerminated with
  | true =>
    unfold Act.Runs at run
    rw [beginStep_apply own c turn, TimeStep.negotiate_apply, if_pos live] at run
    obtain ⟨rfl, h⟩ := Program.runs_done.1 run
    obtain ⟨rfl, rfl⟩ := Prod.mk.inj h
    exact ⟨own, rfl, rfl, .gone live own⟩
  | false =>
    unfold Act.Runs at run
    rw [beginStep_live_apply own c turn live] at run
    obtain ⟨proposing, proposed, agreeing, rfl, told, entered⟩ := Program.runs_bind.1 run
    obtain ⟨none, news⟩ := runs_proposal_told told
    have sign : 0 < proposed.1 ∨ proposed.1 = -1 ∧ c.place.isRoot = true := by
      rcases news with ⟨-, next⟩ | ⟨-, mark⟩
      · exact .inl (next ▸ room live)
      · exact .inr mark
    obtain ⟨dt, value, nothing, after⟩ := runs_entering entered
      (fun e member => orderly e (List.mem_append_right _ member)) sign
    rw [carried_append, none, nothing, lossy_append]
    refine ⟨dt, value, rfl, ?_⟩
    rcases news with ⟨kept, next⟩ | ⟨failed, mark, -⟩
    · rw [kept, Bool.false_or]
      rcases after with ⟨calm, -, rfl⟩ | ⟨bad, -, rfl⟩
      · rw [calm, next]
        exact .agreed live dt
      · rw [bad]
        exact .lost live dt
    · rw [failed, Bool.true_or]
      rcases after with ⟨-, positive, -⟩ | ⟨-, -, rfl⟩
      · rw [mark] at positive
        exact absurd positive (by decide)
      · exact .lost live dt

theorem StepBegun.phase {dt : Float} (h : StepBegun c bad dt d) : d.phase = .subIterating := by
  cases h <;> rfl

theorem StepBegun.stepDt {dt : Float} (h : StepBegun c bad dt d) : d.stepDt = dt := by
  cases h <;> rfl

theorem kin_withPhase (c : Controller) (phase : Phase) : c.Kin { c with phase } :=
  ⟨rfl, rfl, rfl, rfl, fun sound => ⟨⟨{ sound.buffers with }, sound.staging⟩, sound.velocity⟩⟩

theorem sized_agree {s : Session} (r : RunControl) (iteration : Int32) (dt : Float) (h : s.Sized) :
    ((⟨s, r⟩ : TimeStep.Schedule).agree iteration dt).session.Sized := { h with }

/-- Entering a step with the buffers that are there keeps their sizes. -/
theorem kin_stepped (c : Controller) (t : TimeStep.Schedule) (dt : Float)
    (parameters : t.session.parameters = c.session.parameters)
    (peer : t.session.peer = c.session.peer)
    (length : t.session.referenceLength = c.session.referenceLength)
    (sized : c.session.Sized → t.session.Sized)
    (displacement : t.session.displacement = c.session.displacement)
    (velocity : t.session.velocity = c.session.velocity) : c.Kin (c.advanced.stepped t dt) := by
  refine ⟨rfl, parameters, peer, length, fun sound => ⟨⟨{ sized sound.buffers with }, ?_⟩, ?_⟩⟩
  · exact sound.staging.trans (congrArg List.length displacement.symm)
  · exact sound.velocity.trans (congrArg List.length velocity.symm)

theorem StepBegun.kin {dt : Float} (h : StepBegun c bad dt d) : c.Kin d := by
  cases h with
  | gone => exact kin_stepped c ⟨c.session, c.advanced.run⟩ dt rfl rfl rfl id rfl rfl
  | agreed => exact kin_stepped c _ dt rfl rfl rfl (sized_agree _ _ _) rfl rfl
  | lost => exact kin_stepped c _ dt rfl rfl rfl (sized_agree _ _ _) rfl rfl

/-! ## Laps -/

/-- One lap of a driver: a step is run and ended. -/
def lap (own : Float) : Act Coupling Controller Float := do
  let dt ← runStep own
  endStep
  return dt

/-- The controller after the end of its step. -/
def completed (c : Controller) : Controller :=
  { c with
    run := c.run.complete c.stepDt
    phase := if (c.run.complete c.stepDt).isLastStep then .terminating else .active }

/-- A lap: its beginning, the sub-iterations, and the end of the step. -/
inductive Lapped (c : Controller) : Log Coupling → Bool → Float → Controller → Prop
  | stages {log : Log Coupling} {bad worse : Bool} {dt : Float} {d e : Controller}
      (begun : StepBegun c bad dt d)
      (subs : SubIterations (cap d.session).toNatClampNeg d log worse e) :
    Lapped c log (bad || worse) dt e.completed

theorem runs_leaveStep {result : Except Fault Float} (run : leaveStep.Runs c log result d) :
    Mute log ∧ result = .ok c.stepDt ∧ d = { c with phase := .stepDone } := by
  unfold leaveStep setPhase Act.Runs at run
  rw [Act.modify_bind_apply, Act.get_bind_apply, noteIf_bind_apply] at run
  obtain ⟨rest, rfl, last⟩ := runs_noting.1 run
  obtain ⟨rfl, rfl, rfl⟩ := Act.runs_pure.1 last
  rw [List.append_nil]
  exact ⟨mute_notes _ _, rfl, rfl⟩

theorem runs_runStep {own : Float} {result : Except Fault Float} (turn : c.phase = .active)
    (room : c.session.isTerminated = false → 0 < c.session.iteration + 1) (sound : c.Sound)
    (fair : c.Assessable) (run : (runStep own).Runs c log result d)
    (orderly : ∀ e ∈ log, Orderly c.place.isRoot e) :
    ∃ dt e f bad worse, result = .ok dt ∧ StepBegun c bad dt e ∧
      SubIterations (cap e.session).toNatClampNeg e (carried log) worse f ∧
      lossy log = (bad || worse) ∧ d = { f with phase := .stepDone } := by
  unfold runStep at run
  obtain ⟨first, dt, e, _, rfl, beginning, calm, onward, later⟩ := runs_calm_bind run orderly
    fun _ _ _ h k => (runs_beginStep turn room h k).imp fun _ => And.left
  obtain ⟨_, same, none, begun⟩ := runs_beginStep turn room beginning calm
  obtain rfl := Except.ok.inj same
  have place := begun.kin.place
  have sound' := begun.kin.sound sound
  have fair' := begun.kin.assessable.2 fair
  rw [← place] at later
  unfold Act.Runs at onward
  rw [Act.get_bind_apply] at onward
  obtain ⟨subs, _, f, last, rfl, iterating, calm', ending, -⟩ := runs_calm_bind onward later
    fun _ _ _ h k => ⟨(), (runs_subIterateAtMost begun.phase sound' fair' h k).1⟩
  obtain ⟨-, iterated⟩ := runs_subIterateAtMost begun.phase sound' fair' iterating calm'
  obtain ⟨mute, rfl, rfl⟩ := runs_leaveStep ending
  refine ⟨dt, e, f, lossy first, lossy subs, ?_, begun, ?_, ?_, rfl⟩
  · exact congrArg Except.ok (iterated.akin.stepDt.trans begun.stepDt)
  · rw [carried_append, carried_append, none, mute.carried, List.nil_append, List.append_nil]
    exact iterated
  · rw [lossy_append, lossy_append, mute.lossy, Bool.or_false]

theorem runs_endStep_of_done {result : Except Fault Unit} (turn : c.phase = .stepDone)
    (run : endStep.Runs c log result d) : log = [] ∧ result = .ok () ∧ d = c.completed := by
  unfold endStep Act.Runs at run
  rw [Act.get_bind_apply, turn, if_neg (by decide)] at run
  exact (Act.runs_set (s := c)).1 run

theorem runs_lap {own : Float} {result : Except Fault Float} (turn : c.phase = .active)
    (room : c.session.isTerminated = false → 0 < c.session.iteration + 1) (sound : c.Sound)
    (fair : c.Assessable) (run : (lap own).Runs c log result d)
    (orderly : ∀ e ∈ log, Orderly c.place.isRoot e) :
    ∃ dt, result = .ok dt ∧ Lapped c (carried log) (lossy log) dt d := by
  unfold lap at run
  obtain ⟨first, dt, e, _, rfl, stepping, calm, ending, -⟩ := runs_calm_bind run orderly
    fun _ _ _ h k =>
      (runs_runStep turn room sound fair h k).imp fun _ ⟨_, _, _, _, value, _⟩ => value
  obtain ⟨_, _, f, _, _, same, begun, subs, losses, rfl⟩ :=
    runs_runStep turn room sound fair stepping calm
  obtain rfl := Except.ok.inj same
  rcases Act.runs_bind.1 ending with ⟨_, _, _, _, rfl, ended, gives⟩ | ⟨_, -, ended⟩
  · obtain ⟨rfl, -, rfl⟩ := runs_endStep_of_done rfl ended
    obtain ⟨rfl, rfl, rfl⟩ := Act.runs_pure.1 gives
    rw [List.append_nil, List.append_nil, losses]
    have whole : Lapped c (carried first) _ dt f.completed := .stages begun subs
    exact ⟨dt, rfl, whole⟩
  · cases (runs_endStep_of_done rfl ended).2.1

theorem kin_completed (c : Controller) : c.Kin c.completed :=
  ⟨rfl, rfl, rfl, rfl, fun sound => ⟨⟨{ sound.buffers with }, sound.staging⟩, sound.velocity⟩⟩

theorem Lapped.kin {dt : Float} (h : Lapped c log bad dt d) : c.Kin d := by
  cases h with
  | stages begun subs => exact begun.kin.trans (subs.akin.toKin.trans (kin_completed _))

/-! ## The beginning -/

/-- Messages that tell by their status whether they have come. -/
def Tells (act : Act Coupling Controller Status) : Prop :=
  ∀ c log result d, act.Runs c log result d →
    ∃ status, result = .ok status ∧ carried log = [] ∧ lossy log = Status.failed status ∧ d = c

theorem tells_sendInt (peer iteration : Int32) (name : String) (value : Int32) :
    Tells (sendInt peer iteration name value) := by
  intro c log result d run
  obtain ⟨status, rfl, rfl, rfl⟩ := Act.runs_perform.1 run
  refine ⟨status, rfl, rfl, ?_, rfl⟩
  show (!!Status.failed status || false) = Status.failed status
  rw [Bool.not_not, Bool.or_false]

theorem tells_sendReal (peer iteration : Int32) (name : String) (value : Float) :
    Tells (sendReal peer iteration name value) := by
  intro c log result d run
  obtain ⟨status, rfl, rfl, rfl⟩ := Act.runs_perform.1 run
  refine ⟨status, rfl, rfl, ?_, rfl⟩
  show (!!Status.failed status || false) = Status.failed status
  rw [Bool.not_not, Bool.or_false]

/-- The status of messages in turn is that of the last one sent, and no one before it fails. -/
theorem tells_sendInTurn {first : Act Coupling Controller Status}
    {later : List (Act Coupling Controller Status)} (h : ∀ act ∈ first :: later, Tells act) :
    Tells (sendInTurn first later) := by
  obtain ⟨one, others⟩ := List.forall_mem_cons.1 h
  induction later generalizing first with
  | nil => exact one
  | cons second later ih =>
    intro c log result d run
    obtain ⟨two, -⟩ := List.forall_mem_cons.1 others
    unfold sendInTurn at run
    rcases Act.runs_bind.1 run with ⟨before, status, e, after, rfl, told, onward⟩ | ⟨_, -, told⟩
    · obtain ⟨_, same, none, news, rfl⟩ := one _ _ _ _ told
      obtain rfl := Except.ok.inj same
      rw [carried_append, lossy_append, none, news]
      cases failed : Status.failed status with
      | true =>
        rw [if_pos failed] at onward
        obtain ⟨rfl, rfl, rfl⟩ := Act.runs_pure.1 onward
        exact ⟨status, rfl, rfl, failed.symm, rfl⟩
      | false =>
        rw [if_neg (Bool.eq_false_iff.1 failed)] at onward
        exact ih others two (List.forall_mem_cons.1 others).2 _ _ _ _ onward
    · obtain ⟨_, wrong, -⟩ := one _ _ _ _ told
      cases wrong

theorem tells_sendParameters (s : Session) : Tells (sendParameters s) := by
  intro c log result d run
  unfold sendParameters Act.Runs at run
  dsimp only at run
  rw [noteIf_bind_apply] at run
  obtain ⟨rest, sending, same, bad, -⟩ := runs_noting_mute run
  rw [same, bad]
  refine tells_sendInTurn ?_ _ _ _ _ sending
  intro act member
  simp only [List.mem_cons, List.not_mem_nil, or_false] at member
  rcases member with rfl | rfl | rfl | rfl | rfl
  · exact tells_sendInt _ _ _ _
  · exact tells_sendInt _ _ _ _
  · exact tells_sendReal _ _ _ _
  · exact tells_sendReal _ _ _ _
  · exact tells_sendReal _ _ _ _

theorem tells_onRoot {act : Act Coupling Controller Status} (h : Tells act) :
    Tells (onRoot act) := by
  intro c log result d run
  unfold onRoot Act.Runs at run
  rw [Act.get_bind_apply] at run
  split at run
  · exact h _ _ _ _ run
  · obtain ⟨rfl, rfl, rfl⟩ := Act.runs_pure.1 run
    exact ⟨Status.ok, rfl, rfl, rfl, rfl⟩

/-- The other ranks send nothing. -/
theorem runs_onRoot_elsewhere {act : Act Coupling Controller Status} {result : Except Fault Status}
    (elsewhere : c.place.isRoot = false) (run : (onRoot act).Runs c log result d) : log = [] := by
  unfold onRoot Act.Runs at run
  rw [Act.get_bind_apply, elsewhere] at run
  exact (Act.runs_pure.1 run).1

/-- The controller with zeroed staging buffers. -/
def staged (c : Controller) : Controller :=
  { c with
    displacementStaging := Session.zeroVectors c.session.vertexCount
    velocityStaging := Session.zeroVectors c.session.vertexCount }

theorem runs_announce {result : Except Fault Unit} (run : announce.Runs c log result d)
    (orderly : ∀ e ∈ log, Orderly c.place.isRoot e) :
    result = .ok () ∧ carried log = [] ∧ d = if lossy log then c.lost else c := by
  unfold announce Act.Runs at run
  rw [Act.get_bind_apply] at run
  split at run
  · unfold noteIf at run
    split at run
    · obtain ⟨_, rfl, rfl, rfl⟩ := Act.runs_perform.1 run
      exact ⟨rfl, rfl, rfl⟩
    · obtain ⟨rfl, rfl, rfl⟩ := Act.runs_pure.1 run
      exact ⟨rfl, rfl, rfl⟩
  · rcases Act.runs_bind.1 run with ⟨sending, own, e, _, rfl, told, sharing⟩ | ⟨_, -, told⟩
    · obtain ⟨_, same, none, news, rfl⟩ := tells_onRoot (tells_sendParameters _) _ _ _ _ told
      obtain rfl := Except.ok.inj same
      unfold Act.Runs at sharing
      rw [shareInt_bind_apply] at sharing
      obtain ⟨reply, rest, rfl, shared⟩ := Program.runs_ask.1 sharing
      have here := orderly _ (List.mem_append_right _ List.mem_cons_self)
      cases reply with
      | error fault => cases here.sound
      | ok values =>
        obtain ⟨mute, rfl, rfl⟩ := runs_heed_mute shared
        have heard : lossy (sending ++ ⟨.broadcastInts [own], .ok values⟩ :: rest) =
            Status.failed (values.headD own) := by
          rw [lossy_append, lossy_cons, mute.lossy, Bool.or_false, reveals_single here]
          cases onRoot : e.place.isRoot with
          | true =>
            rw [news, (here.shared _ _ rfl).2.1 onRoot, List.headD_cons, Bool.or_self]
          | false =>
            rw [runs_onRoot_elsewhere onRoot told, lossy_nil, Bool.false_or]
        rw [heard, carried_append, none, carried_cons, mute.carried]
        exact ⟨rfl, rfl, rfl⟩
    · obtain ⟨_, wrong, -⟩ := tells_onRoot (tells_sendParameters _) _ _ _ _ told
      cases wrong

/-- The controller whose run has begun, with or without the loss of the peer. -/
def opened (c : Controller) (bad : Bool) : Controller :=
  { (if bad then c.staged.lost else c.staged) with phase := .active }

/-- Without a positive length no lap of implicit coupling comes to its end.  Up to there it
exchanges what another one would. -/
theorem runs_lap_unfair {own : Float} {result : Except Fault Float} (turn : c.phase = .active)
    (room : c.session.isTerminated = false → 0 < c.session.iteration + 1) (sound : c.Sound)
    (unfair : ¬ c.Assessable) (run : (lap own).Runs c log result d)
    (orderly : ∀ e ∈ log, Orderly c.place.isRoot e) :
    (∃ fault, result = .error fault) ∧ ∃ e, Lapped c (carried log) (lossy log) d.stepDt e := by
  unfold lap runStep at run
  rw [bind_assoc] at run
  obtain ⟨first, dt, e, _, rfl, beginning, calm, onward, later⟩ := runs_calm_bind run orderly
    fun _ _ _ h k => (runs_beginStep turn room h k).imp fun _ => And.left
  obtain ⟨_, same, none, begun⟩ := runs_beginStep turn room beginning calm
  obtain rfl := Except.ok.inj same
  obtain ⟨n, most⟩ := Nat.exists_eq_succ_of_ne_zero (Nat.ne_of_gt (cap_pos e.session))
  unfold Act.Runs at onward
  rw [bind_assoc, Act.get_bind_apply, most, bind_assoc] at onward
  unfold subIterateAtMost at onward
  rw [bind_assoc] at onward
  -- the first sub-iteration is as far as the step gets
  have never (log outcome f) (run : subIterate.Runs e log outcome f)
      (calm : ∀ x ∈ log, Orderly c.place.isRoot x) :=
    runs_subIterate_unfair begun.phase (begun.kin.sound sound)
      (fun fair => unfair (begun.kin.assessable.1 fair)) run calm
  rcases Act.runs_bind.1 onward with ⟨subs, _, _, _, rfl, iterating, -⟩ | ⟨fault, rfl, iterating⟩
  · obtain ⟨⟨_, wrong⟩, -⟩ := never _ _ _ iterating fun x member =>
      later x (List.mem_append_left _ member)
    cases wrong
  · obtain ⟨-, akin, f, sub⟩ := never _ _ _ iterating later
    have subs : SubIterations n.succ e _ _ f := .last sub
    rw [← most] at subs
    rw [carried_append, lossy_append, none, List.nil_append, akin.stepDt.trans begun.stepDt]
    exact ⟨⟨fault, rfl⟩, _, .stages begun subs⟩

theorem Lapped.stepDt {dt : Float} (h : Lapped c log bad dt d) : d.stepDt = dt := by
  cases h with
  | stages begun subs => exact subs.akin.stepDt.trans begun.stepDt

/-- An orderly lap exchanges what a lap that comes to its end does, and with a result it is one. -/
theorem lapped_of_runs {own : Float} {result : Except Fault Float} (turn : c.phase = .active)
    (room : c.session.isTerminated = false → 0 < c.session.iteration + 1) (sound : c.Sound)
    (run : (lap own).Runs c log result d) (orderly : ∀ e ∈ log, Orderly c.place.isRoot e) :
    ∃ e, Lapped c (carried log) (lossy log) d.stepDt e ∧
      ∀ dt, result = .ok dt → dt = d.stepDt ∧ e = d := by
  by_cases fair : c.Assessable
  · obtain ⟨dt, rfl, lapped⟩ := runs_lap turn room sound fair run orderly
    obtain rfl := lapped.stepDt
    exact ⟨d, lapped, fun _ same => ⟨(Except.ok.inj same).symm, rfl⟩⟩
  · obtain ⟨⟨fault, rfl⟩, e, lapped⟩ := runs_lap_unfair turn room sound fair run orderly
    exact ⟨e, lapped, fun _ wrong => by cases wrong⟩

theorem kin_opened (c : Controller) (bad : Bool) : c.staged.Kin (c.opened bad) := by
  unfold opened
  cases bad with
  | false => exact kin_withPhase _ _
  | true => exact (akin_lost c.staged).toKin.trans (kin_withPhase _ _)

/-- The beginning ends, with the loss of the peer if an exchange has failed. -/
theorem runs_begin {result : Except Fault Unit} (turn : c.phase = .uninitialized)
    (registered : c.session.isRegistered = true) (run : begin.Runs c log result d)
    (orderly : ∀ e ∈ log, Orderly c.place.isRoot e) :
    result = .ok () ∧ carried log = [] ∧ d = c.opened (lossy log) := by
  unfold begin Act.Runs at run
  rw [requirePhase_bind_apply, if_pos turn, Act.get_bind_apply, registered,
    if_neg (by decide)] at run
  unfold sizeStaging at run
  rw [Act.modify_bind_apply] at run
  obtain ⟨announcing, _, e, _, rfl, announced, calm, opening, -⟩ := runs_calm_bind
    (c := c.staged) run orderly fun _ _ _ h k => ⟨(), (runs_announce h k).1⟩
  obtain ⟨-, none, rfl⟩ := runs_announce announced calm
  obtain ⟨rfl, rfl, rfl⟩ := Act.runs_modify.1 opening
  rw [List.append_nil]
  exact ⟨rfl, none, rfl⟩

/-! ## Drivers -/

/-- A controller whose run can begin. -/
structure Registered (c : Controller) : Prop where
  phase : c.phase = .uninitialized
  registered : c.session.isRegistered = true
  iteration : c.session.iteration = 0
  current : c.run.currentStep = 0
  sound : c.staged.Sound

theorem Registered.live (h : c.Registered) : c.session.isTerminated = false := by
  unfold Session.isTerminated
  rw [h.iteration]
  rfl

theorem registered_of_register {place : Parallel.Place} {peer : Discovery.Peer}
    {parameters : Parameters} {surface : Surface} {length : Float} {steps : Int32} {time : Float}
    {session : Session} {run : RunControl} {registering : Log Coupling}
    (registered : (Session.register place surface length).Runs (Session.new parameters peer)
      registering (.ok ()) session)
    (started : RunControl.start steps time = .ok run) :
    ({ place, session, run } : Controller).Registered ∧ run.lastStep = steps ∧
      session.referenceLength = length := by
  obtain ⟨faces, vertices, rfl⟩ := runs_register registered
  obtain ⟨-, rfl⟩ := RunControl.start_eq_ok_iff.1 started
  exact ⟨⟨rfl, rfl, rfl, rfl, ⟨⟨Session.sized_attach _ _ _ _ _, rfl⟩, rfl⟩⟩, rfl, rfl⟩

end Controller

/-- A lap that a driver has made: its exchanges, and the step that was used. -/
structure Lap where
  log : Log Coupling
  dt : Float

/-- A driver begins the run, and makes laps as long as the run is active: the log of the beginning,
the laps so far, and the controller after them. -/
inductive Driven (c : Controller) : Log Coupling → List Lap → Controller → Prop
  | begun {log : Log Coupling} {d : Controller} (run : Controller.begin.Runs c log (.ok ()) d) :
    Driven c log [] d
  | lap {first log : Log Coupling} {laps : List Lap} {d e : Controller} {own dt : Float}
      (before : Driven c first laps d) (turn : d.phase = .active)
      (run : (Controller.lap own).Runs d log (.ok dt) e) : Driven c first (laps ++ [⟨log, dt⟩]) e

/-- The logs of a run, of the beginning and of each step. -/
def logs (first : Log Coupling) (laps : List Lap) : List (Log Coupling) :=
  first :: laps.map Lap.log

theorem logs_append (first : Log Coupling) (laps : List Lap) (lap : Lap) :
    logs first (laps ++ [lap]) = logs first laps ++ [lap.log] := by
  unfold logs
  rw [List.map_append]
  rfl

theorem length_logs (first : Log Coupling) (laps : List Lap) :
    (logs first laps).length = laps.length + 1 := by
  unfold logs
  rw [List.length_cons, List.length_map]

theorem any_logs_append (first : Log Coupling) (laps : List Lap) (lap : Lap) :
    (logs first (laps ++ [lap])).any lossy = ((logs first laps).any lossy || lossy lap.log) := by
  rw [logs_append, List.any_append, List.any_cons, List.any_nil, Bool.or_false]

/-- The exchanges of all logs are orderly. -/
def AllOrderly (place : Parallel.Place) (logs : List (Log Coupling)) : Prop :=
  ∀ log ∈ logs, ∀ e ∈ log, Orderly place.isRoot e

end FluidStructure.Coupling
