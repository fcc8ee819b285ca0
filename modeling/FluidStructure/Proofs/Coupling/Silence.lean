import FluidStructure.Proofs.Coupling.Loss

/-!
# Silence after the loss of the peer

Once the peer is gone, no operation makes a transport call, and the movement of the interface stays.
Each further step still computes the forces once.
-/

namespace FluidStructure.Coupling

open FluidStructure.Channel

namespace Controller

/-! ## Stages -/

/-- What a stage does about a loss. -/
structure Tame {α : Type} (act : Act Coupling Controller α) : Prop where
  stays : act.Keeps Stays
  falls : act.Keeps Falls
  quiet : act.Keeps Quiet

/-- Most stages ask only locally without the peer. -/
structure Plain {α : Type} (act : Act Coupling Controller α) : Prop where
  stays : act.Keeps Stays
  falls : act.Keeps Falls
  hushed : act.Keeps Hushed

theorem Plain.of_steady {α : Type} {act : Act Coupling Controller α} (h : act.Keeps Steady)
    (hushed : act.Keeps Hushed) : Plain act :=
  ⟨stays_of_steady h, falls_of_steady h, hushed⟩

theorem Plain.tame {α : Type} {act : Act Coupling Controller α} (h : Plain act) : Tame act :=
  ⟨h.stays, h.falls, quiet_of_hushed h.hushed⟩

theorem plain_heed (status : Status) (during : String) : Plain (heed status during) :=
  ⟨stays_heed _ _, falls_heed _ _, hushed_heed _ _⟩

theorem plain_acceptMotion (collected : Option Status) : Plain (acceptMotion collected) :=
  ⟨stays_acceptMotion _, falls_acceptMotion _, hushed_acceptMotion _⟩

theorem tame_settleStep (own : Float) (proposed : Int32 × Float) :
    Tame (settleStep own proposed) :=
  ⟨stays_settleStep _ _, falls_settleStep _ _, quiet_of_hushed (hushed_settleStep _ _)⟩

theorem tame_computeForces : Tame computeForces :=
  ⟨stays_of_steady steady_computeForces, falls_of_steady steady_computeForces,
    quiet_computeForces⟩

/-! ## Courses -/

theorem plain_sendForcesCourse : sendForcesCourse.All Plain :=
  (Course.all_of (.of_steady steady_offerForces hushed_offerForces)).bind fun _ =>
    Course.all_of (plain_heed _ _)

theorem plain_receiveDisplacementCourse : receiveDisplacementCourse.All Plain :=
  (Course.all_of (.of_steady steady_collectMotion hushed_collectMotion)).bind fun _ =>
    Course.all_of (plain_acceptMotion _)

theorem plain_exchangeConvergenceCourse : exchangeConvergenceCourse.All Plain :=
  (Course.all_of (.of_steady steady_shareDecision hushed_shareDecision)).bind fun _ =>
    (Course.all_of (plain_heed _ _)).bind fun _ => trivial

theorem plain_exchangeCourse : exchangeCourse.All Plain :=
  plain_sendForcesCourse.bind fun _ => plain_receiveDisplacementCourse.bind fun _ =>
    (Course.all_of (.of_steady steady_predictDisplacement hushed_predictDisplacement)).bind
      fun _ =>
    (Course.all_of (.of_steady steady_imposeDisplacement (hushed_unlessTerminated _))).bind
      fun _ =>
    plain_exchangeConvergenceCourse.bind fun _ =>
    Course.all_of (.of_steady (steady_conclude _) (hushed_conclude _))

theorem plain_leaveStep : Plain leaveStep := .of_steady steady_leaveStep hushed_leaveStep

theorem tame_beginStepCourse (own : Float) : (beginStepCourse own).All Tame :=
  (Course.all_of (Plain.of_steady (steady_proposeStep _) (hushed_proposeStep _)).tame).bind
    fun _ => (Course.all_of (tame_settleStep _ _)).bind fun _ =>
    Course.all_of (Plain.of_steady (steady_enterStep _) (hushed_enterStep _)).tame

theorem tame_subIterateAtMostCourse (n : Nat) : (subIterateAtMostCourse n).All Tame := by
  induction n with
  | zero => trivial
  | succ n ih =>
    refine Course.All.bind ((Course.all_of tame_computeForces).bind fun _ =>
      plain_exchangeCourse.imp fun _ => Plain.tame) fun last => ?_
    cases last with
    | true => trivial
    | false => exact ih

theorem tame_runStepCourse (own : Float) : (runStepCourse own).All Tame :=
  (tame_beginStepCourse own).bind fun _ =>
    (Course.all_of (Plain.of_steady steady.get hushed.get).tame).bind fun _ =>
    (tame_subIterateAtMostCourse _).bind fun _ => Course.all_of plain_leaveStep.tame

/-- The operations whose stages are all plain. -/
theorem plain_course {operation : Operation} (h : ∀ own, operation ≠ .runStep own)
    (k : ∀ own, operation ≠ .beginStep own) (l : operation ≠ .begin) :
    operation.course.All Plain := by
  cases operation with
  | begin => exact absurd rfl l
  | beginStep own => exact absurd rfl (k own)
  | runStep own => exact absurd rfl (h own)
  | endStep =>
    exact (Course.all_of (.of_steady steady_endStep hushed_endStep)).bind fun _ => trivial
  | finish => exact (Course.all_of (.of_steady steady_finish hushed_finish)).bind fun _ => trivial
  | sendForces => exact plain_sendForcesCourse.bind fun _ => trivial
  | receiveDisplacement => exact plain_receiveDisplacementCourse.bind fun _ => trivial
  | predictDisplacement parent =>
    exact (Course.all_of (.of_steady (steady_predictDisplacementOnto _)
      (hushed_predictDisplacementOnto _))).bind fun _ => trivial
  | exchangeConvergence => exact plain_exchangeConvergenceCourse.bind fun _ => trivial
  | saveValues =>
    exact (Course.all_of (.of_steady steady_saveValues hushed_saveValues)).bind fun _ => trivial

/-! ## Operations -/

theorem tame_course {operation : Operation} (h : operation ≠ .begin) :
    operation.course.All Tame := by
  by_cases running : ∃ own, operation = .runStep own
  · obtain ⟨own, rfl⟩ := running
    exact (tame_runStepCourse own).bind fun _ => trivial
  · by_cases beginning : ∃ own, operation = .beginStep own
    · obtain ⟨own, rfl⟩ := beginning
      exact (tame_beginStepCourse own).bind fun _ => trivial
    · exact (plain_course (fun own equal => running ⟨own, equal⟩)
        (fun own equal => beginning ⟨own, equal⟩) h).imp fun _ => Plain.tame

/-- The stages of the beginning, after its exchange. -/
theorem plain_begun (status : Status) :
    Course.All Plain ((Course.of (heed status "parameter exchange") >>= fun _ =>
      Course.of (setPhase .active)) >>= fun _ => pure Answer.nothing) :=
  ((Course.all_of (plain_heed _ _)).bind fun _ =>
    Course.all_of (.of_steady (steady_setPhase (by decide)) (hushed_setPhase _))).bind
      fun _ => trivial

theorem stays_course (operation : Operation) :
    operation.course.All fun act => act.Keeps Stays := by
  by_cases h : operation = .begin
  · subst h
    exact ⟨stays_of_steady steady_offerParameters, fun status =>
      (plain_begun status).imp fun _ => Plain.stays⟩
  · exact (tame_course h).imp fun _ => Tame.stays

theorem stays_perform (operation : Operation) : operation.perform.Keeps Stays := by
  rw [← Operation.toAct_course]
  exact (stays_course operation).keeps stays

theorem stays_begin : begin.Keeps Stays := by
  rw [← toAct_beginCourse]
  exact Course.All.keeps ((Course.all_of (stays_of_steady steady_offerParameters)).bind fun _ =>
    (Course.all_of (stays_heed _ _)).bind fun _ =>
    Course.all_of (stays_of_steady (steady_setPhase (by decide)))) stays

theorem stays_runStep (own : Float) : (runStep own).Keeps Stays := by
  rw [← toAct_runStepCourse]
  exact ((tame_runStepCourse own).imp fun _ => Tame.stays).keeps stays

theorem falls_course (operation : Operation) :
    operation.course.All fun act => act.Keeps Falls := by
  by_cases h : operation = .begin
  · subst h
    exact ⟨falls_of_steady steady_offerParameters, fun status =>
      (plain_begun status).imp fun _ => Plain.falls⟩
  · exact (tame_course h).imp fun _ => Tame.falls

/-- The first stage of the beginning does not look whether the peer is there. -/
theorem quiet_tail (operation : Operation) :
    operation.course.Tail fun act => act.Keeps Quiet := by
  by_cases h : operation = .begin
  · subst h
    exact fun status => (plain_begun status).imp fun _ plain => plain.tame.quiet
  · exact ((tame_course h).imp fun _ => Tame.quiet).tail

/-- A begun run without the peer passes nothing on and stays begun. -/
def Calm (c : Controller) (log : Log Coupling) (d : Controller) : Prop :=
  c.Begun → c.Orphaned → Silent log ∧ c.Still d ∧ d.Begun

theorem calm : Act.Transitive Calm where
  refl := fun _ begun orphaned => ⟨Silent.of_local Local.nil, Still.refl orphaned, begun⟩
  trans := by
    intro c first d second e h k begun orphaned
    obtain ⟨silent, still, still_begun⟩ := h begun orphaned
    obtain ⟨later, again, on⟩ := k still_begun still.orphaned
    exact ⟨silent.append later, still.trans again, on⟩

theorem Tame.calm {α : Type} {act : Act Coupling Controller α} (h : Tame act) :
    act.Keeps Calm := by
  intro c log result d run begun orphaned
  obtain ⟨silent, still⟩ := h.quiet _ _ _ _ run orphaned
  exact ⟨silent, still, (h.stays _ _ _ _ run).begun begun⟩

theorem calm_course (operation : Operation) : operation.course.All fun act => act.Keeps Calm := by
  by_cases h : operation = .begin
  · subst h
    refine ⟨?_, fun status => (plain_begun status).imp fun _ plain => plain.tame.calm⟩
    intro c log result d run begun orphaned
    obtain ⟨rfl, rfl, -⟩ := refused begun run
    exact calm.refl _ begun orphaned
  · exact (tame_course h).imp fun _ => Tame.calm

/-! ## The loss -/

theorem live_iff {c : Controller} : c.session.isTerminated = false ↔ 0 ≤ c.session.iteration := by
  unfold Session.isTerminated
  rw [decide_eq_false_iff_not, Int32.not_lt]

theorem gone_iff {c : Controller} : c.session.isTerminated = true ↔ c.session.iteration < 0 :=
  decide_eq_true_iff

/-- Outside the beginning, a run that is not begun keeps the iteration. -/
theorem iteration_of_not_begun {operation : Operation} {c d : Controller} {log : Log Coupling}
    {result : Except Fault Answer} (h : operation ≠ .begin) (fresh : ¬ c.Begun)
    (run : operation.perform.Runs c log result d) :
    d.session.iteration = c.session.iteration := by
  have phase : c.phase = .uninitialized := Decidable.not_not.1 fresh
  have refusing {α β : Type} {expected : Phase} {name : String}
      {f : Unit → Act Coupling Controller α} {k : α → Act Coupling Controller β}
      {outcome : Except Fault β} (differs : Phase.uninitialized ≠ expected)
      (run : ((requirePhase expected name >>= f) >>= k).Runs c log outcome d) :
      d.session.iteration = c.session.iteration := by
    rw [bind_assoc] at run
    obtain ⟨-, rfl, -⟩ := refused (by rw [phase]; exact differs) run
    rfl
  cases operation with
  | begin => exact absurd rfl h
  | beginStep own => exact refusing (by decide) run
  | runStep own =>
    replace run : ((Controller.beginStep own >>= _) >>= _).Runs c log result d := run
    rw [bind_assoc] at run
    exact refusing (by decide) run
  | endStep => exact ((steady.bind steady_endStep fun _ => steady.pure _) _ _ _ _ run).iteration
  | finish => exact ((steady.bind steady_finish fun _ => steady.pure _) _ _ _ _ run).iteration
  | sendForces => exact refusing (by decide) run
  | receiveDisplacement => exact refusing (by decide) run
  | predictDisplacement parent =>
    exact ((steady.bind (steady_predictDisplacementOnto _) fun _ => steady.pure _) _ _ _ _
      run).iteration
  | exchangeConvergence => exact refusing (by decide) run
  | saveValues =>
    exact ((steady.bind steady_saveValues fun _ => steady.pure _) _ _ _ _ run).iteration

/-- Only a begun run loses the peer. -/
theorem begun_of_loss {operation : Operation} {c d : Controller} {log : Log Coupling}
    {result : Except Fault Answer} (run : operation.perform.Runs c log result d)
    (live : c.session.isTerminated = false) (gone : d.session.isTerminated = true) : d.Begun := by
  by_cases begun : c.Begun
  · exact (stays_perform operation _ _ _ _ run).begun begun
  · by_cases beginning : operation = .begin
    · subst beginning
      rw [← Operation.toAct_course] at run
      rcases Act.runs_bind.1 run with ⟨_, status, e, _, -, offered, later⟩ | ⟨_, -, offered⟩
      · rcases Act.runs_bind.1 later with ⟨_, _, f, _, -, heeded, last⟩ | ⟨_, -, heeded⟩
        · replace last : (Program.done (Except.ok Answer.nothing,
              { f with phase := .active })).Runs _ (result, d) := last
          obtain ⟨-, h⟩ := Program.runs_done.1 last
          obtain ⟨-, rfl⟩ := Prod.mk.inj h
          exact Phase.noConfusion
        · cases (runs_heed heeded).2.1
      · have same := (steady_offerParameters _ _ _ _ offered).iteration
        rw [isTerminated_eq same, live] at gone
        cases gone
    · rw [isTerminated_eq (iteration_of_not_begun beginning begun run), live] at gone
      cases gone

/-! ## Forces -/

/-- A step has at least one sub-iteration. -/
theorem cap_pos (s : Session) : 0 < (cap s).toNatClampNeg := by
  unfold cap Int32.toNatClampNeg
  split
  · rename_i more
    have more := Int32.lt_iff_toInt_lt.1 more
    have one : (1 : Int32).toInt = 1 := rfl
    omega
  · decide

/-- Without the peer, a sub-iteration is the last of its step. -/
theorem gives_exchangeCourse :
    exchangeCourse.toAct.Gives fun last d => d.session.isTerminated = true → last = true := by
  unfold exchangeCourse
  simp only [Course.toAct_bind, Course.toAct_of]
  refine Act.gives_bind fun _ => Act.gives_bind fun _ => Act.gives_bind fun _ =>
    Act.gives_bind fun _ => Act.gives_bind fun converged => ?_
  intro c log last d run gone
  obtain ⟨-, h⟩ := Program.runs_done.1 run
  obtain ⟨value, rfl⟩ := Prod.mk.inj h
  rw [Except.ok.inj value]
  unfold isDone
  rw [gone, Bool.or_true, Bool.true_or]

theorem hushed_exchangeCourse : exchangeCourse.toAct.Keeps Hushed :=
  Course.All.keeps (plain_exchangeCourse.imp fun _ => Plain.hushed) hushed

theorem hushed_beginStepCourse (own : Float) :
    (beginStepCourse own).All fun act => act.Keeps Hushed :=
  (Course.all_of (hushed_proposeStep _)).bind fun _ =>
    (Course.all_of (hushed_settleStep _ _)).bind fun _ => Course.all_of (hushed_enterStep _)

theorem forceCount_computeForces {c d : Controller} {log : Log Coupling}
    {result : Except Fault Unit} (run : computeForces.Runs c log result d) :
    forceCount log = 1 := by
  obtain ⟨reply, rfl, -, -⟩ := runs_computeForces run
  rfl

theorem runs_subIterate_orphaned {c d : Controller} {log : Log Coupling}
    {result : Except Fault Bool} (run : subIterate.Runs c log result d) (orphaned : c.Orphaned) :
    forceCount log = 1 ∧ d.Orphaned ∧ ∀ last, result = .ok last → last = true := by
  rw [← toAct_subIterateCourse] at run
  unfold subIterateCourse at run
  rw [Course.toAct_bind, Course.toAct_of] at run
  rcases Act.runs_bind.1 run with ⟨_, _, e, _, rfl, computed, later⟩ | ⟨fault, rfl, computed⟩
  · obtain ⟨-, still⟩ := quiet_computeForces _ _ _ _ computed orphaned
    obtain ⟨asked, again⟩ := hushed_exchangeCourse _ _ _ _ later still.orphaned
    refine ⟨?_, again.orphaned, ?_⟩
    · rw [forceCount_append, forceCount_computeForces computed, asked.forceCount]
    · rintro last rfl
      exact gives_exchangeCourse _ _ _ _ later again.orphaned.gone
  · obtain ⟨-, still⟩ := quiet_computeForces _ _ _ _ computed orphaned
    exact ⟨forceCount_computeForces computed, still.orphaned, fun last wrong => by cases wrong⟩

theorem runs_subIterateAtMost_orphaned {c d : Controller} {log : Log Coupling}
    {result : Except Fault Unit} {n : Nat} (positive : 0 < n)
    (run : (subIterateAtMost n).Runs c log result d) (orphaned : c.Orphaned) :
    forceCount log = 1 ∧ d.Orphaned := by
  cases n with
  | zero => exact absurd positive (Nat.lt_irrefl 0)
  | succ n =>
    rcases Act.runs_bind.1 run with ⟨_, last, e, _, rfl, sub, later⟩ | ⟨fault, -, sub⟩
    · obtain ⟨once, still, ending⟩ := runs_subIterate_orphaned sub orphaned
      obtain rfl := ending last rfl
      obtain ⟨rfl, -, rfl⟩ := Act.runs_pure.1 later
      exact ⟨by rw [List.append_nil, once], still⟩
    · obtain ⟨once, still, -⟩ := runs_subIterate_orphaned sub orphaned
      exact ⟨once, still⟩

/-- Without the peer, a step computes the forces once, unless it is refused. -/
theorem runs_runStep_orphaned {own : Float} {c d : Controller} {log : Log Coupling}
    {result : Except Fault Float} (run : (runStep own).Runs c log result d)
    (orphaned : c.Orphaned) :
    forceCount log = 1 ∨
      log = [] ∧ result = .error (.wrongPhase "begin_time_step" c.phase .active) := by
  by_cases turn : c.phase = .active
  · left
    have hushes : (beginStep own).Keeps Hushed := by
      rw [← toAct_beginStepCourse]
      exact (hushed_beginStepCourse own).keeps hushed
    rcases Act.runs_bind.1 run with ⟨_, dt, e, _, rfl, begun, later⟩ | ⟨fault, -, begun⟩
    · obtain ⟨asked, still⟩ := hushes _ _ _ _ begun orphaned
      rw [forceCount_append, asked.forceCount, Nat.zero_add]
      unfold Act.Runs at later
      rw [Act.get_bind_apply] at later
      rcases Act.runs_bind.1 later with ⟨_, _, f, _, rfl, subs, last⟩ | ⟨fault, -, subs⟩
      · obtain ⟨once, alone⟩ := runs_subIterateAtMost_orphaned (cap_pos _) subs still.orphaned
        obtain ⟨noted, -⟩ := hushed_leaveStep _ _ _ _ last alone
        rw [forceCount_append, once, noted.forceCount]
      · exact (runs_subIterateAtMost_orphaned (cap_pos _) subs still.orphaned).1
    · unfold Act.Runs at begun
      rw [beginStep_apply _ _ turn, TimeStep.negotiate_apply, if_pos orphaned.gone] at begun
      obtain ⟨-, h⟩ := Program.runs_done.1 begun
      cases (Prod.mk.inj h).1
  · right
    unfold Controller.runStep Controller.beginStep at run
    rw [bind_assoc] at run
    obtain ⟨rfl, -, rfl⟩ := refused turn run
    exact ⟨rfl, rfl⟩

/-! ## Answers -/

/-- A group of one with a compliant solver, and a channel on which every exchange has the same
status. -/
def echo (status : Status) : (request : Request) → request.Reply
  | .sumReals values => .ok values
  | .sumCounts values => .ok values
  | .broadcastReals buffer => .ok buffer
  | .broadcastInts buffer => .ok buffer
  | .sendInts .. => status
  | .sendReals .. => status
  | .receiveInts _ _ _ buffer => (status, buffer)
  | .receiveReals _ _ _ buffer => (status, buffer)
  | .sendField .. => .ok status
  | .receiveField _ _ buffer => .ok (status, buffer)
  | .close _ => ()
  | .computeForces _ _ buffer => (.ok (), buffer)
  | .imposeDisplacement .. => .ok ()
  | .peerConvergence _ own => .ok own
  | .note _ => ()

end Controller

/-! ## Whole runs -/

open Controller

/-- An operation without the peer leaves the parent array alone and computes the forces only
in a step, there exactly once; a step outside its phase is refused. -/
structure Record.Muted (r : Record) : Prop where
  parent : ∀ parent outcome out, r.operation = .predictDisplacement parent →
    r.outcome = .ok (.predicted outcome out) → out = parent
  forces : ∀ own, r.operation = .runStep own → forceCount r.log = 1 ∨
    r.log = [] ∧ ∃ phase, r.outcome = .error (.wrongPhase "begin_time_step" phase .active)
  noForces : (∀ own, r.operation ≠ .runStep own) → forceCount r.log = 0

theorem parent_of_orphaned {parent out : List Float} {outcome : Except Fault Coefficients}
    {c d : Controller} {log : Log Coupling} (orphaned : c.Orphaned)
    (run : (predictDisplacementOnto parent).Runs c log (.ok (outcome, out)) d) :
    out = parent := by
  unfold Act.Runs predictDisplacementOnto at run
  rw [Act.get_bind_apply] at run
  dsimp only at run
  rw [orphaned.gone] at run
  rcases Act.runs_bind.1 run with ⟨_, _, _, _, -, -, later⟩ | ⟨fault, wrong, -⟩
  · obtain ⟨-, h, -⟩ := Act.runs_pure.1 later
    exact (Prod.mk.inj (Except.ok.inj h)).2
  · cases wrong

theorem muted_of_orphaned {r : Record} {c d : Controller}
    (run : r.operation.perform.Runs c r.log r.outcome d) (begun : c.Begun)
    (orphaned : c.Orphaned) : r.Muted where
  parent := by
    intro parent outcome out operation result
    rw [operation, result] at run
    rcases Act.runs_bind.1 run with ⟨_, ⟨_, _⟩, _, _, -, predicted, later⟩ | ⟨fault, wrong, -⟩
    · obtain ⟨-, h, -⟩ := Act.runs_pure.1 later
      injection Except.ok.inj h with _ h
      rw [h]
      exact parent_of_orphaned orphaned predicted
    · cases wrong
  forces := by
    intro own operation
    rw [operation] at run
    rcases Act.runs_bind.1 run with ⟨_, dt, _, _, split, stepped, later⟩ | ⟨fault, wrong, stepped⟩
    · obtain ⟨rfl, -, -⟩ := Act.runs_pure.1 later
      rw [split, List.append_nil]
      rcases runs_runStep_orphaned stepped orphaned with once | ⟨-, wrong⟩
      · exact .inl once
      · cases wrong
    · rcases runs_runStep_orphaned stepped orphaned with once | ⟨silent, refusal⟩
      · exact .inl once
      · injection refusal with refusal
        exact .inr ⟨silent, c.phase, by rw [wrong, refusal]⟩
  noForces := by
    intro other
    by_cases beginning : r.operation = .begin
    · rw [beginning, ← Operation.toAct_course] at run
      rcases Act.runs_bind.1 run with ⟨_, _, _, _, -, offered, -⟩ | ⟨fault, -, offered⟩
      · cases (refused begun offered).2.2
      · rw [(refused begun offered).1]
        rfl
    · rw [← Operation.toAct_course] at run
      have hushes : r.operation.course.All fun act => act.Keeps Hushed := by
        by_cases stepping : ∃ own, r.operation = .beginStep own
        · obtain ⟨own, operation⟩ := stepping
          rw [operation]
          exact (hushed_beginStepCourse own).bind fun _ => trivial
        · exact (plain_course other (fun own equal => stepping ⟨own, equal⟩) beginning).imp
            fun _ => Plain.hushed
      exact (hushes.keeps hushed _ _ _ _ run orphaned).1.forceCount

/-- Operations without the peer are silent. -/
theorem calm_of_history {c d : Controller} {records : List Record}
    (history : History c records d) (begun : c.Begun) (orphaned : c.Orphaned) :
    (Silent (records.flatMap Record.log) ∧ c.Still d ∧ d.Begun) ∧ ∀ r ∈ records, r.Muted := by
  induction history with
  | nil c => exact ⟨calm.refl c begun orphaned, fun r member => absurd member List.not_mem_nil⟩
  | @cons c d e r records run later ih =>
    have step := run
    rw [← Operation.toAct_course] at step
    obtain ⟨silent, still, on⟩ := (calm_course _).keeps calm _ _ _ _ step begun orphaned
    obtain ⟨⟨rest, again, after⟩, muted⟩ := ih on still.orphaned
    refine ⟨⟨silent.append rest, still.trans again, after⟩, ?_⟩
    exact List.forall_mem_cons.2 ⟨muted_of_orphaned run begun orphaned, muted⟩

/-- What follows once an operation has lost the peer. -/
theorem calm_of_later {rest : Course Coupling Controller Answer} {c d : Controller}
    {log : Log Coupling} {records : List Record} (later : Later rest c records log d)
    (quiets : rest.All fun act => act.Keeps Quiet) (orphaned : c.Orphaned)
    (begins : ∀ log result e, rest.toAct.Runs c log result e → e.Begun) :
    Silent log ∧ c.Still d ∧ ∀ r ∈ records, r.Muted := by
  cases later with
  | within reached =>
    obtain ⟨silent, still⟩ := quiets.kept quiet reached orphaned
    exact ⟨silent, still, fun r member => absurd member List.not_mem_nil⟩
  | beyond ended history reached =>
    obtain ⟨first, still⟩ := quiets.keeps quiet _ _ _ _ ended orphaned
    obtain ⟨⟨second, again, begun⟩, muted⟩ :=
      calm_of_history history (begins _ _ _ ended) still.orphaned
    obtain ⟨third, last, -⟩ := (calm_course _).kept calm reached begun again.orphaned
    exact ⟨(first.append second).append third, (still.trans again).trans last, muted⟩

end FluidStructure.Coupling
