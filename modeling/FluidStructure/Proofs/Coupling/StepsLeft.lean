import FluidStructure.Proofs.Coupling.Deeds
import FluidStructure.Proofs.Coupling.Diagram
import FluidStructure.Proofs.Coupling.DryLaps
import FluidStructure.Proofs.Coupling.WindDown

/-!
# Steps that are left

A run is active only as long as run control has a step left.  The end of a step asks run control, and
winding down leaves the step that comes next.  The beginning does not ask, so that a run that was to
have no steps is active at its beginning, and makes one.
-/

namespace FluidStructure.Coupling

open FluidStructure.Channel FluidStructure.Journal

namespace RunControl

variable {steps : Int32} {r : RunControl}

/-- No step has been begun.  The planned ones are left, or one without the peer. -/
def Unbegun (steps : Int32) (r : RunControl) : Prop :=
  r.currentStep = 0 ∧ (r.lastStep = steps ∨ r.lastStep = 1)

/-- A step is left, or none was planned and none has been begun. -/
def Left (steps : Int32) (r : RunControl) : Prop :=
  r.currentStep < r.lastStep ∨ steps = 0 ∧ r.currentStep = 0 ∧ r.lastStep = 0

theorem unbegun_of_start {time : Float} (started : start steps time = .ok r) :
    0 ≤ steps ∧ r.Unbegun steps := by
  obtain ⟨planned, rfl⟩ := start_eq_ok_iff.1 started
  exact ⟨planned, rfl, .inl rfl⟩

theorem Unbegun.windDown (h : r.Unbegun steps) : r.windDown.Unbegun steps := by
  rw [windDown_eq]
  split
  · refine ⟨h.1, .inr ?_⟩
    show r.currentStep + 1 = 1
    rw [h.1]
    rfl
  · exact h

theorem Unbegun.left (planned : 0 ≤ steps) (h : r.Unbegun steps) : r.Left steps := by
  obtain ⟨current, last | last⟩ := h
  · by_cases none : steps = 0
    · exact .inr ⟨none, current, last.trans none⟩
    · refine .inl ?_
      rw [current, last]
      exact Int32.lt_of_le_of_ne planned (Ne.symm none)
  · refine .inl ?_
    rw [current, last]
    decide

theorem Left.windDown (h : r.Left steps) : r.windDown.Left steps := by
  rw [windDown_eq]
  split
  · rename_i within
    refine .inl (Int32.lt_iff_toInt_lt.2 ?_)
    show r.currentStep.toInt < (r.currentStep + 1).toInt
    rw [toInt_add_one (notFull_of_le within.1 within.2)]
    exact Int.lt_succ _
  · exact h

end RunControl

namespace Controller

variable {c d e : Controller} {log : Log Coupling} {steps : Int32} {P : RunControl → Prop}

/-! ## Parts that only wind down -/

/-- The phase stays, and so does what winding down keeps of run control. -/
structure Winds (P : RunControl → Prop) (c : Controller) (_ : Log Coupling) (d : Controller) :
    Prop where
  phase : d.phase = c.phase
  run : P c.run → P d.run

theorem winds (P : RunControl → Prop) : Act.Transitive (Winds P) where
  refl := fun _ => ⟨rfl, id⟩
  trans := fun _ _ _ _ _ h k => ⟨k.phase.trans h.phase, fun start => k.run (h.run start)⟩

theorem winds_perform (request : Request) : (Act.perform (I := Coupling) request).Keeps (Winds P) :=
  Act.keeps_perform fun _ _ => ⟨rfl, id⟩

theorem stagewise_winds (closed : ∀ r, P r → P r.windDown) : Act.Stagewise (Winds P) where
  toTransitive := winds P
  aside := fun _ alongside => ⟨alongside.phase, fun start => alongside.run ▸ start⟩
  sent := fun _ _ _ => winds_perform _
  received := fun _ _ _ => winds_perform _
  lost := fun _ => ⟨rfl, closed _⟩

theorem winds_announce (closed : ∀ r, P r → P r.windDown) : announce.Keeps (Winds P) :=
  (winds P).announce (fun _ => winds_perform _) (fun _ _ _ _ => winds_perform _)
    (fun _ _ _ _ => winds_perform _) (fun _ => winds_perform _)
    ((stagewise_winds closed).disconnect _)

theorem winds_subIterate (closed : ∀ r, P r → P r.windDown) : subIterate.Keeps (Winds P) :=
  (stagewise_winds closed).subIterate
    (fun _ alongside => ⟨alongside.phase, fun start => alongside.run ▸ start⟩)
    (fun _ _ _ _ => winds_perform _)
    ((winds P).computeForces (fun _ _ _ => winds_perform _) fun _ =>
      Act.keeps_modify fun _ => ⟨rfl, id⟩)
    (fun _ _ => winds_perform _) (Act.keeps_modify fun _ => ⟨rfl, id⟩)

theorem winds_negotiate (closed : ∀ r, P r → P r.windDown) (place : Parallel.Place) (own : Float) :
    (onSchedule (TimeStep.negotiate place own)).Keeps (Winds P) := by
  intro c log result d run
  obtain ⟨t, negotiating, rfl⟩ := Act.runs_zoom.1 run
  refine ⟨rfl, fun start => ?_⟩
  unfold Act.Runs at negotiating
  rw [TimeStep.negotiate_apply] at negotiating
  split at negotiating
  · obtain ⟨-, same⟩ := Program.runs_done.1 negotiating
    obtain ⟨-, rfl⟩ := Prod.mk.inj same
    exact start
  · obtain ⟨_, _, _, -, -, settling⟩ := Program.runs_bind.1 negotiating
    obtain ⟨-, ⟨rfl, -⟩ | ⟨dts, iterations, -, -, rfl⟩⟩ := TimeStep.runs_settle settling
    · exact start
    · unfold TimeStep.Schedule.agree
      dsimp only
      split
      · exact closed _ start
      · exact start

/-! ## The beginning and the steps -/

/-- What holds of the controller goes on to hold. -/
def Lasting (J : Controller → Prop) (c : Controller) (_ : Log Coupling) (d : Controller) : Prop :=
  J c → J d

theorem lasting (J : Controller → Prop) : Act.Transitive (Lasting J) where
  refl := fun _ => id
  trans := fun _ _ _ _ _ h k start => k (h start)

/-- A request leaves the controller as it is. -/
theorem lasting_perform (J : Controller → Prop) (request : Request) :
    (Act.perform (I := Coupling) request).Keeps (Lasting J) := Act.keeps_perform fun _ _ => id

/-- The beginning uses nothing up. -/
theorem unbegun_of_begin {result : Except Fault Unit} (run : Controller.begin.Runs c log result d)
    (unbegun : c.run.Unbegun steps) : d.run.Unbegun steps :=
  (lasting fun c => c.run.Unbegun steps).begin (Act.keeps_modify fun _ => id)
    (fun _ _ _ _ run => (winds_announce (fun _ => .windDown) _ _ _ _ run).run)
    (Act.keeps_modify fun _ => id) _ _ _ _ run unbegun

/-- In a step, or after the last one. -/
def Busy (c : Controller) : Prop := c.phase ≠ .uninitialized ∧ c.phase ≠ .active

/-- So far, and run control has been wound down at most. -/
def BusyWith (P : RunControl → Prop) (c : Controller) : Prop := Busy c ∧ P c.run

theorem busy_of_winds {α : Type} {act : Act Coupling Controller α} (h : act.Keeps (Winds P)) :
    act.Keeps (Lasting (BusyWith P)) := by
  rintro c log result d run ⟨busy, start⟩
  obtain ⟨phase, holds⟩ := h _ _ _ _ run
  unfold BusyWith Busy
  rw [phase]
  exact ⟨busy, holds start⟩

theorem busy_setPhase {phase : Phase} (h : phase ≠ .uninitialized ∧ phase ≠ .active) :
    (setPhase phase).Keeps (Lasting (BusyWith P)) := Act.keeps_modify fun _ holds => ⟨h, holds.2⟩

/-- A step that has begun is under way, however far it has come. -/
theorem busy_of_beginStep {own : Float} {result : Except Fault Float}
    (closed : ∀ r, P r → P r.windDown) (turn : c.phase = .active) (start : P c.run.advance)
    (run : (beginStep own).Runs c log result d) : d.BusyWith P := by
  have along := lasting (BusyWith P)
  have rest (f : Unit → Act Coupling Controller Float) (later : (f ()).Keeps (Lasting (BusyWith P)))
      (run : (setPhase .negotiating >>= fun _ =>
        Act.modify (fun c : Controller => { c with run := c.run.advance }) >>= f).Runs
          c log result d) : d.BusyWith P := by
    unfold setPhase Act.Runs at run
    rw [Act.modify_bind_apply, Act.modify_bind_apply] at run
    exact later _ _ _ _ run ⟨by simp [Busy], start⟩
  unfold beginStep Act.Runs at run
  rw [requirePhase_bind_apply, if_pos turn] at run
  refine rest _ ?_ run
  exact along.bind along.get fun _ =>
    along.bind (busy_of_winds (winds_negotiate closed _ _)) fun _ =>
    along.bind (busy_of_winds (Act.keeps_modify fun _ => ⟨rfl, id⟩)) fun _ =>
    along.bind (busy_of_winds (Act.keeps_modify fun _ => ⟨rfl, id⟩)) fun _ =>
    along.bind (busy_setPhase ⟨by decide, by decide⟩) fun _ => along.pure _

theorem busy_of_runStep {own : Float} {result : Except Fault Float}
    (closed : ∀ r, P r → P r.windDown) (turn : c.phase = .active) (start : P c.run.advance)
    (run : (runStep own).Runs c log result d) : d.BusyWith P := by
  have along := lasting (BusyWith P)
  rcases Act.runs_bind.1 run with ⟨_, _, e, _, -, beginning, onward⟩ | ⟨_, -, beginning⟩
  · refine along.bind along.get (fun c => ?_) _ _ _ _ onward
      (busy_of_beginStep closed turn start beginning)
    exact along.bind (busy_of_winds ((winds P).subIterateAtMost (winds_subIterate closed) _)) fun _ =>
      along.bind (busy_setPhase ⟨by decide, by decide⟩) fun _ => along.bind along.get fun _ =>
      along.bind (busy_of_winds ((winds P).noteIf (fun _ => winds_perform _) _ _)) fun _ =>
      along.pure _
  · exact busy_of_beginStep closed turn start beginning

/-! ## Deeds -/

/-- Where a run stands that was to have so many steps: before the first nothing is used up, and an
active run has a step left. -/
structure Provided (steps : Int32) (c : Controller) : Prop where
  unbegun : c.phase = .uninitialized → c.run.Unbegun steps
  active : c.phase = .active → c.run.Left steps

theorem Provided.of_busy (h : d.Busy) : d.Provided steps :=
  ⟨fun early => absurd early h.1, fun turn => absurd turn h.2⟩

theorem Provided.of_same (h : c.Provided steps) (phase : d.phase = c.phase) (run : d.run = c.run) :
    d.Provided steps := by
  constructor
  · rw [phase, run]
    exact h.unbegun
  · rw [phase, run]
    exact h.active

theorem Provided.begin {result : Except Fault Unit} (planned : 0 ≤ steps) (h : c.Provided steps)
    (turn : c.phase = .uninitialized) (run : Controller.begin.Runs c log result d) :
    d.Provided steps :=
  have unbegun := unbegun_of_begin run (h.unbegun turn)
  ⟨fun _ => unbegun, fun _ => unbegun.left planned⟩

theorem Provided.endStep {result : Except Fault Unit} (h : c.Provided steps)
    (run : Controller.endStep.Runs c log result d) : d.Provided steps := by
  unfold Controller.endStep Act.Runs at run
  rw [Act.get_bind_apply] at run
  dsimp only at run
  split at run
  · obtain ⟨-, -, rfl⟩ := Act.runs_fail.1 run
    exact h
  · obtain ⟨-, -, rfl⟩ := (Act.runs_set (s := c)).1 run
    cases last : (c.run.complete c.stepDt).isLastStep with
    | true => exact .of_busy (by simp [Busy])
    | false =>
      refine ⟨by simp, fun _ => .inl ?_⟩
      exact Int32.not_le.1 (of_decide_eq_false last)

theorem Provided.operation {operation : Operation} {outcome : Except Fault Answer}
    (planned : 0 ≤ steps) (h : c.Provided steps) (run : operation.perform.Runs c log outcome d) :
    d.Provided steps := by
  by_cases saving : operation = .saveValues
  · obtain rfl := saving
    obtain ⟨-, -, rfl⟩ := runs_saveValues run
    exact h.of_same rfl rfl
  by_cases allowed : c.Allows operation
  case neg =>
    obtain ⟨-, rfl, -⟩ := refused_of_not_allows saving allowed run
    exact h
  -- a stage is allowed in a step only, and stays in it
  have within (stage : operation.isStage = true) (turn : c.phase = .subIterating) :
      d.Provided steps := by
    have phase := (abides_stage stage _ _ _ _ run).phase.trans turn
    exact .of_busy ⟨by rw [phase]; decide, by rw [phase]; decide⟩
  cases operation with
  | begin =>
    obtain ⟨_, begun, -⟩ := Act.runs_bind_pure.1 run
    exact h.begin planned allowed.1 begun
  | beginStep own =>
    obtain ⟨_, begun, -⟩ := Act.runs_bind_pure.1 run
    exact .of_busy (busy_of_beginStep (P := fun _ => True) (fun _ => id) allowed trivial begun).1
  | runStep own =>
    obtain ⟨_, made, -⟩ := Act.runs_bind_pure.1 run
    exact .of_busy (busy_of_runStep (P := fun _ => True) (fun _ => id) allowed trivial made).1
  | endStep =>
    obtain ⟨_, ended, -⟩ := Act.runs_bind_pure.1 run
    exact h.endStep ended
  | finish =>
    obtain ⟨_, ended, -⟩ := Act.runs_bind_pure.1 run
    obtain ⟨-, again, first⟩ := runs_finish ended
    by_cases closed : c.phase = .closed
    · rw [(again closed).2]
      exact h
    · rw [(first closed).2]
      exact .of_busy (by simp [Busy, shut])
  | sendForces => exact within rfl allowed
  | receiveDisplacement => exact within rfl allowed
  | predictDisplacement parent => exact within rfl allowed
  | exchangeConvergence => exact within rfl allowed
  | saveValues => exact absurd rfl saving

/-- What is not an operation winds down at most. -/
theorem winds_deed (closed : ∀ r, P r → P r.windDown) {deed : Deed}
    (other : ∀ operation, deed ≠ .operate operation) (unsteered : ∀ run, deed ≠ .steer run) :
    deed.perform.Keeps (Winds P) := by
  cases deed with
  | operate operation => exact absurd rfl (other operation)
  | steer run => exact absurd rfl (unsteered run)
  | register surface length =>
    intro c log result d run
    obtain ⟨s, -, rfl⟩ := runs_registerSession.1 run
    exact ⟨rfl, id⟩
  | alter call => exact Act.keeps_modify fun _ => ⟨rfl, id⟩
  | negotiate own =>
    exact (winds P).bind (winds P).get fun _ => (winds P).bind (winds_negotiate closed _ own) fun _ =>
      (winds P).pure _
  | evaluate =>
    refine (winds P).bind (winds P).get fun _ => (winds P).bind ?_ fun _ =>
      Act.keeps_modify fun _ => ⟨rfl, id⟩
    intro c log result d run
    obtain ⟨-, _, _, rfl⟩ := runs_evaluate run
    exact ⟨rfl, id⟩
  | predictForces =>
    refine (winds P).bind ?_ fun _ => (winds P).pure _
    intro c log result d run
    obtain ⟨-, _, rfl⟩ := runs_predictForces run
    exact ⟨rfl, id⟩
  | predictDisplacement =>
    refine (winds P).bind ?_ fun _ => (winds P).pure _
    intro c log result d run
    obtain ⟨-, _, rfl⟩ := runs_predictMotion run
    exact ⟨rfl, id⟩

theorem Provided.deed {deed : Deed} {outcome : Except Fault Unit} (planned : 0 ≤ steps)
    (h : c.Provided steps) (unsteered : ∀ run, deed ≠ .steer run)
    (run : deed.perform.Runs c log outcome d) : d.Provided steps := by
  by_cases operates : ∃ operation, deed = .operate operation
  · obtain ⟨operation, rfl⟩ := operates
    obtain ⟨_, called, -⟩ := Act.runs_bind_pure.1 run
    exact h.operation planned called
  · have other (operation : Operation) : deed ≠ .operate operation := fun same =>
      operates ⟨operation, same⟩
    obtain ⟨phase, unbegun⟩ :=
      winds_deed (P := RunControl.Unbegun steps) (fun _ => .windDown) other unsteered _ _ _ _ run
    obtain ⟨-, left⟩ :=
      winds_deed (P := RunControl.Left steps) (fun _ => .windDown) other unsteered _ _ _ _ run
    exact ⟨fun early => unbegun (h.unbegun (phase ▸ early)), fun turn =>
      left (h.active (phase ▸ turn))⟩

theorem Provided.doings {doings : List Doing} (planned : 0 ≤ steps) (h : c.Provided steps)
    (history : Doings c doings d) (unsteered : ∀ doing ∈ doings, ∀ run, doing.deed ≠ .steer run) :
    d.Provided steps := by
  induction history with
  | nil => exact h
  | cons run _ ih =>
    obtain ⟨here, later⟩ := List.forall_mem_cons.1 unsteered
    exact ih (h.deed planned here run) later

end Controller

open Controller

/-- Whatever a caller does: an active run has a step left, unless it was to have none and has just
begun.  Driven without a peer, and if nothing faults, a run makes the steps that it was to have, and
one if it was to have none. -/
theorem active_steps_left {steps : Int32} {time : Float} {run : RunControl}
    (started : RunControl.start steps time = .ok run) :
    (∀ (c d : Controller) (doings : List Doing), c.run = run → c.phase = .uninitialized →
      Doings c doings d → (∀ doing ∈ doings, ∀ r, doing.deed ≠ .steer r) → d.phase = .active →
      d.run.currentStep < d.run.lastStep ∨
        steps = 0 ∧ d.run.currentStep = 0 ∧ d.run.lastStep = 0) ∧
    ∀ (place : Parallel.Place) (peer : Discovery.Peer) (parameters : Parameters) (surface : Surface)
      (length : Float) (session : Session) (registering : Log Coupling),
      (Session.register place surface length).Runs (Session.new parameters peer) registering (.ok ())
        session → peer.found = false →
      ∀ first laps d, Driven { place, session, run } first laps d →
        AllOrderly place (logs first laps) →
        (place.isRoot = false → ∀ log ∈ logs first laps, ∀ e ∈ log, PassedOn e) →
        d.run.currentStep.toInt = laps.length ∧ laps.length ≤ max 1 steps.toNatClampNeg ∧
        (d.phase =
          if laps.length < max 1 steps.toNatClampNeg then .active else .terminating) ∧
        (0.0 < length → ∀ own log result e, d.phase = .active → (lap own).Runs d log result e →
          AllOrderly place [log] → ∃ dt, result = .ok dt) := by
  obtain ⟨planned, unbegun⟩ := RunControl.unbegun_of_start started
  refine ⟨?_, ?_⟩
  · rintro c d doings rfl early history unsteered turn
    have start : c.Provided steps := ⟨fun _ => unbegun, fun turn => by cases early.symm.trans turn⟩
    exact (start.doings planned history unsteered).active turn
  · intro place peer parameters surface length session registering registered missing first laps d
      driven orderly passed
    obtain ⟨fresh, start, same⟩ := registered_of_register registered started
    have dry : session.isDryRun = true := by
      obtain ⟨_, _, rfl⟩ := runs_register registered
      exact congrArg not missing
    have passed : ∀ log ∈ logs first laps, ∀ e ∈ log, PassedOn e := by
      cases root : place.isRoot with
      | false => exact passed root
      | true => exact fun log member e within => (root ▸ orderly log member e within).passedOn
    obtain ⟨underway, -, -⟩ := driven.live fresh dry orderly passed
    have phase := driven.phase_of_dry fresh dry orderly passed
    have bound := driven.length_le_of_dry fresh dry orderly passed
    rw [start] at phase bound
    refine ⟨underway.current, bound, phase, fun positive own log result e turn lapping calm => ?_⟩
    have fair : d.Assessable := underway.kin.assessable.2 fun _ => same ▸ positive
    have here := calm log List.mem_cons_self
    rw [← show d.place = place from underway.kin.place] at here
    exact (runs_lap turn (underway.room turn) underway.sound fair lapping here).imp fun _ => And.left

namespace LoneRun

def registered : Log Coupling × Except Fault Unit × Session :=
  (Session.register {} EchoedRun.surface 1.0 (Session.new {} .none)).follow (echo Status.ok)

/-- A run without a peer that is to have so many steps. -/
def start (steps : Int32) : Controller where
  place := {}
  session := registered.2.2
  run := { lastStep := steps, previousTime := 0.0, time := 0.0 }

def begun (steps : Int32) : Log Coupling × Except Fault Unit × Controller :=
  (Controller.begin (start steps)).follow (echo Status.ok)

/-- The first lap. -/
def stepped (steps : Int32) : Log Coupling × Except Fault Float × Controller :=
  (Controller.lap 0.5 (begun steps).2.2).follow (echo Status.ok)

/-- The same, as deeds of a caller. -/
def called (steps : Int32) : List Doing × Controller :=
  carryOut (echo Status.ok) [.operate .begin, .operate (.runStep 0.5), .operate .endStep]
    (start steps)

theorem driven_stepped : Driven (start 2) (begun 2).1 [⟨(stepped 2).1, 0.0⟩] (stepped 2).2.2 := by
  have begins : Controller.begin.Runs (start 2) (begun 2).1 (.ok ()) (begun 2).2.2 :=
    Act.runs_follow (I := Coupling) (echo Status.ok) _ _
  have steps : (Controller.lap 0.5).Runs (begun 2).2.2 (stepped 2).1 (.ok 0.0) (stepped 2).2.2 :=
    Act.runs_follow (I := Coupling) (echo Status.ok) _ _
  exact (Driven.begun begins).lap rfl steps

theorem allOrderly_stepped : AllOrderly {} (logs (begun 2).1 [⟨(stepped 2).1, 0.0⟩]) := by
  intro log member e within
  have followed : e = ⟨e.request, echo Status.ok e.request⟩ := by
    rcases List.mem_cons.1 member with rfl | member
    · exact Program.mem_follow within
    · obtain rfl := List.mem_singleton.1 member
      exact Program.mem_follow within
  exact orderly_of_answers (fun request => by cases request <;> rfl) (fun _ => rfl)
    (fun _ _ _ => rfl) (fun _ _ => rfl) (fun _ own => ⟨own, rfl⟩) followed

/-- After the first of two steps one is left. -/
theorem active_steps_left_stepped :
    (called 2).2.run.currentStep < (called 2).2.run.lastStep ∧
      (stepped 2).2.2.run.currentStep.toInt = 1 ∧ (stepped 2).2.2.phase = .active := by
  obtain ⟨anyhow, driven⟩ :=
    active_steps_left (rfl : RunControl.start 2 0.0 = .ok (start 2).run)
  have registering : (Session.register {} EchoedRun.surface 1.0).Runs (Session.new {} .none)
      registered.1 (.ok ()) registered.2.2 :=
    Act.runs_follow (I := Coupling) (echo Status.ok) _ _
  have history : Doings (start 2) (called 2).1 (called 2).2 := doings_carryOut _ _ _
  have unsteered : ∀ doing ∈ (called 2).1, ∀ r, doing.deed ≠ .steer r := by
    refine List.forall_mem_cons.2 ⟨nofun, List.forall_mem_cons.2 ⟨nofun, ?_⟩⟩
    exact List.forall_mem_singleton.2 nofun
  refine ⟨?_, ?_⟩
  · rcases anyhow _ _ _ rfl rfl history unsteered rfl with left | ⟨none, -⟩
    · exact left
    · cases none
  · obtain ⟨current, -, phase, -⟩ := driven _ _ _ _ _ _ _ registering rfl _ _ _ driven_stepped
      allOrderly_stepped nofun
    exact ⟨current, phase⟩

/-- A run that is to have no steps begins active, with none left, and makes one. -/
theorem steps_none_active : RunControl.start 0 0.0 = .ok (start 0).run ∧
    Controller.begin.Runs (start 0) (begun 0).1 (.ok ()) (begun 0).2.2 ∧
    (begun 0).2.2.phase = .active ∧
    ¬ (begun 0).2.2.run.currentStep < (begun 0).2.2.run.lastStep ∧
    (lap 0.5).Runs (begun 0).2.2 (stepped 0).1 (.ok 0.0) (stepped 0).2.2 ∧
    (stepped 0).2.2.run.currentStep = 1 ∧ (stepped 0).2.2.phase = .terminating :=
  ⟨rfl, Act.runs_follow (I := Coupling) (echo Status.ok) _ _, rfl, by decide,
    Act.runs_follow (I := Coupling) (echo Status.ok) _ _, rfl, rfl⟩

end LoneRun

end FluidStructure.Coupling
