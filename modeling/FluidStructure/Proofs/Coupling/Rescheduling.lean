import FluidStructure.Proofs.Coupling.Negotiation
import FluidStructure.Proofs.Coupling.WindDown

/-!
# Rescheduling the end of a run

The loss of the peer makes the next step the last one, in a negotiation and in any other stage.  The
rescheduling compares the current step with the number behind the last one.  Below a last step that is
full this number fits in 32 bits, and the stop is scheduled.  The number behind a full last step does
not fit: its sum wraps round, and the run goes on to its planned end without the peer.
-/

namespace FluidStructure

theorem saddOverflow_one {i : Int32} :
    i.toBitVec.saddOverflow 1 = true ↔ i = Int32.maxValue := by
  have low := i.le_toInt
  have high := i.toInt_lt
  have one : (1 : BitVec 32).toInt = 1 := rfl
  have full : Int32.maxValue.toInt = 2 ^ 31 - 1 := rfl
  unfold BitVec.saddOverflow
  rw [one, Int32.toInt_toBitVec, ← Int32.toInt_inj, full]
  simp only [Bool.or_eq_true, decide_eq_true_eq]
  omega

namespace Coupling

open FluidStructure.Channel FluidStructure.Journal

namespace RunControl

variable {r : RunControl}

/-- The numbers behind the last step and behind the current one fit in 32 bits. -/
structure Fits (r : RunControl) : Prop where
  last : r.lastStep.toBitVec.saddOverflow 1 = false
  current : r.currentStep.toBitVec.saddOverflow 1 = false

/-- No sum of the rescheduling overflows exactly if the last step is not full. -/
theorem fits_iff (within : r.currentStep ≤ r.lastStep) : r.Fits ↔ r.lastStep < Int32.maxValue := by
  refine ⟨fun fits => lt_maxValue_iff.2 fun full => ?_, fun room => ⟨?_, ?_⟩⟩
  · exact Bool.false_ne_true (fits.last.symm.trans (saddOverflow_one.2 full))
  · exact Bool.eq_false_iff.2 fun overflows => lt_maxValue_iff.1 room (saddOverflow_one.1 overflows)
  · exact Bool.eq_false_iff.2 fun overflows =>
      notFull_of_le room within (saddOverflow_one.1 overflows)

/-- What the loss of the peer makes of run control: the next step is the last one, unless the last
step is full. -/
structure Rescheduled (r s : RunControl) : Prop where
  stop : r.lastStep < Int32.maxValue →
    s = r.scheduleStop (r.currentStep + 1) ∧ s.lastStep.toInt = r.currentStep.toInt + 1
  full : r.lastStep = Int32.maxValue → s = r

theorem rescheduled_windDown (within : r.currentStep ≤ r.lastStep) : r.Rescheduled r.windDown where
  stop := fun room => ⟨windDown_of_le room within, (lastStep_windDown room).2 within⟩
  full := windDown_of_full

end RunControl

namespace TimeStep

variable {place : Parallel.Place} {own : Float} {t u : Schedule} {log : Log Coupling}
  {result : Except Fault Float}

theorem terminated_agree {iteration : Int32} {dt : Float} :
    (t.agree iteration dt).session.isTerminated = decide (iteration < 0) := rfl

/-- A group that agrees on a negative iteration has lost the peer, and only then. -/
theorem run_agree (iteration : Int32) (dt : Float) :
    (t.agree iteration dt).run =
      if (t.agree iteration dt).session.isTerminated then t.run.windDown else t.run := by
  rw [terminated_agree]
  unfold Schedule.agree
  simp only [decide_eq_true_eq]

/-- A negotiation with a session that has its peer: the group faults and nothing has changed, or the
run is wound down exactly if the session has been terminated.  It has been if an exchange has failed
and nothing goes wrong in the own application. -/
theorem negotiate_windsDown (live : t.session.isTerminated = false)
    (run : (negotiate place own).Runs t log result u) :
    (u = t ∧ (∃ fault, result = .error fault) ∧ ¬∀ e ∈ log, Orderly place.isRoot e) ∨
      (∃ dt, result = .ok dt) ∧
        u.run = (if u.session.isTerminated then t.run.windDown else t.run) ∧
        ((∀ e ∈ log, Orderly place.isRoot e) → lossy log = true → u.session.isTerminated = true) := by
  unfold Act.Runs at run
  rw [negotiate_apply, if_neg (Bool.eq_false_iff.1 live)] at run
  obtain ⟨proposing, proposed, agreeing, rfl, telling, settling⟩ := Program.runs_bind.1 run
  obtain ⟨-, news⟩ := Controller.runs_proposal_told telling
  cases runs_settlement settling with
  | unshared fault =>
    refine .inl ⟨rfl, ⟨fault, rfl⟩, fun orderly => ?_⟩
    exact Bool.noConfusion (orderly _ (List.mem_append_right _ List.mem_cons_self)).sound
  | unagreed dts fault =>
    refine .inl ⟨rfl, ⟨fault, rfl⟩, fun orderly => ?_⟩
    have second := orderly ⟨.broadcastInts [proposed.1], .error fault⟩
      (List.mem_append_right _ (List.mem_cons_of_mem _ List.mem_cons_self))
    exact Bool.noConfusion second.sound
  | agreed dts iterations =>
    refine .inr ⟨⟨_, rfl⟩, run_agree _ _, fun orderly failed => decide_eq_true ?_⟩
    have second := orderly ⟨.broadcastInts [proposed.1], .ok iterations⟩
      (List.mem_append_right _ (List.mem_cons_of_mem _ List.mem_cons_self))
    have quiet : reveals ⟨.broadcastReals [proposed.2], .ok dts⟩ = false := rfl
    rw [lossy_append, lossy_cons, lossy_cons, (mute_notes _ _).lossy, quiet, reveals_single second,
      Bool.or_false, Bool.false_or] at failed
    rcases news with ⟨calm, -⟩ | ⟨-, mark, onRoot⟩
    · rw [calm, Bool.false_or] at failed
      exact of_decide_eq_true failed
    · obtain rfl := (second.shared _ _ rfl).2.1 onRoot
      rw [mark]
      exact (by decide : (-1 : Int32) < 0)

end TimeStep

/-- Wherever a run stands up to its last step: the sums of the rescheduling fit exactly if the last
step is not full.  If an exchange of a negotiation fails and nothing goes wrong in the own application,
and whenever another stage reports the loss of the peer, the session is terminated; the next step is
then the last one, but run control stays as it is if the last step is full.  A negotiation that faults
changes nothing. -/
theorem stop_rescheduled {r : RunControl} (within : r.currentStep ≤ r.lastStep) :
    (r.Fits ↔ r.lastStep < Int32.maxValue) ∧
    (∀ place own t u log result, t.run = r → t.session.isTerminated = false →
      (TimeStep.negotiate place own).Runs t log result u →
      ((∀ e ∈ log, Orderly place.isRoot e) → lossy log = true →
        (∃ dt, result = .ok dt) ∧ u.session.isTerminated = true) ∧
      (u.session.isTerminated = true → r.Rescheduled u.run) ∧
      ∀ fault, result = .error fault → u = t) ∧
    ∀ during c d log result, c.run = r → c.session.isTerminated = false →
      (Controller.disconnect during).Runs c log result d →
      result = .ok () ∧ d.session.isTerminated = true ∧ r.Rescheduled d.run := by
  have down := RunControl.rescheduled_windDown within
  refine ⟨RunControl.fits_iff within, ?_, ?_⟩
  · rintro place own t u log result rfl live run
    rcases TimeStep.negotiate_windsDown live run with
      ⟨rfl, ⟨fault, rfl⟩, wrong⟩ | ⟨⟨dt, rfl⟩, down', lost⟩
    · refine ⟨fun orderly => absurd orderly wrong, fun gone => ?_, fun _ _ => rfl⟩
      exact absurd (live.symm.trans gone) Bool.false_ne_true
    · refine ⟨fun orderly failed => ⟨⟨dt, rfl⟩, lost orderly failed⟩, fun gone => ?_, nofun⟩
      rw [down', if_pos gone]
      exact down
  · rintro during c d log result rfl live run
    obtain ⟨-, rfl, rfl⟩ := Controller.runs_disconnect run
    unfold Controller.lost
    rw [if_neg (Bool.eq_false_iff.1 live)]
    exact ⟨rfl, rfl, down⟩

namespace LateLoss

/-- A peer that is gone. -/
def reply : (request : Request) → request.Reply := Controller.echo Status.disconnected

/-- The third of so many steps. -/
def start (steps : Int32) : TimeStep.Schedule where
  session := { Session.new {} { root := 1 } with iteration := 3 }
  run := { previousStep := 2, currentStep := 3, lastStep := steps, previousTime := 0.0, time := 0.0 }

def whole (steps : Int32) : Log Coupling × Except Fault Float × TimeStep.Schedule :=
  (TimeStep.negotiate {} 0.5 (start steps)).follow reply

theorem runs_whole (steps : Int32) : (TimeStep.negotiate {} 0.5).Runs (start steps) (whole steps).1
    (whole steps).2.1 (whole steps).2.2 := Act.runs_follow (I := Coupling) reply _ _

/-- Of five steps, the fourth is the last one. -/
theorem stop_rescheduled_late :
    lossy (whole 5).1 = true ∧ (whole 5).2.2.session.isTerminated = true ∧
      (whole 5).2.2.run.lastStep.toInt = 3 + 1 := by
  obtain ⟨-, negotiating, -⟩ := stop_rescheduled (r := (start 5).run) (by decide)
  obtain ⟨lost, stops, -⟩ := negotiating {} 0.5 (start 5) _ _ _ rfl rfl (runs_whole 5)
  have orderly : ∀ e ∈ (whole 5).1, Orderly true e := by
    intro e member
    have followed : e = ⟨e.request, reply e.request⟩ := Program.mem_follow member
    exact orderly_of_answers (fun request => by cases request <;> rfl) (fun _ => rfl)
      (fun _ _ _ => rfl) (fun _ _ => rfl) (fun _ own => ⟨own, rfl⟩) followed
  have gone := (lost orderly rfl).2
  exact ⟨rfl, gone, ((stops gone).stop (by decide)).2⟩

/-- As many steps as 32 bits can count are a plan like any other.  The number behind them overflows,
and the loss of the peer in the third step schedules no stop. -/
theorem stop_not_rescheduled :
    (∃ r, RunControl.start Int32.maxValue 0.0 = .ok r ∧ r.lastStep = Int32.maxValue) ∧
      (start Int32.maxValue).run.lastStep.toBitVec.saddOverflow 1 = true ∧
      (TimeStep.negotiate {} 0.5).Runs (start Int32.maxValue) (whole Int32.maxValue).1 (.ok 0.0)
        (whole Int32.maxValue).2.2 ∧
      (start Int32.maxValue).session.isTerminated = false ∧
      lossy (whole Int32.maxValue).1 = true ∧
      (whole Int32.maxValue).2.2.session.isTerminated = true ∧
      (whole Int32.maxValue).2.2.run.currentStep = 3 ∧
      (whole Int32.maxValue).2.2.run.lastStep = Int32.maxValue :=
  ⟨⟨_, rfl, rfl⟩, by decide, runs_whole _, rfl, rfl, rfl, rfl, rfl⟩

end LateLoss

end Coupling

end FluidStructure
