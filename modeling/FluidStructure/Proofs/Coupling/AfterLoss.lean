import FluidStructure.Proofs.Coupling.StepsLeft

/-!
# A run without its peer

The iteration counts the steps that have been begun, and run control has a number for each of them.
So it never wraps round, and is negative only as the mark of a loss.  From the stage that loses the
peer on, whatever operations follow in whatever order, the run is silent and the motion stays.
-/

namespace FluidStructure.Coupling

open FluidStructure.Channel

theorem RunControl.Left.notFull {steps : Int32} {r : RunControl} (h : r.Left steps) :
    r.currentStep ≠ Int32.maxValue := by
  rcases h with within | ⟨-, none, -⟩
  · intro full
    have most := r.lastStep.toInt_le
    rw [full, Int32.lt_iff_toInt_lt] at within
    exact absurd within (Int.not_lt.2 most)
  · rw [none]
    decide

namespace Controller

variable {c d : Controller} {log : Log Coupling} {steps : Int32}

/-! ## What the group hears -/

/-- A broadcast of one number gives rank 0 its own.  Another rank that offers the iteration to come
gets it back, as rank 0 counts alike, or learns that the peer is lost.  Where it has nothing to offer,
as about the parameters, it gets anything. -/
def Faithful (place : Parallel.Place) (e : Exchange Coupling) : Prop :=
  ∀ own values, e = ⟨.broadcastInts [own], .ok values⟩ →
    if place.isRoot then values = [own] else 0 < own → values = [own] ∨ values = [-1]

theorem faithful_echo (place : Parallel.Place) {status : Status} {e : Exchange Coupling}
    (h : e = ⟨e.request, echo status e.request⟩) : Faithful place e := by
  rintro own values rfl
  have same : Except.ok values = Except.ok (ε := Fault) [own] := by
    injection h
  split
  · exact Except.ok.inj same
  · exact fun _ => .inl (Except.ok.inj same)

/-- A negotiation keeps the iteration, goes on to the next one, or marks the loss. -/
theorem iteration_of_negotiate {place : Parallel.Place} {own : Float} {t u : TimeStep.Schedule}
    {result : Except Fault Float} (run : (TimeStep.negotiate place own).Runs t log result u)
    (room : t.session.iteration ≠ Int32.maxValue) (faithful : ∀ e ∈ log, Faithful place e) :
    u.session.iteration = t.session.iteration ∨
      0 ≤ t.session.iteration ∧ u.session.iteration = t.session.iteration + 1 ∨
      u.session.iteration = -1 := by
  unfold Act.Runs at run
  rw [TimeStep.negotiate_apply] at run
  split at run
  · obtain ⟨-, same⟩ := Program.runs_done.1 run
    obtain ⟨-, rfl⟩ := Prod.mk.inj same
    exact .inl rfl
  rename_i there
  have live : 0 ≤ t.session.iteration := Int32.not_lt.1 fun gone => there (decide_eq_true gone)
  obtain ⟨first, proposed, rest, rfl, proposing, settling⟩ := Program.runs_bind.1 run
  obtain ⟨-, ⟨rfl, -⟩ | ⟨dts, iterations, sent, -, rfl⟩⟩ := TimeStep.runs_settle settling
  · exact .inl rfl
  have heard := faithful _ (List.mem_append_right _ sent) _ _ rfl
  -- what is proposed is settled, unless another rank hears of the loss
  rcases TimeStep.runs_proposal proposing with next | ⟨root, mark⟩
  · have settled : iterations = [proposed.1] ∨ iterations = [-1] := by
      split at heard
      · exact .inl heard
      · exact heard (next ▸ zero_lt_add_one live room)
    rcases settled with rfl | rfl
    · exact .inr (.inl ⟨live, next⟩)
    · exact .inr (.inr rfl)
  · rw [if_pos root] at heard
    subst heard
    exact .inr (.inr mark)

/-- A step of an active run ends with the session that it has negotiated. -/
theorem negotiate_of_beginStep {own : Float} {result : Except Fault Float} (turn : c.phase = .active)
    (run : (beginStep own).Runs c log result d) :
    ∃ t, (TimeStep.negotiate c.place own).Runs ⟨c.session, c.run.advance⟩ log result t ∧
      d.session.iteration = t.session.iteration := by
  unfold Act.Runs at run
  rw [beginStep_apply own c turn] at run
  obtain ⟨_, ⟨outcome, t⟩, _, rfl, negotiating, last⟩ := Program.runs_bind.1 run
  cases outcome with
  | ok dt =>
    obtain ⟨rfl, same⟩ := Program.runs_done.1 last
    obtain ⟨rfl, rfl⟩ := Prod.mk.inj same
    exact ⟨t, by rwa [List.append_nil], rfl⟩
  | error fault =>
    obtain ⟨rfl, same⟩ := Program.runs_done.1 last
    obtain ⟨rfl, rfl⟩ := Prod.mk.inj same
    exact ⟨t, by rwa [List.append_nil], rfl⟩

/-! ## The iteration counts the steps -/

/-- The iteration is the mark of the loss, or counts steps that have been begun. -/
def Counted (c : Controller) : Prop :=
  c.session.iteration = -1 ∨ 0 ≤ c.session.iteration ∧ c.session.iteration ≤ c.run.currentStep

theorem Counted.of_same (h : c.Counted) (iteration : d.session.iteration = c.session.iteration)
    (step : d.run.currentStep = c.run.currentStep) : d.Counted := by
  unfold Counted
  rw [iteration, step]
  exact h

theorem Counted.alongside (alongside : c.Alongside d) (h : c.Counted) : d.Counted :=
  h.of_same alongside.iteration (congrArg RunControl.currentStep alongside.run)

theorem Counted.room (h : c.Counted) (room : c.run.currentStep ≠ Int32.maxValue) :
    c.session.iteration ≠ Int32.maxValue := by
  rcases h with mark | ⟨-, within⟩
  · rw [mark]
    decide
  · intro full
    rw [full] at within
    exact Int32.not_lt.2 within (lt_maxValue_iff.2 room)

theorem stagewise_counted : Act.Stagewise (Lasting Counted) where
  toTransitive := lasting Counted
  aside := fun _ => Counted.alongside
  sent := fun _ _ _ => lasting_perform _ _
  received := fun _ _ _ => lasting_perform _ _
  lost := fun _ _ => .inl rfl

theorem counted_begin : Controller.begin.Keeps (Lasting Counted) :=
  (lasting Counted).begin (Act.keeps_modify fun _ => id)
    ((lasting Counted).announce (fun _ => lasting_perform _ _) (fun _ _ _ _ => lasting_perform _ _)
      (fun _ _ _ _ => lasting_perform _ _) (fun _ => lasting_perform _ _)
      (stagewise_counted.disconnect _))
    (Act.keeps_modify fun _ => id)

theorem counted_subIterate : subIterate.Keeps (Lasting Counted) :=
  stagewise_counted.subIterate (fun _ => Counted.alongside) (fun _ _ _ _ => lasting_perform _ _)
    ((lasting Counted).computeForces (fun _ _ _ => lasting_perform _ _) fun _ =>
      Act.keeps_modify fun _ => id)
    (fun _ _ => lasting_perform _ _) (Act.keeps_modify fun _ => id)

theorem counted_endStep : Controller.endStep.Keeps (Lasting Counted) := by
  refine Act.keeps_get_bind fun c log result d run => ?_
  dsimp only at run
  split at run
  · exact (lasting Counted).fail _ _ _ _ _ run
  · obtain ⟨-, -, rfl⟩ := Act.runs_set.1 run
    exact id

theorem counted_finish : finish.Keeps (Lasting Counted) := by
  intro c log result d run counted
  obtain ⟨-, again, first⟩ := runs_finish run
  by_cases closed : c.phase = .closed
  · rw [(again closed).2]
    exact counted
  · rw [(first closed).2]
    exact counted.of_same (Session.iteration_release _) rfl

/-- An active run has a step left, so that there is a number for the step and the iteration. -/
theorem Counted.beginStep {own : Float} {result : Except Fault Float} (h : c.Counted)
    (provided : c.Provided steps) (run : (beginStep own).Runs c log result d)
    (faithful : ∀ e ∈ log, Faithful c.place e) : d.Counted := by
  by_cases turn : c.phase = .active
  case neg =>
    obtain ⟨-, rfl, -⟩ := refused turn run
    exact h
  have room := (provided.active turn).notFull
  obtain ⟨t, negotiating, iteration⟩ := negotiate_of_beginStep turn run
  have step : d.run.currentStep = c.run.currentStep + 1 :=
    (busy_of_beginStep (P := fun r => r.currentStep = c.run.currentStep + 1)
      (fun r same => r.currentStep_windDown.trans same) turn rfl run).2
  unfold Counted
  rw [iteration, step]
  rcases iteration_of_negotiate negotiating (h.room room) faithful with kept | ⟨live, next⟩ | mark
  · rw [kept]
    exact h.imp_right fun counts => ⟨counts.1, Int32.le_of_lt ((lt_add_one_iff room).2 counts.2)⟩
  · rw [next]
    have counts : c.session.iteration ≤ c.run.currentStep := by
      refine (h.resolve_left fun mark => ?_).2
      rw [show (⟨c.session, c.run.advance⟩ : TimeStep.Schedule).session.iteration = -1 from mark]
        at live
      exact absurd live (by decide)
    exact .inr ⟨Int32.le_of_lt (zero_lt_add_one live (h.room room)), add_one_le_add_one room counts⟩
  · exact .inl mark

theorem Counted.runStep {own : Float} {result : Except Fault Float} (h : c.Counted)
    (provided : c.Provided steps) (run : (runStep own).Runs c log result d)
    (faithful : ∀ e ∈ log, Faithful c.place e) : d.Counted := by
  have along := lasting Counted
  rcases Act.runs_bind.1 run with ⟨_, _, e, _, rfl, beginning, onward⟩ | ⟨_, -, beginning⟩
  · refine along.bind along.get (fun _ => ?_) _ _ _ _ onward
      (h.beginStep provided beginning fun x member => faithful x (List.mem_append_left _ member))
    exact along.bind (along.subIterateAtMost counted_subIterate _) fun _ =>
      along.bind (Act.keeps_modify fun _ => id) fun _ => along.bind along.get fun _ =>
      along.bind (along.noteIf (fun _ => lasting_perform _ _) _ _) fun _ =>
      along.pure _
  · exact h.beginStep provided beginning faithful

/-- Whatever the caller does, the iteration counts steps that have been begun, or marks the loss. -/
theorem Counted.operation {operation : Operation} {outcome : Except Fault Answer} (h : c.Counted)
    (provided : c.Provided steps) (run : operation.perform.Runs c log outcome d)
    (faithful : ∀ e ∈ log, Faithful c.place e) : d.Counted := by
  cases operation with
  | begin =>
    obtain ⟨_, begun, -⟩ := Act.runs_bind_pure.1 run
    exact counted_begin _ _ _ _ begun h
  | beginStep own =>
    obtain ⟨_, begun, -⟩ := Act.runs_bind_pure.1 run
    exact h.beginStep provided begun faithful
  | runStep own =>
    obtain ⟨_, made, -⟩ := Act.runs_bind_pure.1 run
    exact h.runStep provided made faithful
  | endStep =>
    obtain ⟨_, ended, -⟩ := Act.runs_bind_pure.1 run
    exact counted_endStep _ _ _ _ ended h
  | finish =>
    obtain ⟨_, ended, -⟩ := Act.runs_bind_pure.1 run
    exact counted_finish _ _ _ _ ended h
  | sendForces | receiveDisplacement | predictDisplacement _ | exchangeConvergence | saveValues =>
    exact keeps_stage stagewise_counted (fun _ => Counted.alongside)
      (fun _ _ _ _ => lasting_perform _ _) rfl _ _ _ _ run h

/-- The same over the operations of a caller. -/
theorem counted_of_history {records : List Record} (planned : 0 ≤ steps) (h : c.Counted)
    (provided : c.Provided steps) (history : History c records d)
    (faithful : ∀ e ∈ records.flatMap Record.log, Faithful c.place e) :
    d.Counted ∧ d.Provided steps := by
  induction history with
  | nil => exact ⟨h, provided⟩
  | @cons c d e record records run later ih =>
    have place := (stays_perform _ _ _ _ _ run).place
    refine ih (h.operation provided run fun x member => ?_) (provided.operation planned run)
      fun x member => ?_
    · exact faithful x (List.mem_append_left _ member)
    · rw [place]
      exact faithful x (List.mem_append_right _ member)

/-! ## The stage that loses the peer -/

section Losing

variable {c₀ : Controller} {before losing : Log Coupling} {operation : Operation} {α : Type}
  {act : Act Coupling Controller α} {next : α → Course Coupling Controller Answer}
  {outcome : Except Fault α}

theorem runs_through (reached : operation.course.Reaches c₀ before (.stage act next) c)
    (stage : act.Runs c losing outcome d) {e : Controller} {result : Except Fault Answer}
    (rest : (Course.after next outcome).toAct.Runs d log result e) :
    operation.perform.Runs c₀ (before ++ (losing ++ log)) result e := by
  have onward := (Course.Reaches.later stage (.here _ _)).runs rest
  rw [List.append_nil] at onward
  rw [← Operation.toAct_course]
  exact reached.runs onward

theorem quiet_after (reached : operation.course.Reaches c₀ before (.stage act next) c)
    (outcome : Except Fault α) : (Course.after next outcome).All fun act => act.Keeps Quiet :=
  Course.All.after ((quiet_tail operation).reached reached) outcome

/-- The rest of the operation, whatever it is, keeps the iteration, and its end bears the mark. -/
theorem iteration_of_loss (counted : c₀.Counted) (provided : c₀.Provided steps)
    (reached : operation.course.Reaches c₀ before (.stage act next) c)
    (stage : act.Runs c losing outcome d) (lost : d.session.iteration < 0) (orphaned : d.Orphaned)
    (faithful : ∀ x ∈ before ++ losing, Faithful c₀.place x) : d.session.iteration = -1 := by
  have rest := Program.runs_follow (echo Status.ok) ((Course.after next outcome).toAct d)
  have kept := ((quiet_after reached outcome).keeps quiet _ _ _ _ rest orphaned).2.iteration
  have counts := counted.operation provided (runs_through reached stage rest) fun x member => by
    rw [← List.append_assoc] at member
    rcases List.mem_append.1 member with member | member
    · exact faithful x member
    · exact faithful_echo c₀.place (Program.mem_follow member)
  unfold Counted at counts
  rw [kept] at counts
  exact counts.resolve_right fun counts => absurd lost (Int32.not_lt.2 counts.1)

end Losing

end Controller

open Controller

/-- From the stage that loses the peer on, at every moment of the operation and of any further
operations: the iteration is the mark of the loss, no transport call has been made, nothing has
been handed to the fluid solver, and the movement is that before the loss until its release. -/
theorem silent_after_loss {steps : Int32} {time : Float} {start c₀ c d e : Controller}
    {earlier records : List Record} {operation : Operation} {α : Type}
    {act : Act Coupling Controller α} {next : α → Course Coupling Controller Answer}
    {outcome : Except Fault α} {before losing after : Log Coupling}
    (fresh : start.phase = .uninitialized) (unbegun : start.session.iteration = 0)
    (started : RunControl.start steps time = .ok start.run)
    (found : start.session.isDryRun = false) (history : History start earlier c₀)
    (reached : operation.course.Reaches c₀ before (.stage act next) c)
    (live : 0 ≤ c.session.iteration) (stage : act.Runs c losing outcome d)
    (lost : d.session.iteration < 0)
    (faithful : ∀ x ∈ earlier.flatMap Record.log ++ (before ++ losing), Faithful start.place x)
    (later : Later (Course.after next outcome) d records after e) :
    d.session.iteration = -1 ∧ e.session.iteration = -1 ∧ calls (losing ++ after) = [] ∧
      (∀ x ∈ losing ++ after, x.request.imposesDisplacement = false) ∧
      (e.session.released = true ∨ e.session.movement = c.session.movement) ∧
      ∀ r ∈ records, r.Muted := by
  obtain ⟨planned, none⟩ := RunControl.unbegun_of_start started
  have past := stays_history history
  obtain ⟨counted, provided⟩ := counted_of_history planned (c := start)
    (.inr (by rw [unbegun, none.1]; decide)) ⟨fun _ => none, fun turn => by cases fresh.symm.trans turn⟩
    history fun x member => faithful x (List.mem_append_left _ member)
  have aware : c.session.isTerminated = false := live_iff.2 live
  have gone : d.session.isTerminated = true := gone_iff.2 lost
  have onward := (stays_course operation).kept stays reached
  have aware₀ := (onward.lastStep_of_live aware).1
  have falling := ((stays_course operation).reached reached).1 _ _ _ _ stage
  have orphaned : d.Orphaned := by
    refine ⟨?_, gone⟩
    unfold Session.isDryRun at found ⊢
    rw [falling.peer, onward.peer, past.peer]
    exact found
  obtain ⟨asked, frozen⟩ := ((falls_course operation).reached reached).1 _ _ _ _ stage aware gone
  have quiets := quiet_after reached outcome
  have begins (log result f) (run : (Course.after next outcome).toAct.Runs d log result f) :
      f.Begun := by
    have still := (quiets.keeps quiet _ _ _ _ run orphaned).2
    exact begun_of_loss (runs_through reached stage run) aware₀ still.orphaned.gone
  have mark : d.session.iteration = -1 := by
    refine iteration_of_loss counted provided reached stage lost orphaned fun x member => ?_
    rw [past.place]
    exact faithful x (List.mem_append_right _ member)
  obtain ⟨silent, still, muted⟩ := calm_of_later later quiets orphaned begins
  have all := (Silent.of_local asked).append silent
  refine ⟨mark, still.iteration.trans mark, ?_, fun x member => (all x member).2,
    (frozen.trans still.toFrozen).movement, muted⟩
  exact List.filterMap_eq_nil_iff.2 fun x member => (all x member).1

namespace FailedHandshake

/-- Rank 0 of two has not got its parameters through, and tells the other. -/
def reply : (request : Request) → request.Reply
  | .broadcastInts _ => .ok [Status.protocolError]
  | request => echo Status.ok request

/-- The other rank. -/
def start : Controller where
  place := { rank := 1, size := 2 }
  session := EchoedRun.registered.2.2
  run := { lastStep := 10, previousTime := 0.0, time := 0.0 }

def offered : Log Coupling × Except Fault Status × Controller :=
  (offerParameters start).follow reply

def heeded : Log Coupling × Except Fault Unit × Controller :=
  (heed Status.protocolError "parameter exchange" offered.2.2).follow reply

def rest : Course Coupling Controller Answer :=
  Course.of (setPhase .active) >>= fun _ => pure .nothing

def begun : Log Coupling × Except Fault Answer × Controller := (rest.toAct heeded.2.2).follow reply

def stepped : List Record × Controller := Controller.follow reply [.runStep 0.5] begun.2.2

/-- The beginning of the run, followed by a step. -/
theorem silent_after_failed_handshake :
    heeded.2.2.session.iteration = -1 ∧ stepped.2.session.iteration = -1 ∧
      calls (heeded.1 ++ (begun.1 ++ stepped.1.flatMap Record.log ++ [])) = [] ∧
      (∀ x ∈ heeded.1 ++ (begun.1 ++ stepped.1.flatMap Record.log ++ []),
        x.request.imposesDisplacement = false) ∧
      (stepped.2.session.released = true ∨
        stepped.2.session.movement = offered.2.2.session.movement) ∧
      ∀ r ∈ stepped.1, r.Muted := by
  have faithful : ∀ x ∈ [].flatMap Record.log ++ (offered.1 ++ heeded.1), Faithful start.place x := by
    intro x member
    obtain rfl := List.mem_singleton.1 (show x ∈ [⟨.broadcastInts [0], .ok [-2]⟩] from member)
    intro own values same
    injection same with asked
    obtain rfl : (0 : Int32) = own := by injection asked with asked; injection asked
    exact fun positive => absurd positive (by decide)
  have offering := Act.runs_follow (I := Coupling) reply offerParameters start
  have heeding := Act.runs_follow (I := Coupling) reply
    (heed Status.protocolError "parameter exchange") offered.2.2
  have beginning := Act.runs_follow (I := Coupling) reply rest.toAct heeded.2.2
  have reached : Operation.begin.course.Reaches start (offered.1 ++ [])
      (.stage (heed Status.protocolError "parameter exchange") fun _ => rest) offered.2.2 :=
    .later offering (.here _ _)
  exact silent_after_loss rfl rfl (rfl : RunControl.start 10 0.0 = .ok start.run) rfl (.nil start)
    reached (by decide) heeding (by decide) (by rwa [List.append_nil])
    (.beyond beginning (history_follow reply [.runStep 0.5] begun.2.2)
      (.here (Operation.course .saveValues) _))

end FailedHandshake

end FluidStructure.Coupling
