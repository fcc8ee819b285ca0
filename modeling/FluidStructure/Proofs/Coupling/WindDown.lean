import FluidStructure.Proofs.Coupling.LastStep
import FluidStructure.Proofs.Coupling.Standing

/-!
# The last step of a run

A run without failures makes as many steps as planned.  After the first failure, wherever it
occurs, exactly one more step is begun, so that the number of steps depends on nothing but the step
of that failure.
-/

namespace FluidStructure.Coupling

open FluidStructure.Channel FluidStructure.Journal

/-- How many steps a run makes: those asked for, or one more than the step in which an exchange
fails first.  The first log is that of the beginning, which counts as step 0. -/
def planned (steps : Int32) (logs : List (Log Coupling)) : Nat :=
  (logs.findIdx? lossy).elim steps.toNatClampNeg (· + 1)

variable {steps : Int32} {before : List (Log Coupling)} {log : Log Coupling}

theorem findIdx?_of_calm (calm : before.any lossy = false) : before.findIdx? lossy = none :=
  List.findIdx?_eq_none_iff.2 fun log member =>
    Bool.eq_false_iff.2 (List.any_eq_false.1 calm log member)

theorem planned_of_calm (steps : Int32) (calm : before.any lossy = false) :
    planned steps before = steps.toNatClampNeg := by
  unfold planned
  rw [findIdx?_of_calm calm]
  rfl

/-- The first failure decides; later ones change nothing. -/
theorem planned_append_of_lossy (steps : Int32) (log : Log Coupling)
    (failed : before.any lossy = true) :
    planned steps (before ++ [log]) = planned steps before := by
  obtain ⟨n, found⟩ := Option.isSome_iff_exists.1
    (List.findIdx?_isSome.trans failed : (before.findIdx? lossy).isSome = true)
  unfold planned
  rw [List.findIdx?_append, found]
  rfl

theorem planned_append_of_first (steps : Int32) (calm : before.any lossy = false)
    (failed : lossy log = true) : planned steps (before ++ [log]) = before.length + 1 := by
  unfold planned
  rw [List.findIdx?_append, findIdx?_of_calm calm, List.findIdx?_cons, failed]
  simp

theorem natCast_toNatClampNeg {i : Int32} (h : 1 ≤ i) : (i.toNatClampNeg : Int) = i.toInt := by
  have positive := Int32.le_iff_toInt_le.1 h
  have one : (1 : Int32).toInt = 1 := rfl
  unfold Int32.toNatClampNeg
  omega

theorem planned_pos (some : 1 ≤ steps) (before : List (Log Coupling)) :
    0 < planned steps before := by
  have positive := Int32.le_iff_toInt_le.1 some
  have one : (1 : Int32).toInt = 1 := rfl
  have same := natCast_toNatClampNeg some
  unfold planned
  cases before.findIdx? lossy with
  | none =>
    show 0 < steps.toNatClampNeg
    omega
  | some n => exact Nat.succ_pos n

namespace Standing

/-- The step at which a run is wound down lies one ahead. -/
theorem lastStep_lost {s : Standing} (live : s.isGone = false)
    (room : s.run.lastStep < Int32.maxValue)
    (early : s.run.currentStep ≤ s.run.lastStep) :
    s.lost.run.lastStep = s.run.currentStep + 1 := by
  unfold lost
  rw [live, if_neg (by decide), RunControl.windDown_of_le room early]
  rfl

end Standing

open Controller

variable {c d e : Controller} {first : Log Coupling} {laps : List Lap} {lap : Lap}

/-- A run with these logs, of the beginning and of each step, keeps to its plan. -/
structure OnPlan (steps : Int32) (before : List (Log Coupling)) (d : Controller) : Prop where
  last : d.run.lastStep.toInt = planned steps before
  within : before.length ≤ planned steps before + 1
  bound : planned steps before ≤ steps.toNatClampNeg + 1

/-- A step is made in which no exchange fails for the first time. -/
theorem OnPlan.append (plan : OnPlan steps before d) (left : before.length ≤ planned steps before)
    (same : planned steps (before ++ [log]) = planned steps before)
    (last : e.run.lastStep = d.run.lastStep) : OnPlan steps (before ++ [log]) e := by
  refine ⟨?_, ?_, ?_⟩
  · rw [last, same]
    exact plan.last
  · rw [same, List.length_append]
    exact Nat.succ_le_succ left
  · rw [same]
    exact plan.bound

/-- A step is made in which an exchange fails for the first time. -/
theorem onPlan_append_of_first (calm : before.any lossy = false) (failed : lossy log = true)
    (left : before.length ≤ steps.toNatClampNeg) (last : e.run.lastStep.toInt = before.length + 1) :
    OnPlan steps (before ++ [log]) e := by
  have plan := planned_append_of_first steps calm failed
  refine ⟨?_, ?_, ?_⟩
  · rw [last, plan]
    rfl
  · rw [plan, List.length_append]
    exact Nat.le_succ _
  · rw [plan]
    exact Nat.succ_le_succ left

/-- A run is active as long as there are steps left. -/
theorem Underway.phase_eq (h : Underway c first laps d) (plan : OnPlan steps (logs first laps) d)
    (some : 1 ≤ steps) : d.phase =
      if laps.length < planned steps (logs first laps) then .active else .terminating := by
  rw [h.phase]
  by_cases left : laps.length < planned steps (logs first laps)
  · have onward : d.run.isLastStep = false := by
      refine decide_eq_false (Int32.not_le.2 (Int32.lt_iff_toInt_lt.2 ?_))
      rw [h.current, plan.last]
      exact Int.ofNat_lt.2 left
    rw [onward, Bool.and_false, if_pos left]
    rfl
  · have done : d.run.isLastStep = true := by
      refine decide_eq_true (Int32.le_iff_toInt_le.2 ?_)
      rw [h.current, plan.last]
      exact Int.ofNat_le.2 (Nat.le_of_not_lt left)
    have made : laps.isEmpty = false := by
      cases laps with
      | nil => exact absurd (planned_pos some _) left
      | cons => rfl
    rw [done, made, if_neg left]
    rfl

theorem Underway.unfinished (h : Underway c first laps d) (plan : OnPlan steps (logs first laps) d)
    (some : 1 ≤ steps) (turn : d.phase = .active) :
    laps.length < planned steps (logs first laps) := by
  refine Decidable.byContradiction fun none => ?_
  rw [h.phase_eq plan some, if_neg none] at turn
  cases turn

theorem onPlan_opened (registered : c.Registered) (start : c.run.lastStep = steps)
    (some : 1 ≤ steps) (room : steps < Int32.maxValue) (first : Log Coupling) :
    OnPlan steps (logs first []) (c.opened (lossy first)) := by
  have same := natCast_toNatClampNeg some
  have last : (c.opened (lossy first)).run.lastStep =
      (c.standing.after (lossy first)).run.lastStep :=
    congrArg (fun s => s.run.lastStep) (standing_opened c _)
  cases failed : lossy first with
  | false =>
    have calm : (logs first []).any lossy = false := (Bool.or_false _).trans failed
    have plan := planned_of_calm steps calm
    rw [failed, Standing.after_false] at last
    refine ⟨?_, Nat.succ_le_succ (Nat.zero_le _), ?_⟩
    · rw [last, plan, same]
      exact congrArg Int32.toInt start
    · rw [plan]
      exact Nat.le_succ _
  | true =>
    have live : c.standing.isGone = false := registered.live
    have early : c.run.currentStep ≤ c.run.lastStep := by
      rw [registered.current, start, Int32.le_iff_toInt_le, ← same]
      exact Int.natCast_nonneg _
    have stop : c.standing.lost.run.lastStep = c.run.currentStep + 1 :=
      Standing.lastStep_lost live (start ▸ room) early
    rw [failed] at last
    have second : (c.opened true).run.lastStep.toInt = 1 := by
      rw [last, Standing.after, if_pos rfl, stop, registered.current]
      rfl
    exact (onPlan_append_of_first rfl failed (Nat.zero_le _) second :
      OnPlan steps ([] ++ [first]) (c.opened true))

/-- The step of a lap keeps to the plan, whether an exchange fails in it or not. -/
theorem Underway.onPlan (h : Underway c first laps d) (some : 1 ≤ steps)
    (room : steps < Int32.maxValue) (turn : d.phase = .active)
    (plan : OnPlan steps (logs first laps) d)
    (lapped : Lapped d (carried lap.log) (lossy lap.log) lap.dt e) :
    OnPlan steps (logs first (laps ++ [lap])) e := by
  have left : (logs first laps).length ≤ planned steps (logs first laps) := by
    rw [length_logs]
    exact h.unfinished plan some turn
  have last := (lapped.standing (h.room turn)).2.2.1
  have gone : d.standing.begun.isGone = (logs first laps).any lossy := by
    rw [Standing.isGone_begun (h.room turn), isGone_standing, h.gone]
  rw [logs_append]
  cases failed : (logs first laps).any lossy with
  | true =>
    rw [Standing.after_of_isGone (gone.trans failed)] at last
    exact plan.append left (planned_append_of_lossy steps _ failed) last
  | false =>
    have whole := planned_of_calm steps failed
    cases fails : lossy lap.log with
    | false =>
      have calm : (logs first laps ++ [lap.log]).any lossy = false := by
        rw [List.any_append, failed, List.any_cons, fails]
        rfl
      rw [fails, Standing.after_false] at last
      exact plan.append left ((planned_of_calm steps calm).trans whole.symm) last
    | true =>
      have same := natCast_toNatClampNeg some
      have top : steps.toInt < Int32.maxValue.toInt := Int32.lt_iff_toInt_lt.1 room
      have limit : d.standing.begun.run.lastStep.toInt = steps.toNatClampNeg :=
        plan.last.trans (congrArg Nat.cast whole)
      have begun : d.standing.begun.run.currentStep.toInt = (logs first laps).length := by
        rw [length_logs]
        exact (toInt_add_one (h.notFull turn)).trans (congrArg (· + 1) h.current)
      rw [whole] at left
      have bounded : d.standing.begun.run.lastStep < Int32.maxValue :=
        Int32.lt_iff_toInt_lt.2 (by omega)
      have early : d.standing.begun.run.currentStep ≤ d.standing.begun.run.lastStep :=
        Int32.le_iff_toInt_le.2 (by omega)
      have stop := Standing.lastStep_lost (gone.trans failed) bounded early
      have notFull := RunControl.notFull_of_le bounded early
      rw [fails] at last
      refine onPlan_append_of_first failed fails left ?_
      rw [last.trans stop, toInt_add_one notFull, begun]

/-! ## What the solver sees -/

namespace Controller

variable {bad : Bool} {s : Session} {r : RunControl} {buffer : List Float}
  {reply : Except Fault Unit × List Float}

theorem ForcesSent.computesForces (h : ForcesSent c log d) {x : Exchange Coupling}
    (member : x ∈ log) : x.request.computesForces = false := by
  cases h with
  | gone => cases member
  | dry => cases member
  | sent =>
    obtain rfl := List.mem_singleton.1 member
    rfl

theorem MotionReceived.computesForces (h : MotionReceived c log d) {x : Exchange Coupling}
    (member : x ∈ log) : x.request.computesForces = false := by
  cases h with
  | dry => cases member
  | gone => cases member
  | first =>
    obtain rfl := List.mem_singleton.1 member
    rfl
  | both =>
    rcases List.mem_cons.1 member with rfl | member
    · rfl
    · obtain rfl := List.mem_singleton.1 member
      rfl

theorem computesForces_imposition {x : Exchange Coupling} (member : x ∈ c.imposition) :
    x.request.computesForces = false := by
  unfold imposition at member
  split at member
  · cases member
  · obtain rfl := List.mem_singleton.1 member
    rfl

theorem SubIterated.shown {last : Bool} (h : SubIterated c log bad last d)
    (member : ⟨.computeForces s r buffer, reply⟩ ∈ log) : s = c.session ∧ r = c.run := by
  cases h with
  | stages forces motion flag =>
    rcases List.mem_cons.1 member with same | later
    · cases same
      exact ⟨rfl, rfl⟩
    · have other : (Request.computeForces s r buffer).computesForces = false := by
        rcases List.mem_append.1 later with exchanged | imposed
        · rcases List.mem_append.1 exchanged with sent | received
          · exact forces.computesForces sent
          · exact motion.computesForces received
        · exact computesForces_imposition imposed
      cases other

/-- The solver sees the run as it stands before the sub-iteration. -/
theorem SubIterations.shown {n : Nat} (h : SubIterations n c log bad d)
    (member : ⟨.computeForces s r buffer, reply⟩ ∈ log) :
    ∃ failed, (⟨s.iteration, r⟩ : Standing) = c.standing.after failed := by
  induction h with
  | spent => cases member
  | last sub =>
    obtain ⟨rfl, rfl⟩ := sub.shown member
    exact ⟨false, rfl⟩
  | @again _ _ _ _ _ _ bad _ sub _ ih =>
    rcases List.mem_append.1 member with here | later
    · obtain ⟨rfl, rfl⟩ := sub.shown here
      exact ⟨false, rfl⟩
    · obtain ⟨failed, same⟩ := ih later
      exact ⟨bad || failed, by rw [same, sub.standing, Standing.after_after]⟩

theorem Lapped.shown {dt : Float} (h : Lapped c log bad dt d) (room : c.standing.Room)
    (member : ⟨.computeForces s r buffer, reply⟩ ∈ log) :
    ∃ failed, (⟨s.iteration, r⟩ : Standing) = c.standing.begun.after failed := by
  cases h with
  | @stages bad _ _ _ _ begun subs =>
    obtain ⟨failed, same⟩ := subs.shown member
    exact ⟨bad || failed, by rw [same, begun.standing room, Standing.after_after]⟩

end Controller

/-- Whenever the solver is asked for forces, that is the step, and the iteration as well unless the
peer is gone. -/
def Shown (count : Nat) (log : Log Coupling) : Prop :=
  ∀ (s : Session) (r : RunControl) (buffer : List Float)
      (reply : Except Fault Unit × List Float), ⟨.computeForces s r buffer, reply⟩ ∈ log →
    r.currentStep.toInt = count ∧ (s.isTerminated = false → s.iteration.toInt = count)

/-- What the solver sees in a step, after the earlier ones. -/
def ShownAfter (earlier : List Lap) (lap : Lap) : Prop := Shown (earlier.length + 1) lap.log

theorem Underway.shown (h : Underway c first laps d) (turn : d.phase = .active)
    (lapped : Lapped d (carried lap.log) (lossy lap.log) lap.dt e) :
    ShownAfter laps lap := by
  intro s r buffer reply member
  obtain ⟨failed, same⟩ := lapped.shown (h.room turn) (List.mem_filter.2 ⟨member, rfl⟩)
  have begun : d.standing.begun.run.currentStep.toInt = laps.length + 1 :=
    (toInt_add_one (h.notFull turn)).trans (congrArg (· + 1) h.current)
  have run : r.currentStep = d.standing.begun.run.currentStep :=
    (congrArg (fun s => s.run.currentStep) same).trans (Standing.currentStep_after _ _)
  refine ⟨(congrArg Int32.toInt run).trans begun, fun live => ?_⟩
  have there : (d.standing.begun.after failed).isGone = false := by
    rw [← same]
    exact live
  rw [Standing.isGone_after, Bool.or_eq_false_iff] at there
  obtain ⟨onward, fine⟩ := there
  have before : d.standing.isGone = false := (Standing.isGone_begun (h.room turn)).symm.trans onward
  have counted : s.iteration = d.session.iteration + 1 := by
    refine (congrArg Standing.iteration same).trans ?_
    rw [fine, Standing.after_false, Standing.begun_of_live before]
    rfl
  rw [counted, (h.live before).1]
  exact begun

/-! ## Drivers as callers -/

/-- A driver is a caller that begins, and runs and ends one step after the other. -/
theorem Driven.history (h : Driven c first laps d) :
    ∃ records, History c records d ∧
      records.flatMap Record.log = (logs first laps).flatten := by
  induction h with
  | @begun d run =>
    have begins : Operation.begin.perform.Runs c first (.ok .nothing) d :=
      Act.runs_bind_pure.2 ⟨_, run, rfl⟩
    exact ⟨[⟨.begin, first, .ok .nothing⟩], .cons begins (.nil d), by simp [logs]⟩
  | @lap log laps d e own dt _ _ run ih =>
    obtain ⟨records, history, same⟩ := ih
    rcases Act.runs_bind.1 run with ⟨stepping, length, f, _, rfl, stepped, ending⟩ | ⟨_, wrong, -⟩
    · rcases Act.runs_bind.1 ending with ⟨closing, _, g, _, rfl, ended, gives⟩ | ⟨_, wrong, -⟩
      · obtain ⟨rfl, -, rfl⟩ := Act.runs_pure.1 gives
        have steps : (Operation.runStep own).perform.Runs d stepping (.ok (.step length)) f :=
          Act.runs_bind_pure.2 ⟨_, stepped, rfl⟩
        have ends : Operation.endStep.perform.Runs f closing (.ok .nothing) e :=
          Act.runs_bind_pure.2 ⟨_, ended, rfl⟩
        refine ⟨records ++ [⟨.runStep own, stepping, .ok (.step length)⟩,
          ⟨.endStep, closing, .ok .nothing⟩],
          history.append (.cons steps (.cons ends (.nil e))), ?_⟩
        rw [logs_append, List.flatMap_append, same, List.flatten_append]
        simp
      · cases wrong
    · cases wrong

theorem stays_history {records : List Record} (h : History c records d) :
    c.Stays (records.flatMap Record.log) d := by
  induction h with
  | nil => exact stays.refl _
  | @cons c d _ record _ run _ ih =>
    exact stays.trans _ _ _ _ _ (stays_perform record.operation _ _ _ _ run) ih

theorem stays_later {left : Course Coupling Controller Answer} {records : List Record}
    (kept : left.All fun act => act.Keeps Stays) (h : Later left c records log d) :
    c.Stays log d := by
  cases h with
  | within reached => exact kept.kept stays reached
  | @beyond _ _ _ d e _ _ operation _ ended history reached =>
    have done := kept.keeps stays _ _ _ _ ended
    have last := (stays_course operation).kept stays reached
    exact stays.trans _ _ _ _ _ (stays.trans _ _ _ _ _ done (stays_history history)) last

/-! ## Whole runs -/

/-- What a driver has reached after some laps. -/
structure Reached (steps : Int32) (first : Log Coupling) (laps : List Lap) (d : Controller) :
    Prop where
  within : laps.length ≤ planned steps (logs first laps)
  phase : d.phase =
    if laps.length < planned steps (logs first laps) then .active else .terminating
  last : d.run.lastStep.toInt = planned steps (logs first laps)
  current : d.run.currentStep.toInt = laps.length
  gone : d.session.isTerminated = (logs first laps).any lossy
  iteration : d.session.isTerminated = false → d.session.iteration.toInt = laps.length
  shown : ∀ i lap, laps[i]? = some lap → Shown (i + 1) lap.log

theorem Driven.reached (registered : c.Registered) (start : c.run.lastStep = steps)
    (least : 1 ≤ steps) (room : steps < Int32.maxValue) (driven : Driven c first laps d)
    (orderly : AllOrderly c.place (logs first laps)) :
    Underway c first laps d ∧ OnPlan steps (logs first laps) d ∧ Reached steps first laps d := by
  obtain ⟨underway, plan, shown⟩ := Driven.induct (P := fun laps d =>
      OnPlan steps (logs first laps) d ∧ ∀ i lap, laps[i]? = some lap →
        ShownAfter (laps.take i) lap)
    registered ⟨onPlan_opened registered start least room first, fun i lap found => by cases found⟩
    (fun laps lap d e underway turn lapped so =>
      ⟨underway.onPlan least room turn so.1 lapped,
        forall_laps_append so.2 (underway.shown turn lapped)⟩)
    driven orderly
  refine ⟨underway, plan, ?_, underway.phase_eq plan least, plan.last, underway.current,
    underway.gone, fun live => ?_, fun i lap found => ?_⟩
  · have within := plan.within
    rw [length_logs] at within
    exact Nat.le_of_succ_le_succ within
  · rw [(underway.live live).1]
    exact underway.current
  · have inside := (List.getElem?_eq_some_iff.1 found).1
    have here : Shown ((laps.take i).length + 1) lap.log := shown i lap found
    rw [List.length_take_of_le (Nat.le_of_lt inside)] at here
    exact here

/-- A driver makes as many steps as planned and ends: all of them if no exchange fails, and one more
after the first failure, wherever it occurs.  The last step of the run changes at most once, with
the loss of the peer; as long as the peer is there, the iteration is the number of steps begun. -/
theorem winds_down {place : Parallel.Place} {peer : Discovery.Peer} {parameters : Parameters}
    {surface : Surface} {length : Float} {steps : Int32} {time : Float} {session : Session}
    {run : RunControl} {registering : Log Coupling} (positive : (0.0 : Float) < length)
    (registered : (Session.register place surface length).Runs (Session.new parameters peer)
      registering (.ok ()) session)
    (started : RunControl.start steps time = .ok run) (least : 1 ≤ steps)
    (room : steps < Int32.maxValue) :
    (∀ log result d, Controller.begin.Runs { place, session, run } log result d →
      AllOrderly place [log] → result = .ok ()) ∧
    (∀ first laps d, Driven { place, session, run } first laps d →
      AllOrderly place (logs first laps) →
      Reached steps first laps d ∧
      (∀ n, (logs first laps).findIdx? lossy = some n → n ≤ steps.toNatClampNeg) ∧
      (∀ own log result e, d.phase = .active → (Controller.lap own).Runs d log result e →
        AllOrderly place [log] → ∃ dt, result = .ok dt) ∧
      ∃ records, History { place, session, run } records d ∧
        records.flatMap Record.log = (logs first laps).flatten) ∧
    ∀ records d (operation : Operation) log left e, History { place, session, run } records d →
      operation.course.Reaches d log left e →
      (e.session.isTerminated = false → e.run.lastStep = steps) ∧
      ∀ more later f, Later left e more later f → e.session.isTerminated = true →
        f.session.isTerminated = true ∧ f.run.lastStep = e.run.lastStep := by
  obtain ⟨fresh, start, same⟩ := registered_of_register registered started
  have fair : ({ place, session, run } : Controller).Assessable := by
    intro _
    rw [show ({ place, session, run } : Controller).session.referenceLength = length from same]
    exact positive
  refine ⟨fun log result d begins orderly => ?_, fun first laps d driven orderly => ?_,
    fun records d operation log left e history reached => ⟨fun live => ?_, ?_⟩⟩
  · exact (runs_begin fresh.phase fresh.registered begins
      (orderly log List.mem_cons_self)).1
  · obtain ⟨underway, plan, so⟩ := driven.reached fresh start least room orderly
    refine ⟨so, fun n found => ?_, fun own log result e turn lapping calm => ?_, driven.history⟩
    · have bound := plan.bound
      unfold planned at bound
      rw [found] at bound
      exact Nat.le_of_succ_le_succ bound
    · have here := calm log List.mem_cons_self
      rw [← show d.place = place from underway.kin.place] at here
      exact (runs_lap turn (underway.room turn) underway.sound (underway.kin.assessable.2 fair)
        lapping here).imp fun _ => And.left
  · have kept := stays.trans _ _ _ _ _ (stays_history history)
      ((stays_course operation).kept stays reached)
    exact (kept.lastStep (live.trans fresh.live.symm)).trans start
  · intro more later f after gone
    have kept := stays_later ((stays_course operation).reached reached) after
    exact ⟨kept.gone gone, kept.lastStep ((kept.gone gone).trans gone.symm)⟩

/-- A group of one in which nothing faults is orderly. -/
theorem orderly_of_answers {root : Bool} {reply : (request : Request) → request.Reply}
    (sound : ∀ request : Request, request.faults (reply request) = false)
    (shared : ∀ own, reply (.broadcastInts own) = .ok own)
    (computed : ∀ session run buffer, (reply (.computeForces session run buffer)).1 = .ok ())
    (imposed : ∀ session values, reply (.imposeDisplacement session values) = .ok ())
    (asked : ∀ session own, ∃ peer, reply (.peerConvergence session own) = .ok peer)
    {e : Exchange Coupling} (h : e = ⟨e.request, reply e.request⟩) : Orderly root e := by
  obtain ⟨request, answer⟩ := e
  obtain rfl : answer = reply request := by
    injection h with _ same
  refine ⟨sound request, ?_, ?_, ?_, ?_⟩
  · intro own values same
    injection same with asking answered
    subst asking
    obtain rfl := Except.ok.inj ((shared own).symm.trans (eq_of_heq answered))
    exact ⟨rfl, fun _ => rfl, fun _ _ _ => .inl rfl⟩
  · rintro session run buffer answer same
    injection same with asking answered
    subst asking
    exact eq_of_heq answered ▸ computed session run buffer
  · rintro session values answer same
    injection same with asking answered
    subst asking
    exact (eq_of_heq answered).symm.trans (imposed session values)
  · rintro session own answer same
    injection same with asking answered
    subst asking
    exact eq_of_heq answered ▸ asked session own

namespace CutOff

/-- All is well, but no forces come through. -/
def reply : (request : Request) → request.Reply
  | .sendField .. => .ok Status.disconnected
  | request => echo Status.ok request

theorem orderly_reply {root : Bool} {e : Exchange Coupling} (h : e = ⟨e.request, reply e.request⟩) :
    Orderly root e :=
  orderly_of_answers (fun request => by cases request <;> rfl) (fun _ => rfl) (fun _ _ _ => rfl)
    (fun _ _ => rfl) (fun _ own => ⟨own, rfl⟩) h

def start : Controller where
  place := {}
  session := EchoedRun.registered.2.2
  run := { lastStep := 5, previousTime := 0.0, time := 0.0 }

def begun : Log Coupling × Except Fault Unit × Controller := (Controller.begin start).follow reply

/-- What a lap from a controller comes to. -/
def lapFrom (c : Controller) : Log Coupling × Except Fault Float × Controller :=
  (Controller.lap 0.5 c).follow reply

def failing : Log Coupling × Except Fault Float × Controller := lapFrom begun.2.2

def closing : Log Coupling × Except Fault Float × Controller := lapFrom failing.2.2

theorem driven_cutOff : Driven start begun.1 [⟨failing.1, 0.0⟩, ⟨closing.1, 0.5⟩] closing.2.2 := by
  have begins : Controller.begin.Runs start begun.1 (.ok ()) begun.2.2 :=
    Act.runs_follow (I := Coupling) reply _ _
  have one : (Controller.lap 0.5).Runs begun.2.2 failing.1 (.ok 0.0) failing.2.2 :=
    Act.runs_follow (I := Coupling) reply _ _
  have two : (Controller.lap 0.5).Runs failing.2.2 closing.1 (.ok 0.5) closing.2.2 :=
    Act.runs_follow (I := Coupling) reply _ _
  exact ((Driven.begun begins).lap rfl one).lap rfl two

theorem allOrderly_cutOff : AllOrderly {} (logs begun.1 [⟨failing.1, 0.0⟩, ⟨closing.1, 0.5⟩]) := by
  intro log member e within
  have followed : e = ⟨e.request, reply e.request⟩ := by
    rcases List.mem_cons.1 member with rfl | member
    · exact Program.mem_follow within
    · rcases List.mem_cons.1 member with rfl | member
      · exact Program.mem_follow within
      · obtain rfl := List.mem_singleton.1 member
        exact Program.mem_follow within
  exact orderly_reply followed

/-- Five steps are planned.  The forces of the first do not come through, and the second is the
last. -/
theorem winds_down_cutOff :
    planned 5 (logs begun.1 [⟨failing.1, 0.0⟩, ⟨closing.1, 0.5⟩]) = 2 ∧
      Reached 5 begun.1 [⟨failing.1, 0.0⟩, ⟨closing.1, 0.5⟩] closing.2.2 ∧
      closing.2.2.phase = .terminating := by
  have registering : (Session.register {} EchoedRun.surface 1.0).Runs
      (Session.new {} { root := 1 }) EchoedRun.registered.1 (.ok ()) EchoedRun.registered.2.2 :=
    Act.runs_follow (I := Coupling) (echo Status.ok) _ _
  have so := (winds_down (by decide) registering (rfl : RunControl.start 5 0.0 = .ok start.run)
    (by decide) (by decide)).2.1 _ _ _ driven_cutOff allOrderly_cutOff
  have plan : planned 5 (logs begun.1 [⟨failing.1, 0.0⟩, ⟨closing.1, 0.5⟩]) = 2 := by decide
  refine ⟨plan, so.1, ?_⟩
  rw [so.1.phase, plan]
  rfl

end CutOff

end FluidStructure.Coupling
