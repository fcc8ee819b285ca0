import FluidStructure.Proofs.Coupling.Laps

/-!
# Where a run stands

Of all that a step changes, the iteration and the run control depend on two things alone: how
many steps have been begun, and whether an exchange has failed since.  A failure counts once,
since a run whose peer is gone stays as it is.
-/

namespace FluidStructure.Coupling

open FluidStructure.Channel FluidStructure.Journal

/-- The iteration of a session, and its run control. -/
structure Standing where
  iteration : Int32
  run : RunControl

namespace Standing

def isGone (s : Standing) : Bool := s.iteration < 0

/-- The peer is lost, unless it has been lost before. -/
def lost (s : Standing) : Standing := if s.isGone then s else ⟨-1, s.run.windDown⟩

/-- Exchanges have been made, and one of them has failed or not. -/
def after (s : Standing) (bad : Bool) : Standing := if bad then s.lost else s

/-- A step is begun. -/
def begun (s : Standing) : Standing where
  iteration := if s.isGone then s.iteration else s.iteration + 1
  run := s.run.advance

theorem isGone_lost (s : Standing) : s.lost.isGone = true := by
  unfold lost
  split
  · assumption
  · rfl

theorem lost_of_isGone {s : Standing} (gone : s.isGone = true) : s.lost = s := if_pos gone

theorem after_false (s : Standing) : s.after false = s := rfl

theorem after_after (s : Standing) (bad worse : Bool) :
    (s.after bad).after worse = s.after (bad || worse) := by
  cases bad with
  | false => rfl
  | true =>
    cases worse with
    | false => rfl
    | true => exact lost_of_isGone (isGone_lost s)

theorem isGone_after (s : Standing) (bad : Bool) : (s.after bad).isGone = (s.isGone || bad) := by
  cases bad with
  | false => exact (Bool.or_false _).symm
  | true => exact (isGone_lost s).trans (Bool.or_true _).symm

theorem after_of_isGone {s : Standing} (gone : s.isGone = true) (bad : Bool) : s.after bad = s := by
  cases bad with
  | false => rfl
  | true => exact lost_of_isGone gone

theorem currentStep_after (s : Standing) (bad : Bool) :
    (s.after bad).run.currentStep = s.run.currentStep := by
  unfold after lost RunControl.windDown
  split
  · split
    · rfl
    · dsimp only
      split <;> rfl
  · rfl

theorem begun_of_isGone {s : Standing} (gone : s.isGone = true) :
    s.begun = ⟨s.iteration, s.run.advance⟩ := by
  unfold begun
  rw [gone]
  rfl

theorem begun_of_live {s : Standing} (live : s.isGone = false) :
    s.begun = ⟨s.iteration + 1, s.run.advance⟩ := by
  unfold begun
  rw [live]
  rfl

/-- There is room for one more step, unless the peer is gone. -/
def Room (s : Standing) : Prop := s.isGone = false → 0 < s.iteration + 1

theorem isGone_begun {s : Standing} (room : s.Room) : s.begun.isGone = s.isGone := by
  cases there : s.isGone with
  | true =>
    rw [begun_of_isGone there]
    exact there
  | false =>
    rw [begun_of_live there]
    exact decide_eq_false (Int32.not_lt.2 (Int32.le_of_lt (room there)))

end Standing

namespace Controller

variable {c d : Controller} {log : Log Coupling} {bad : Bool}

def standing (c : Controller) : Standing := ⟨c.session.iteration, c.run⟩

theorem isGone_standing (c : Controller) : c.standing.isGone = c.session.isTerminated := rfl

theorem standing_lost (c : Controller) : c.lost.standing = c.standing.lost := by
  unfold lost Standing.lost
  rw [isGone_standing]
  split <;> rfl

/-- A status is heeded. -/
theorem standing_heeded (c : Controller) (failed : Bool) :
    (if failed then c.lost else c).standing = c.standing.after failed := by
  cases failed with
  | false => rfl
  | true => exact standing_lost c

/-! ## Sub-iterations -/

theorem lossy_sendField (peer : Int32) (name : String) (values : List Float) (status : Status) :
    lossy [⟨.sendField peer name values, .ok status⟩] = Status.failed status := by
  show (!!Status.failed status || false) = _
  rw [Bool.not_not, Bool.or_false]

theorem reveals_receiveField (peer : Int32) (name : String) (buffer : List Float)
    (received : Status × List Float) :
    reveals ⟨.receiveField peer name buffer, .ok received⟩ = Status.failed received.1 :=
  Bool.not_not _

theorem ForcesSent.standing (h : ForcesSent c log d) :
    d.standing = c.standing.after (lossy log) := by
  cases h with
  | gone => rfl
  | dry => rfl
  | sent _ _ status =>
    rw [lossy_sendField]
    exact standing_heeded c.forecast _

theorem MotionReceived.standing (h : MotionReceived c log d) :
    d.standing = c.standing.after (lossy log) := by
  cases h with
  | dry => rfl
  | gone => rfl
  | first _ _ received failed =>
    rw [lossy_cons, reveals_receiveField, failed]
    exact standing_lost (c.stageDisplacement received.2)
  | both _ _ first second fine =>
    rw [lossy_cons, lossy_cons, reveals_receiveField, reveals_receiveField, fine, Bool.false_or,
      lossy_nil, Bool.or_false]
    cases Status.failed second.1 with
    | true => exact standing_lost ((c.stageDisplacement first.2).stageVelocity second.2)
    | false => rfl

theorem standing_projected (c : Controller) : c.projected.standing = c.standing := by
  unfold projected
  split <;> rfl

theorem FlagExchanged.standing (h : FlagExchanged c bad d) :
    d.standing = c.standing.after bad := by
  cases h with
  | kept => rfl
  | lost flag residual peer => exact standing_lost ((c.assessed flag residual).heard peer)

theorem standing_concluded (c : Controller) : c.concluded.standing = c.standing := by
  unfold concluded Controller.standing
  split <;> rfl

theorem SubIterated.standing {last : Bool} (h : SubIterated c log bad last d) :
    d.standing = c.standing.after bad := by
  cases h with
  | stages forces motion flag =>
    rw [standing_concluded, flag.standing, standing_projected, motion.standing, forces.standing,
      Standing.after_after, Standing.after_after, Bool.or_assoc]
    rfl

theorem SubIterations.standing {n : Nat} (h : SubIterations n c log bad d) :
    d.standing = c.standing.after bad := by
  induction h with
  | spent => rfl
  | last sub => exact sub.standing
  | again sub _ ih => rw [ih, sub.standing, Standing.after_after]

/-! ## Laps -/

theorem StepBegun.standing {dt : Float} (h : StepBegun c bad dt d) (room : c.standing.Room) :
    d.standing = c.standing.begun.after bad := by
  cases h with
  | gone gone =>
    have there : c.standing.isGone = true := gone
    rw [Standing.begun_of_isGone there]
    rfl
  | agreed live =>
    have there : c.standing.isGone = false := live
    have onward : ¬ c.session.iteration + 1 < 0 := Int32.not_lt.2 (Int32.le_of_lt (room there))
    rw [Standing.begun_of_live there]
    unfold entered stepped TimeStep.Schedule.agree
    rw [if_neg onward]
    rfl
  | lost live =>
    have there : c.standing.isGone = false := live
    have onward := (Standing.isGone_begun room).trans there
    unfold Standing.after Standing.lost
    rw [if_pos rfl, onward, Standing.begun_of_live there]
    rfl

/-- What a lap makes of the iteration, of the run control, and of the phase. -/
theorem Lapped.standing {dt : Float} (h : Lapped c log bad dt d) (room : c.standing.Room) :
    d.session.iteration = (c.standing.begun.after bad).iteration ∧
      d.run.currentStep = c.run.currentStep + 1 ∧
      d.run.lastStep = (c.standing.begun.after bad).run.lastStep ∧
      d.phase = if d.run.isLastStep then .terminating else .active := by
  cases h with
  | stages begun subs =>
    have whole := subs.standing
    rw [begun.standing room, Standing.after_after] at whole
    rw [← whole]
    refine ⟨rfl, ?_, rfl, rfl⟩
    exact (congrArg (fun s => s.run.currentStep) whole).trans (Standing.currentStep_after _ _)

theorem standing_opened (c : Controller) (bad : Bool) :
    (c.opened bad).standing = c.standing.after bad := standing_heeded c.staged bad

end Controller

/-! ## Drivers -/

open Controller

/-- What is known of a run after some laps. -/
structure Underway (c : Controller) (first : Log Coupling) (laps : List Lap) (d : Controller) :
    Prop where
  kin : c.staged.Kin d
  sound : d.Sound
  gone : d.session.isTerminated = (logs first laps).any lossy
  current : d.run.currentStep.toInt = laps.length
  live : d.session.isTerminated = false →
    d.session.iteration = d.run.currentStep ∧ d.run.lastStep = c.run.lastStep
  phase : d.phase = if !laps.isEmpty && d.run.isLastStep then .terminating else .active

variable {c d : Controller} {first : Log Coupling} {laps : List Lap}

/-- An active run has not used up its numbers. -/
theorem Underway.notFull (h : Underway c first laps d) (turn : d.phase = .active) :
    d.run.currentStep ≠ Int32.maxValue := by
  intro full
  have current := h.current
  rw [full] at current
  have some : laps.isEmpty = false := by
    cases laps with
    | nil => cases current
    | cons => rfl
  have last : d.run.isLastStep = true := by
    unfold RunControl.isLastStep
    rw [full]
    exact decide_eq_true (Int32.le_iff_toInt_le.2 (Int32.toInt_le d.run.lastStep))
  rw [h.phase, some, last] at turn
  cases turn

theorem Underway.room (h : Underway c first laps d) (turn : d.phase = .active) :
    d.standing.Room := by
  intro live
  have current := h.current
  unfold standing
  rw [(h.live live).1]
  refine zero_lt_add_one (Int32.le_iff_toInt_le.2 ?_) (h.notFull turn)
  rw [current]
  exact Int.natCast_nonneg _

theorem underway_opened (registered : c.Registered) (first : Log Coupling) :
    Underway c first [] (c.opened (lossy first)) := by
  have standing := standing_opened c (lossy first)
  have begins : c.standing.isGone = false := registered.live
  refine ⟨kin_opened c _, (kin_opened c _).sound registered.sound, ?_, ?_, fun live => ?_, rfl⟩
  · rw [← isGone_standing, standing, Standing.isGone_after, begins]
    exact (Bool.or_false _).symm
  · have current := (congrArg (fun s => s.run.currentStep) standing).trans
      (Standing.currentStep_after _ _)
    exact congrArg Int32.toInt (current.trans registered.current)
  · rw [← isGone_standing, standing, Standing.isGone_after, begins, Bool.false_or] at live
    rw [live]
    exact ⟨registered.iteration.trans registered.current.symm, rfl⟩

theorem Underway.lapped {e : Controller} {lap : Lap} (h : Underway c first laps d)
    (turn : d.phase = .active) (lapped : Lapped d (carried lap.log) (lossy lap.log) lap.dt e) :
    Underway c first (laps ++ [lap]) e := by
  obtain ⟨iteration, current, last, phase⟩ := lapped.standing (h.room turn)
  have kin := lapped.kin
  have gone : e.session.isTerminated = (d.session.isTerminated || lossy lap.log) := by
    have begun : d.standing.begun.isGone = d.session.isTerminated :=
      Standing.isGone_begun (h.room turn)
    rw [← begun, ← Standing.isGone_after]
    unfold Session.isTerminated Standing.isGone
    rw [iteration]
  refine ⟨h.kin.trans kin, kin.sound h.sound, ?_, ?_, fun live => ?_, ?_⟩
  · rw [gone, h.gone, any_logs_append]
  · rw [current, toInt_add_one (h.notFull turn), h.current, List.length_append]
    rfl
  · rw [gone, Bool.or_eq_false_iff] at live
    obtain ⟨there, fine⟩ := live
    obtain ⟨counted, stop⟩ := h.live there
    rw [iteration, last, current, fine, ← stop, ← counted]
    have begun : d.standing.begun = ⟨d.session.iteration + 1, d.run.advance⟩ :=
      Standing.begun_of_live (s := d.standing) there
    rw [begun]
    exact ⟨rfl, rfl⟩
  · rw [phase]
    cases laps <;> rfl

/-- The induction on the laps of an orderly run, lap by lap as its parts. -/
theorem Driven.induct {P : List Lap → Controller → Prop} (registered : c.Registered)
    (base : P [] (c.opened (lossy first)))
    (step : ∀ laps lap d e, Underway c first laps d → d.phase = .active →
      Lapped d (carried lap.log) (lossy lap.log) lap.dt e → P laps d → P (laps ++ [lap]) e)
    (h : Driven c first laps d) (orderly : AllOrderly c.place (logs first laps)) :
    Underway c first laps d ∧ P laps d := by
  induction h with
  | begun run =>
    obtain ⟨-, -, rfl⟩ := runs_begin registered.phase registered.registered run
      (orderly _ List.mem_cons_self)
    exact ⟨underway_opened registered _, base⟩
  | @lap log laps d e own dt before turn run ih =>
    rw [logs_append] at orderly
    obtain ⟨underway, so⟩ := ih fun log member => orderly log (List.mem_append_left _ member)
    have here := orderly log (List.mem_append_right _ List.mem_cons_self)
    rw [← show d.place = c.place from underway.kin.place] at here
    obtain ⟨_, lapped, same⟩ := lapped_of_runs turn (underway.room turn) underway.sound run here
    obtain ⟨rfl, rfl⟩ := same _ rfl
    exact ⟨underway.lapped turn lapped, step laps ⟨log, _⟩ d _ underway turn lapped so⟩

/-- What holds of every lap with those before it, for one lap more. -/
theorem forall_laps_append {P : List Lap → Lap → Prop} {last : Lap}
    (h : ∀ i lap, laps[i]? = some lap → P (laps.take i) lap) (k : P laps last) :
    ∀ i lap, (laps ++ [last])[i]? = some lap → P ((laps ++ [last]).take i) lap := by
  intro i lap found
  have inside := (List.getElem?_eq_some_iff.1 found).1
  rw [List.length_append, List.length_singleton] at inside
  rw [List.take_append_of_le_length (Nat.le_of_lt_succ inside)]
  rw [List.getElem?_append] at found
  split at found
  · exact h i lap found
  · obtain rfl : i = laps.length := by omega
    rw [Nat.sub_self] at found
    obtain rfl : last = lap := Option.some.inj found
    rw [List.take_length]
    exact k

end FluidStructure.Coupling
