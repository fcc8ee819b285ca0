import FluidStructure.Proofs.Coupling.Laps

/-!
# Calls that cannot fault

If neither the local group nor the fluid solver faults, then nothing that comes from the peer can
make a call of a driver fault: a lost peer, a wrong message and garbage are all told by a status.
The checks of the stages ask for sizes of buffers and for a positive reference length, and these
stay as the registration has made them.
-/

namespace FluidStructure.Coupling

open FluidStructure.Channel FluidStructure.Journal

namespace Controller

variable {c d : Controller} {log : Log Coupling}

/-! ## What the checks ask for -/

/-- All buffers have their sizes, and the residual can be computed. -/
structure Equipped (c : Controller) : Prop extends c.Sound where
  positive : (0.0 : Float) < c.session.referenceLength

theorem Equipped.kin (h : c.Equipped) (kin : c.Kin d) : d.Equipped :=
  ⟨kin.sound h.toSound, kin.length ▸ h.positive⟩

/-- A controller within a step. -/
structure Midstep (c : Controller) : Prop extends c.Equipped where
  turn : c.phase = .subIterating

theorem Midstep.assessable (h : c.Midstep) : c.Assessable := fun _ => h.positive

theorem Midstep.akin (h : c.Midstep) (akin : c.Akin d) : d.Midstep :=
  ⟨h.toEquipped.kin akin.toKin, akin.phase.trans h.turn⟩

/-! ## Stages -/

theorem sure_computeForces : computeForces.Sure Benign Midstep := by
  intro c log result d run benign mid
  obtain ⟨rfl, reply, rfl, rfl⟩ := runs_loaded run benign
  exact ⟨⟨(), rfl⟩, mid.akin (akin_loaded c _)⟩

theorem sure_sendForces : sendForces.Sure Benign Midstep := by
  intro c log result d run benign mid
  obtain ⟨rfl, forces, -⟩ := runs_sendForces mid.turn mid.buffers run benign
  exact ⟨⟨(), rfl⟩, mid.akin forces.akin⟩

theorem sure_receiveDisplacement : receiveDisplacement.Sure Benign Midstep := by
  intro c log result d run benign mid
  obtain ⟨rfl, motion, -⟩ := runs_receiveDisplacement mid.turn mid.toSized run benign
  exact ⟨⟨(), rfl⟩, mid.akin motion.akin⟩

theorem sure_predictDisplacement : predictDisplacement.Sure Benign Midstep := by
  intro c log result d run _ mid
  obtain ⟨value, -, rfl⟩ := runs_predictDisplacement mid.turn mid.buffers run
  exact ⟨value, mid.akin (akin_projected c)⟩

theorem sure_impose : (unlessTerminated imposeDisplacement).Sure Benign Midstep := by
  intro c log result d run benign mid
  obtain ⟨rfl, -, -, rfl⟩ := runs_impose run benign
  exact ⟨⟨(), rfl⟩, mid⟩

theorem sure_exchangeConvergence : exchangeConvergence.Sure Benign Midstep := by
  intro c log result d run benign mid
  obtain ⟨value, -, bad, flag, -⟩ :=
    runs_exchangeConvergence mid.turn mid.toSound mid.assessable run benign
  exact ⟨value, mid.akin flag.akin⟩

theorem sure_conclude (converged : Bool) : (conclude converged).Sure Benign Midstep := by
  intro c log result d run _ mid
  obtain ⟨rfl, -, rfl⟩ := runs_conclude run
  exact ⟨⟨_, rfl⟩, mid.akin (akin_concluded c)⟩

/-! ## Sub-iterations -/

/-- A sub-iteration, cut into what the controller does one after the other. -/
def subIterateStages : Course Coupling Controller Bool := do
  Course.of computeForces
  Course.of sendForces
  Course.of receiveDisplacement
  let _ ← Course.of predictDisplacement
  Course.of (unlessTerminated imposeDisplacement)
  let converged ← Course.of exchangeConvergence
  Course.of (conclude converged)

def subIterateAtMostStages : Nat → Course Coupling Controller Unit
  | 0 => pure ()
  | n + 1 => do
    if ← subIterateStages then pure () else subIterateAtMostStages n

/-- A step, cut into its stages. -/
def runStepStages (own : Float) : Course Coupling Controller Float := do
  let _ ← Course.of (beginStep own)
  let c ← Course.of Act.get
  subIterateAtMostStages (cap c.session).toNatClampNeg
  Course.of leaveStep

theorem toAct_subIterateStages : subIterateStages.toAct = subIterate := by
  unfold subIterateStages
  simp only [Course.toAct_bind, Course.toAct_of]
  rfl

theorem toAct_subIterateAtMostStages (n : Nat) :
    (subIterateAtMostStages n).toAct = subIterateAtMost n := by
  induction n with
  | zero => rfl
  | succ n ih =>
    unfold subIterateAtMostStages subIterateAtMost
    rw [Course.toAct_bind, toAct_subIterateStages]
    congr 1
    funext last
    cases last with
    | true => rfl
    | false => exact ih

theorem sure_subIterateStages : subIterateStages.Sure Benign Midstep :=
  (Course.sure_of sure_computeForces).bind fun _ =>
    (Course.sure_of sure_sendForces).bind fun _ =>
    (Course.sure_of sure_receiveDisplacement).bind fun _ =>
    (Course.sure_of sure_predictDisplacement).bind fun _ =>
    (Course.sure_of sure_impose).bind fun _ =>
    (Course.sure_of sure_exchangeConvergence).bind fun converged =>
    Course.sure_of (sure_conclude converged)

theorem sure_subIterateAtMostStages (n : Nat) :
    (subIterateAtMostStages n).Sure Benign Midstep := by
  induction n with
  | zero => exact ⟨(), rfl⟩
  | succ n ih =>
    refine sure_subIterateStages.bind fun last => ?_
    cases last with
    | true => exact ⟨(), rfl⟩
    | false => exact ih

theorem sure_subIterateAtMost (n : Nat) : (subIterateAtMost n).Sure Benign Midstep :=
  toAct_subIterateAtMostStages n ▸ (sure_subIterateAtMostStages n).toAct

/-! ## The end of a step

The bound on the number of sub-iterations is no stop of its own.  The counter of the sub-iterations
starts at zero, and when it reaches the bound the sub-iteration is the last one anyway. -/

/-- Sub-iterations without any bound on their number, up to one that is the last. -/
inductive UntilLast : Controller → Log Coupling → Controller → Prop
  | last {c d : Controller} {log : Log Coupling} (run : subIterate.Runs c log (.ok true) d) :
    UntilLast c log d
  | again {c d e : Controller} {log later : Log Coupling}
      (run : subIterate.Runs c log (.ok false) d) (on : UntilLast d later e) :
    UntilLast c (log ++ later) e

theorem subIteration_lost (c : Controller) :
    c.lost.session.subIteration = c.session.subIteration := by
  unfold lost
  split <;> rfl

theorem ForcesSent.subIteration (h : ForcesSent c log d) :
    d.session.subIteration = c.session.subIteration := by
  cases h with
  | gone => rfl
  | dry => rfl
  | sent =>
    split
    · exact subIteration_lost _
    · rfl

theorem MotionReceived.subIteration (h : MotionReceived c log d) :
    d.session.subIteration = c.session.subIteration := by
  cases h with
  | dry => rfl
  | gone => rfl
  | first => exact subIteration_lost _
  | both =>
    split
    · exact subIteration_lost _
    · rfl

theorem subIteration_projected (c : Controller) :
    c.projected.session.subIteration = c.session.subIteration := by
  unfold projected
  split <;> rfl

theorem FlagExchanged.subIteration {bad : Bool} (h : FlagExchanged c bad d) :
    d.session.subIteration = c.session.subIteration := by
  cases h with
  | kept => rfl
  | lost => exact subIteration_lost _

theorem subIteration_concluded (c : Controller) :
    c.concluded.session.subIteration = c.session.subIteration + 1 := by
  unfold concluded
  split <;> rfl

/-- A sub-iteration counts, and one that is not the last leaves room for another one. -/
theorem SubIterated.counts {bad last : Bool} (h : SubIterated c log bad last d) :
    d.session.subIteration = c.session.subIteration + 1 ∧
      (last = false → d.session.subIteration < cap d.session) := by
  cases h with
  | stages forces motion flag converged =>
    constructor
    · rw [subIteration_concluded, flag.subIteration, subIteration_projected, motion.subIteration,
        forces.subIteration]
      rfl
    · intro more
      unfold isDone at more
      exact Int32.not_le.1 (of_decide_eq_false (Bool.or_eq_false_iff.1 more).2)

theorem Kin.cap (h : c.Kin d) : cap d.session = cap c.session := by
  unfold Controller.cap
  rw [h.parameters]

theorem untilLast_of_runs {n : Nat} (mid : c.Midstep) (some : 0 < n)
    (room : c.session.subIteration.toInt + n = (cap c.session).toInt)
    (run : (subIterateAtMost n).Runs c log (.ok ()) d) (benign : ∀ e ∈ log, Benign e) :
    UntilLast c log d := by
  induction n generalizing c log with
  | zero => exact absurd some (Nat.lt_irrefl 0)
  | succ n ih =>
    unfold subIterateAtMost at run
    have sure := toAct_subIterateStages ▸ sure_subIterateStages.toAct
    obtain ⟨first, last, e, rest, rfl, before, calm, after, later⟩ := runs_calm_bind run benign
      fun _ _ _ h k => (sure _ _ _ _ h k mid).1
    cases last with
    | true =>
      obtain ⟨rfl, -, rfl⟩ := Act.runs_pure.1 after
      rw [List.append_nil]
      exact .last before
    | false =>
      obtain ⟨_, _, same, sub, -⟩ :=
        runs_subIterate_benign mid.turn mid.toSound mid.assessable before calm
      obtain rfl := Except.ok.inj same
      obtain ⟨counted, below⟩ := sub.counts
      have below := Int32.lt_iff_toInt_lt.1 (below rfl)
      have bound := sub.akin.toKin.cap
      have notFull : c.session.subIteration ≠ Int32.maxValue := by
        intro full
        have most := (cap c.session).toInt_lt
        have value : Int32.maxValue.toInt = 2 ^ 31 - 1 := rfl
        rw [full, value] at room
        omega
      have next := congrArg Int32.toInt counted
      rw [toInt_add_one notFull] at next
      rw [bound, next] at below
      refine .again before (ih (mid.akin sub.akin) ?_ ?_ after later)
      · omega
      · rw [bound, next]
        omega

/-! ## Calls of a driver -/

theorem runs_announce_benign {result : Except Fault Unit} (run : announce.Runs c log result d)
    (benign : ∀ e ∈ log, Benign e) : result = .ok () ∧ c.Akin d := by
  unfold announce Act.Runs at run
  rw [Act.get_bind_apply] at run
  split at run
  · obtain ⟨-, rfl, rfl⟩ := runs_noteIf run
    exact ⟨rfl, Akin.refl d⟩
  · obtain ⟨sending, own, e, _, rfl, told, -, sharing, later⟩ := runs_calm_bind run benign
      fun _ _ _ h _ => (tells_onRoot (tells_sendParameters _) _ _ _ _ h).imp fun _ => And.left
    obtain ⟨_, -, -, -, rfl⟩ := tells_onRoot (tells_sendParameters _) _ _ _ _ told
    unfold Act.Runs at sharing
    rw [shareInt_bind_apply] at sharing
    obtain ⟨reply, rest, rfl, shared⟩ := Program.runs_ask.1 sharing
    have here := later _ List.mem_cons_self
    cases reply with
    | error fault => cases here.sound
    | ok values =>
      obtain ⟨-, rfl, rfl⟩ := runs_heed_mute shared
      refine ⟨rfl, ?_⟩
      split
      · exact akin_lost e
      · exact Akin.refl e

theorem runs_begin_benign {result : Except Fault Unit} (turn : c.phase = .uninitialized)
    (registered : c.session.isRegistered = true) (run : begin.Runs c log result d)
    (benign : ∀ e ∈ log, Benign e) :
    result = .ok () ∧ c.staged.Kin d ∧ d.phase = .active := by
  unfold begin Act.Runs at run
  rw [requirePhase_bind_apply, if_pos turn, Act.get_bind_apply, registered,
    if_neg (by decide)] at run
  unfold sizeStaging at run
  rw [Act.modify_bind_apply] at run
  obtain ⟨_, _, e, _, rfl, announced, calm, opening, -⟩ := runs_calm_bind (c := c.staged) run benign
    fun _ _ _ h k => ⟨(), (runs_announce_benign h k).1⟩
  obtain ⟨-, akin⟩ := runs_announce_benign announced calm
  obtain ⟨-, rfl, rfl⟩ := Act.runs_modify.1 opening
  exact ⟨rfl, akin.toKin.trans (kin_withPhase e .active), rfl⟩

theorem runs_entering_benign {proposed : Int32 × Float} {result : Except Fault Float}
    (run : (c.entering proposed).Runs log (result, d)) (benign : ∀ e ∈ log, Benign e) :
    ∃ iteration dt, result = .ok dt ∧ d = c.entered iteration dt := by
  unfold entering at run
  obtain ⟨reply, rest, rfl, on⟩ := Program.runs_ask.1 run
  have first := benign _ List.mem_cons_self
  cases reply with
  | error fault => cases first.sound
  | ok dts =>
    rw [opening_ok] at on
    obtain ⟨reply, rest', rfl, on'⟩ := Program.runs_ask.1 on
    have second := benign _ (List.mem_cons_of_mem _ List.mem_cons_self)
    cases reply with
    | error fault => cases second.sound
    | ok iterations =>
      rw [opening_ok] at on'
      obtain ⟨_, ends, -⟩ := runs_noting_mute on'
      obtain ⟨-, h⟩ := Program.runs_done.1 ends
      obtain ⟨rfl, rfl⟩ := Prod.mk.inj h
      exact ⟨_, _, rfl, rfl⟩

/-- A step is entered whatever comes of the negotiation, and its sub-iterations count from zero. -/
theorem runs_beginStep_benign {own : Float} {result : Except Fault Float}
    (turn : c.phase = .active) (run : (beginStep own).Runs c log result d)
    (benign : ∀ e ∈ log, Benign e) :
    (∃ dt, result = .ok dt) ∧ c.Kin d ∧ d.phase = .subIterating ∧ d.session.subIteration = 0 := by
  cases live : c.session.isTerminated with
  | true =>
    unfold Act.Runs at run
    rw [beginStep_apply own c turn, TimeStep.negotiate_apply, if_pos live] at run
    obtain ⟨rfl, h⟩ := Program.runs_done.1 run
    obtain ⟨rfl, rfl⟩ := Prod.mk.inj h
    exact ⟨⟨own, rfl⟩, kin_stepped c ⟨c.session, c.advanced.run⟩ own rfl rfl rfl id rfl rfl, rfl,
      rfl⟩
  | false =>
    unfold Act.Runs at run
    rw [beginStep_live_apply own c turn live] at run
    obtain ⟨_, proposed, _, rfl, -, entered⟩ := Program.runs_bind.1 run
    obtain ⟨iteration, dt, rfl, rfl⟩ := runs_entering_benign entered
      fun e member => benign e (List.mem_append_right _ member)
    exact ⟨⟨dt, rfl⟩, kin_stepped c _ dt rfl rfl rfl (sized_agree _ _ _) rfl rfl, rfl, rfl⟩

/-- A step: it is entered, sub-iterates up to one that is the last, and is left. -/
inductive StepMade (own : Float) (c : Controller) : Controller → Prop
  | stages {first second third : Log Coupling} {dt : Float} {d e f : Controller}
      (entered : (beginStep own).Runs c first (.ok dt) d) (subs : UntilLast d second e)
      (left : leaveStep.Runs e third (.ok e.stepDt) f) : StepMade own c f

/-- A step, taken apart. -/
theorem runs_runStep_stages {own : Float} {result : Except Fault Float} (equipped : c.Equipped)
    (turn : c.phase = .active) (run : (runStep own).Runs c log result d)
    (benign : ∀ e ∈ log, Benign e) :
    ∃ first second third dt e f, log = first ++ (second ++ third) ∧
      (beginStep own).Runs c first (.ok dt) e ∧ c.Kin e ∧ e.Midstep ∧
      e.session.subIteration = 0 ∧ UntilLast e second f ∧ f.Midstep ∧
      leaveStep.Runs f third (.ok f.stepDt) d ∧ result = .ok f.stepDt ∧
      d = { f with phase := .stepDone } := by
  unfold runStep at run
  obtain ⟨first, dt, e, _, rfl, beginning, calm, onward, later⟩ := runs_calm_bind run benign
    fun _ _ _ h k => (runs_beginStep_benign turn h k).1
  obtain ⟨-, kin, phase, zero⟩ := runs_beginStep_benign turn beginning calm
  have mid : e.Midstep := ⟨equipped.kin kin, phase⟩
  unfold Act.Runs at onward
  rw [Act.get_bind_apply] at onward
  obtain ⟨subs, _, f, last, rfl, iterating, calm', ending, -⟩ := runs_calm_bind onward later
    fun _ _ _ h k => (sure_subIterateAtMost _ _ _ _ _ h k mid).1
  obtain ⟨-, mid'⟩ := sure_subIterateAtMost _ _ _ _ _ iterating calm' mid
  have some := cap_pos e.session
  have room : e.session.subIteration.toInt + ((cap e.session).toNatClampNeg : Int) =
      (cap e.session).toInt := by
    have positive : 0 < (cap e.session).toInt := Int.lt_toNat.1 some
    have value : ((cap e.session).toNatClampNeg : Int) = (cap e.session).toInt :=
      Int.toNat_of_nonneg (Int.le_of_lt positive)
    rw [zero, value]
    exact Int.zero_add _
  obtain ⟨-, rfl, rfl⟩ := runs_leaveStep ending
  exact ⟨first, subs, last, dt, e, f, rfl, beginning, kin, mid, zero,
    untilLast_of_runs mid some room iterating calm', mid', ending, rfl, rfl⟩

theorem runs_runStep_benign {own : Float} {result : Except Fault Float} (equipped : c.Equipped)
    (turn : c.phase = .active) (run : (runStep own).Runs c log result d)
    (benign : ∀ e ∈ log, Benign e) :
    (∃ dt, result = .ok dt) ∧ StepMade own c d ∧ d.Equipped ∧ d.phase = .stepDone := by
  obtain ⟨_, _, _, _, _, f, -, beginning, -, -, -, subs, mid, ending, rfl, rfl⟩ :=
    runs_runStep_stages equipped turn run benign
  exact ⟨⟨_, rfl⟩, .stages beginning subs ending, mid.toEquipped.kin (kin_withPhase f .stepDone),
    rfl⟩

/-- Whenever a stage of a step is entered, the buffers have their sizes and the reference length is
positive. -/
theorem equipped_of_reached {own : Float} {rest : Course Coupling Controller Float}
    (equipped : c.Equipped) (turn : c.phase = .active)
    (reached : (runStepStages own).Reaches c log rest d) (benign : ∀ e ∈ log, Benign e) :
    d.Equipped := by
  unfold runStepStages at reached
  rcases Course.reaches_bind reached with ⟨_, there⟩ | ⟨_, dt, e, _, rfl, begun, entered⟩
  · rcases Course.reaches_of there with ⟨-, rfl⟩ | ⟨_, beginning⟩
    · exact equipped
    · exact equipped.kin (runs_beginStep_benign turn beginning benign).2.1
  rw [Course.toAct_of] at begun
  obtain ⟨early, later⟩ := List.forall_mem_append.1 benign
  obtain ⟨-, kin, phase, -⟩ := runs_beginStep_benign turn begun early
  have mid : e.Midstep := ⟨equipped.kin kin, phase⟩
  rcases Course.reaches_bind entered with ⟨_, there⟩ | ⟨_, _, _, _, rfl, reading, subs⟩
  · rcases Course.reaches_of there with ⟨-, rfl⟩ | ⟨_, reading⟩
    · exact mid.toEquipped
    · obtain ⟨-, -, rfl⟩ := Act.runs_get.1 reading
      exact mid.toEquipped
  rw [Course.toAct_of] at reading
  obtain ⟨rfl, same, rfl⟩ := Act.runs_get.1 reading
  rw [List.nil_append] at later
  rcases Course.reaches_bind subs with ⟨_, there⟩ | ⟨_, _, f, _, rfl, ended, left⟩
  · exact ((sure_subIterateAtMostStages _).reached there later mid).toEquipped
  obtain ⟨during, -⟩ := List.forall_mem_append.1 later
  obtain ⟨-, mid'⟩ := (sure_subIterateAtMostStages _).toAct _ _ _ _ ended during mid
  rcases Course.reaches_of left with ⟨-, rfl⟩ | ⟨_, leaving⟩
  · exact mid'.toEquipped
  · obtain ⟨-, -, rfl⟩ := runs_leaveStep leaving
    exact mid'.toEquipped.kin (kin_withPhase f .stepDone)

end Controller

end FluidStructure.Coupling
