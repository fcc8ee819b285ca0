import FluidStructure.Proofs.Coupling.Standing
import FluidStructure.Proofs.Coupling.Steady

/-!
# Laps of a dry run

A run without a peer has nothing to lose: as long as nothing faults, it makes the steps that it was
to have, one after the other.
-/

namespace FluidStructure.Coupling

open FluidStructure.Channel FluidStructure.Journal

/-- Of what is broadcast the last number, an iteration or a status, comes as it is: no rank of a dry
run has a peer that it could lose. -/
def PassedOn (e : Exchange Coupling) : Prop :=
  ∀ own values, e = ⟨.broadcastInts own, .ok values⟩ →
    values.length = own.length ∧ values.getLast? = own.getLast?

/-- On the root all of it comes as it is. -/
theorem Orderly.passedOn {e : Exchange Coupling} (h : Orderly true e) : PassedOn e := by
  rintro own values rfl
  obtain ⟨-, same, -⟩ := h.shared own values rfl
  simp [same rfl]

namespace Controller

variable {c d : Controller} {log : Log Coupling}

/-- Without a peer, and with nothing heard of a loss, the iteration stays. -/
def Alone (c : Controller) (log : Log Coupling) (d : Controller) : Prop :=
  c.session.isDryRun = true → (∀ e ∈ log, PassedOn e) →
    d.session.isDryRun = true ∧ d.session.iteration = c.session.iteration

theorem alone : Act.Transitive Alone where
  refl := fun _ dry _ => ⟨dry, rfl⟩
  trans := by
    intro c first d second e h k dry passed
    obtain ⟨before, after⟩ := List.forall_mem_append.1 passed
    obtain ⟨still, same⟩ := h dry before
    obtain ⟨again, same'⟩ := k still after
    exact ⟨again, same'.trans same⟩

theorem alone_of_steady {α : Type} {act : Act Coupling Controller α} (h : act.Keeps Steady) :
    act.Keeps Alone := by
  intro c log result d run dry _
  have steady := h _ _ _ _ run
  refine ⟨?_, steady.iteration⟩
  unfold Session.isDryRun
  rw [steady.peer]
  exact dry

/-- After a look at the state, what matters is only what is done without a peer. -/
theorem alone_get_bind {α : Type} {f : Controller → Act Coupling Controller α}
    (h : ∀ c : Controller, c.session.isDryRun = true → (f c).Keeps Alone) :
    (Act.get >>= f).Keeps Alone :=
  Act.keeps_get_bind fun c _ _ _ run dry passed => h c dry _ _ _ _ run dry passed

/-! ## The beginning -/

theorem alone_begin : begin.Keeps Alone := by
  refine alone.begin (alone_of_steady (Act.keeps_modify fun _ => ⟨⟨id, rfl, rfl⟩, rfl, rfl⟩)) ?_
    (alone_of_steady (steady_setPhase (by decide)))
  refine alone_get_bind fun d dry => ?_
  rw [if_pos dry]
  exact alone_of_steady (steady_noteIf _ _)

/-! ## Sub-iterations -/

theorem alone_sendForces : sendForces.Keeps Alone := by
  refine alone.bind (alone.requirePhase _ _) fun _ => alone.unlessTerminated <|
    alone.bind ?_ fun _ => alone_get_bind fun c dry => ?_
  · intro c log result d run dry _
    obtain ⟨-, predicted, rfl⟩ := runs_predictForces run
    exact ⟨dry, rfl⟩
  · dsimp only
    rw [if_pos dry]
    exact alone.pure _

theorem alone_receiveDisplacement : receiveDisplacement.Keeps Alone := by
  refine alone.bind (alone.requirePhase _ _) fun _ => alone_get_bind fun c dry => ?_
  rw [if_pos dry]
  exact alone_of_steady (steady_modifySession (fun _ => rfl) fun _ => rfl)

/-- The status that comes back is that of an exchange that was not made. -/
theorem alone_agree (own peer : Bool) : (agree own peer Status.ok).Keeps Alone := by
  intro c log result d run dry passed
  obtain ⟨reply, rest, rfl, opened⟩ := Program.runs_ask.1 run
  rcases runs_opening.1 opened with ⟨values, rfl, heeding⟩ | ⟨fault, -, -, -, rfl⟩
  · have status : values[1]?.getD Status.ok = Status.ok := by
      obtain ⟨two, last⟩ := passed _ List.mem_cons_self _ _ rfl
      match values, two with
      | [_, status], _ => exact Option.some.inj last
    rw [status, heed_ok, pure_bind] at heeding
    obtain ⟨-, -, rfl⟩ := Act.runs_pure.1 heeding
    exact ⟨dry, rfl⟩
  · exact ⟨dry, rfl⟩

theorem alone_exchangeConvergence : exchangeConvergence.Keeps Alone := by
  intro c log result d run
  by_cases turn : c.phase = .subIterating
  · unfold Act.Runs at run
    rw [exchangeConvergence_apply c turn] at run
    refine alone.bind (alone_of_steady (steady_evaluate _)) (fun own => ?_) _ _ _ _ run
    refine alone.bind (alone_of_steady (steady_askPeerConvergence _)) fun peer => ?_
    intro d log result e run dry
    have apart : d.session.isConnected = false := by simp [Session.isConnected, dry]
    unfold Act.Runs at run
    rw [sendConvergence_bind_apply, apart, if_neg (by simp)] at run
    exact alone_agree own peer _ _ _ _ run dry
  · obtain ⟨rfl, rfl, -⟩ := refused turn run
    exact alone.refl _

theorem alone_subIterate : subIterate.Keeps Alone :=
  alone.bind (alone_of_steady steady_computeForces) fun _ => alone.bind alone_sendForces fun _ =>
    alone.bind alone_receiveDisplacement fun _ =>
    alone.bind (alone_of_steady steady_predictDisplacement) fun _ =>
    alone.bind (alone_of_steady steady_imposeDisplacement) fun _ =>
    alone.bind alone_exchangeConvergence fun _ => alone.bind (alone_of_steady steady_saveValues) fun _ =>
    alone.bind (alone_of_steady (steady_modifySession (fun _ => rfl) fun _ => rfl)) fun _ =>
    alone.bind alone.get fun _ => alone.pure _

/-! ## Laps -/

/-- The group agrees on the next iteration. -/
theorem iteration_of_beginStep {own dt : Float} (turn : c.phase = .active)
    (dry : c.session.isDryRun = true) (live : c.session.isTerminated = false)
    (run : (beginStep own).Runs c log (.ok dt) d) (passed : ∀ e ∈ log, PassedOn e) :
    d.session.isDryRun = true ∧ d.session.iteration = c.session.iteration + 1 := by
  unfold Act.Runs at run
  rw [beginStep_live_apply own c turn live] at run
  unfold TimeStep.proposal at run
  rw [dry, Bool.not_true, Bool.false_and, if_neg (by simp), Program.done_bind] at run
  unfold entering at run
  obtain ⟨first, rest, rfl, opened⟩ := Program.runs_ask.1 run
  rcases runs_opening.1 opened with ⟨dts, -, asking⟩ | ⟨_, -, -, wrong, -⟩
  case inr => cases wrong
  obtain ⟨second, rest, rfl, opened'⟩ := Program.runs_ask.1 asking
  rcases runs_opening.1 opened' with ⟨iterations, rfl, noted⟩ | ⟨_, -, -, wrong, -⟩
  case inr => cases wrong
  obtain ⟨_, rfl, last⟩ := runs_noting.1 noted
  obtain ⟨-, same⟩ := Program.runs_done.1 last
  obtain ⟨-, rfl⟩ := Prod.mk.inj same
  have told : iterations.headD (c.session.iteration + 1) = c.session.iteration + 1 := by
    obtain ⟨one, last⟩ := passed _ (List.mem_cons_of_mem _ List.mem_cons_self) _ _ rfl
    match iterations, one with
    | [_], _ => exact Option.some.inj last
  exact ⟨dry, told⟩

theorem iteration_of_lap {own dt : Float} (turn : c.phase = .active)
    (dry : c.session.isDryRun = true) (live : c.session.isTerminated = false)
    (run : (lap own).Runs c log (.ok dt) d) (passed : ∀ e ∈ log, PassedOn e) :
    d.session.isDryRun = true ∧ d.session.iteration = c.session.iteration + 1 := by
  unfold lap runStep at run
  rw [bind_assoc] at run
  rcases Act.runs_bind.1 run with ⟨_, _, e, _, rfl, beginning, onward⟩ | ⟨_, wrong, -⟩
  case inr => cases wrong
  obtain ⟨early, later⟩ := List.forall_mem_append.1 passed
  obtain ⟨dry', counted⟩ := iteration_of_beginStep turn dry live beginning early
  have subs : (Act.get >>= fun c => subIterateAtMost (cap c.session).toNatClampNeg >>= fun _ =>
      leaveStep : Act Coupling Controller Float).Keeps Alone :=
    alone.bind alone.get fun _ =>
      alone.bind (alone.subIterateAtMost alone_subIterate _) fun _ => alone_of_steady steady_leaveStep
  obtain ⟨dry'', same⟩ := alone.bind subs
    (fun dt => alone.bind (alone_of_steady steady_endStep) fun _ => alone.pure dt)
    _ _ _ _ onward dry' later
  exact ⟨dry'', same.trans counted⟩

end Controller

open Controller

variable {c d : Controller} {first : Log Coupling} {laps : List Lap}

/-- A dry run is not lost. -/
theorem Driven.live (registered : c.Registered) (dry : c.session.isDryRun = true)
    (driven : Driven c first laps d) (orderly : AllOrderly c.place (logs first laps))
    (passed : ∀ log ∈ logs first laps, ∀ e ∈ log, PassedOn e) :
    Underway c first laps d ∧ d.session.isDryRun = true ∧ d.session.isTerminated = false := by
  have underway := (driven.induct (P := fun _ _ => True) registered trivial
    (fun _ _ _ _ _ _ _ _ => trivial) orderly).1
  refine ⟨underway, ?_⟩
  induction driven with
  | begun run =>
    obtain ⟨dry', same⟩ := alone_begin _ _ _ _ run dry (passed _ List.mem_cons_self)
    exact ⟨dry', (isTerminated_eq same).trans registered.live⟩
  | @lap log laps d e own dt before turn run ih =>
    rw [logs_append] at orderly passed
    obtain ⟨earlier, -⟩ := List.forall_mem_append.1 orderly
    obtain ⟨before', here⟩ := List.forall_mem_append.1 passed
    have underway' := (before.induct (P := fun _ _ => True) registered trivial
      (fun _ _ _ _ _ _ _ _ => trivial) earlier).1
    obtain ⟨dry', live⟩ := ih earlier before' underway'
    obtain ⟨dry'', counted⟩ := iteration_of_lap turn dry' live run (here _ List.mem_cons_self)
    refine ⟨dry'', decide_eq_false (Int32.not_lt.2 ?_)⟩
    rw [counted]
    exact Int32.le_of_lt (underway'.room turn live)

/-- A dry run is active until it has made its steps, and makes one if it was to have none. -/
theorem Driven.phase_of_dry (registered : c.Registered) (dry : c.session.isDryRun = true)
    (driven : Driven c first laps d) (orderly : AllOrderly c.place (logs first laps))
    (passed : ∀ log ∈ logs first laps, ∀ e ∈ log, PassedOn e) :
    d.phase =
      if laps.length < max 1 c.run.lastStep.toNatClampNeg then .active else .terminating := by
  obtain ⟨underway, -, live⟩ := driven.live registered dry orderly passed
  obtain ⟨-, last⟩ := underway.live live
  rw [underway.phase]
  cases laps with
  | nil => simp
  | cons lap laps =>
    have done : d.run.isLastStep = true ↔
        ¬ (lap :: laps).length < max 1 c.run.lastStep.toNatClampNeg := by
      have current := underway.current
      simp only [RunControl.isLastStep, last, decide_eq_true_eq, Int32.le_iff_toInt_le, current,
        Int32.toNatClampNeg, List.length_cons]
      omega
    by_cases left : (lap :: laps).length < max 1 c.run.lastStep.toNatClampNeg
    · have more : d.run.isLastStep = false := Bool.eq_false_iff.2 fun last => done.1 last left
      rw [if_pos left, more]
      simp
    · rw [if_neg left, done.2 left]
      simp

theorem Driven.length_le_of_dry (registered : c.Registered) (dry : c.session.isDryRun = true)
    (driven : Driven c first laps d) (orderly : AllOrderly c.place (logs first laps))
    (passed : ∀ log ∈ logs first laps, ∀ e ∈ log, PassedOn e) :
    laps.length ≤ max 1 c.run.lastStep.toNatClampNeg := by
  cases driven with
  | begun => exact Nat.zero_le _
  | @lap log laps d e own dt before turn run =>
    rw [logs_append] at orderly passed
    have phase := before.phase_of_dry registered dry (List.forall_mem_append.1 orderly).1
      (List.forall_mem_append.1 passed).1
    rw [turn] at phase
    split at phase
    · rename_i more
      rw [List.length_append]
      exact more
    · cases phase

end FluidStructure.Coupling
