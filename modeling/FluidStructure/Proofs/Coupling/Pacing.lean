import FluidStructure.Proofs.Coupling.Laps
import FluidStructure.Proofs.Coupling.Stagewise
import FluidStructure.Proofs.Requests

/-!
# The length that a step has

The length of a step is kept in the session, where the fluid solver reads it, and in the controller,
which completes the step with it.  In a step that is negotiated the two are the same, also if the
peer is lost in the middle of it.  Without a peer nothing is negotiated: the session keeps the last
length that was agreed on, and the step is completed with the own candidate.
-/

namespace FluidStructure.Coupling

open FluidStructure.Channel FluidStructure.Journal

/-! ## Agreement on the length -/

namespace TimeStep

variable {place : Parallel.Place} {own : Float} {t u : Schedule} {log : Log Coupling}
  {result : Except Fault Float}

theorem asks_proposal (s : Session) :
    (proposal place s own).Asks fun request : Request => request.computesForces = false := by
  unfold proposal
  split
  · refine Program.Asks.bind ?_ fun chosen => ?_
    · refine ⟨rfl, fun (received, values) => ?_⟩
      dsimp only
      split
      · exact ⟨rfl, fun _ => trivial⟩
      · refine ⟨rfl, fun sent => ?_⟩
        dsimp only
        split
        · exact ⟨rfl, fun _ => trivial⟩
        · unfold noting
          split
          · exact ⟨rfl, fun _ => trivial⟩
          · trivial
    · cases chosen with
      | some dt => trivial
      | none => exact ⟨rfl, fun _ => trivial⟩
  · trivial

theorem time_windDown (r : RunControl) : r.windDown.time = r.time := by
  unfold RunControl.windDown
  split <;> rfl

theorem time_agree (iteration : Int32) (dt : Float) :
    (t.agree iteration dt).run.time = t.run.time := by
  unfold Schedule.agree
  dsimp only
  split
  · exact time_windDown _
  · rfl

/-- A negotiation leaves the time alone, and enters the length that it gives unless the peer is
gone. -/
theorem runs_negotiate_paced (run : (negotiate place own).Runs t log result u) :
    (∀ made ∈ log, made.request.computesForces = false) ∧ u.run.time = t.run.time ∧
      if t.session.isTerminated then result = .ok own ∧ u = t
      else ∀ dt, result = .ok dt → u.session.dt = dt := by
  unfold Act.Runs at run
  rw [negotiate_apply] at run
  split at run
  · rename_i gone
    obtain ⟨rfl, same⟩ := Program.runs_done.1 run
    obtain ⟨rfl, rfl⟩ := Prod.mk.inj same
    rw [if_pos gone]
    exact ⟨List.forall_mem_nil _, rfl, rfl, rfl⟩
  · rename_i live
    obtain ⟨proposing, proposed, settling, rfl, proposes, settles⟩ := Program.runs_bind.1 run
    obtain ⟨silent, settled⟩ := runs_settle settles
    have unasked : ∀ made ∈ proposing ++ settling, made.request.computesForces = false :=
      List.forall_mem_append.2 ⟨(asks_proposal t.session).of_runs proposes, fun made member =>
        Request.computesForces_of_isLocal (silent made member)⟩
    rw [if_neg live]
    rcases settled with ⟨rfl, fault, rfl⟩ | ⟨dts, iterations, -, rfl, rfl⟩
    · exact ⟨unasked, rfl, nofun⟩
    · exact ⟨unasked, time_agree _ _, fun dt same => Except.ok.inj same⟩

end TimeStep

/-! ## What the solver is shown -/

namespace Controller

variable {c d : Controller} {log : Log Coupling}

/-- The solver is shown this time and this length of the step, whenever it is asked for forces. -/
def ShownAt (time dt : Float) (log : Log Coupling) : Prop :=
  ∀ session run buffer reply, ⟨.computeForces session run buffer, reply⟩ ∈ log →
    run.time = time ∧ session.dt = dt

theorem shownAt_of_none {time dt : Float}
    (none : ∀ made ∈ log, made.request.computesForces = false) : ShownAt time dt log :=
  fun _ _ _ _ member => Bool.noConfusion (none _ member)

theorem ShownAt.append {time dt : Float} {first second : Log Coupling} (h : ShownAt time dt first)
    (k : ShownAt time dt second) : ShownAt time dt (first ++ second) :=
  fun session run buffer reply member => (List.mem_append.1 member).elim
    (h session run buffer reply) (k session run buffer reply)

/-- The time and both lengths stay, and these are shown. -/
structure Paced (c : Controller) (log : Log Coupling) (d : Controller) : Prop where
  time : d.run.time = c.run.time
  dt : d.session.dt = c.session.dt
  stepDt : d.stepDt = c.stepDt
  shown : ShownAt c.run.time c.session.dt log

theorem paced : Act.Transitive Paced where
  refl := fun _ => ⟨rfl, rfl, rfl, shownAt_of_none (List.forall_mem_nil _)⟩
  trans := fun _ _ _ _ _ h k =>
    ⟨k.time.trans h.time, k.dt.trans h.dt, k.stepDt.trans h.stepDt,
      h.shown.append (h.time ▸ h.dt ▸ k.shown)⟩

theorem paced_of_local (silent : Local log) (time : d.run.time = c.run.time)
    (dt : d.session.dt = c.session.dt) (stepDt : d.stepDt = c.stepDt) : c.Paced log d :=
  ⟨time, dt, stepDt, shownAt_of_none fun made member =>
    Request.computesForces_of_isLocal (silent made member)⟩

theorem paced_modify {change : Controller → Controller}
    (time : ∀ c, (change c).run.time = c.run.time)
    (dt : ∀ c, (change c).session.dt = c.session.dt)
    (stepDt : ∀ c, (change c).stepDt = c.stepDt) : (Act.modify change).Keeps Paced :=
  Act.keeps_modify fun c => paced_of_local .nil (time c) (dt c) (stepDt c)

theorem paced_modifySession {change : Session → Session} (dt : ∀ s, (change s).dt = s.dt) :
    (modifySession change).Keeps Paced := paced_modify (fun _ => rfl) (fun _ => dt _) fun _ => rfl

theorem paced_setPhase (phase : Phase) : (setPhase phase).Keeps Paced :=
  paced_modify (fun _ => rfl) (fun _ => rfl) fun _ => rfl

theorem paced_perform {request : Request} (other : request.computesForces = false) :
    (Act.perform (I := Coupling) request).Keeps Paced :=
  Act.keeps_perform fun _ _ => ⟨rfl, rfl, rfl, shownAt_of_none (List.forall_mem_singleton.2 other)⟩

theorem paced_noteIf (condition : Bool) (notice : Notice) :
    (noteIf condition notice).Keeps Paced := paced.noteIf (fun _ => paced_perform rfl) _ _

/-- The solver is shown the session and the run as they are. -/
theorem paced_computeForces : computeForces.Keeps Paced := by
  intro c log result d run
  obtain ⟨reply, rfl, -, rfl⟩ := runs_computeForces run
  refine ⟨rfl, rfl, rfl, fun session run buffer reply member => ?_⟩
  cases List.mem_singleton.1 member
  exact ⟨rfl, rfl⟩

theorem paced_of_alongside (silent : Local log) (alongside : c.Alongside d) : c.Paced log d :=
  paced_of_local silent (congrArg RunControl.time alongside.run) alongside.dt alongside.stepDt

theorem stagewise_paced : Act.Stagewise Paced where
  toTransitive := paced
  aside := fun noted => paced_of_alongside noted.local
  sent := fun _ _ _ => paced_perform rfl
  received := fun _ _ _ => paced_perform rfl
  lost := fun _ => paced_of_local .nil (TimeStep.time_windDown _) rfl rfl

theorem paced_subIterate : subIterate.Keeps Paced :=
  stagewise_paced.subIterate paced_of_alongside (fun _ _ _ _ => paced_perform rfl)
    paced_computeForces (fun _ _ => paced_perform rfl) (paced_modifySession fun _ => rfl)

/-! ## Steps -/

/-- How a step goes.  If it begins with its peer, or dry, the solver is shown the length that the
step is completed with; without the peer, the length that the session had before. -/
structure Pace (own : Float) (c : Controller) (log : Log Coupling) (d : Controller) : Prop where
  time : d.run.time = c.run.time
  live : c.session.isTerminated = false → ShownAt c.run.time d.stepDt log
  gone : c.session.isTerminated = true →
    ShownAt c.run.time c.session.dt log ∧ d.session.dt = c.session.dt ∧ d.stepDt = own

theorem runs_beginStep_paced {own : Float} {result : Except Fault Float} (turn : c.phase = .active)
    (run : (beginStep own).Runs c log result d) :
    (∀ made ∈ log, made.request.computesForces = false) ∧ d.run.time = c.run.time ∧
      if c.session.isTerminated then result = .ok own ∧ d.session.dt = c.session.dt ∧ d.stepDt = own
      else ∀ dt, result = .ok dt → d.session.dt = dt ∧ d.stepDt = dt := by
  unfold Act.Runs at run
  rw [beginStep_apply own c turn] at run
  obtain ⟨first, ⟨outcome, t⟩, second, rfl, negotiating, entering⟩ := Program.runs_bind.1 run
  obtain ⟨unasked, time, length⟩ := TimeStep.runs_negotiate_paced negotiating
  dsimp only at time length
  cases outcome with
  | ok dt =>
    obtain ⟨rfl, same⟩ := Program.runs_done.1 entering
    obtain ⟨rfl, rfl⟩ := Prod.mk.inj same
    rw [List.append_nil]
    refine ⟨unasked, time, ?_⟩
    split at length
    · rename_i gone
      obtain ⟨value, rfl⟩ := length
      rw [if_pos gone]
      exact ⟨value, rfl, Except.ok.inj value⟩
    · rename_i live
      rw [if_neg live]
      rintro _ ⟨⟩
      exact ⟨length dt rfl, rfl⟩
  | error fault =>
    obtain ⟨rfl, same⟩ := Program.runs_done.1 entering
    obtain ⟨rfl, rfl⟩ := Prod.mk.inj same
    rw [List.append_nil]
    refine ⟨unasked, time, ?_⟩
    split at length
    · cases length.1
    · rename_i live
      rw [if_neg live]
      exact nofun

theorem runs_runStep_paced {own : Float} {result : Except Fault Float} (turn : c.phase = .active)
    (run : (runStep own).Runs c log result d) :
    Pace own c log d ∧
      ∀ dt, result = .ok dt → c.session.isTerminated = false → d.session.dt = d.stepDt := by
  have onward : (Act.get >>= fun c => subIterateAtMost (cap c.session).toNatClampNeg >>= fun _ =>
      setPhase .stepDone >>= fun _ => Act.get >>= fun c =>
      noteIf (c.place.isRoot && c.session.isVerbose)
        (.stepDone c.run.currentStep (c.run.time + c.stepDt) c.session.subIteration) >>= fun _ =>
      pure c.stepDt).Keeps Paced :=
    paced.bind paced.get fun _ => paced.bind (paced.subIterateAtMost paced_subIterate _) fun _ =>
      paced.bind (paced_setPhase _) fun _ => paced.bind paced.get fun _ =>
      paced.bind (paced_noteIf _ _) fun _ => paced.pure _
  rcases Act.runs_bind.1 run with ⟨first, dt, e, second, rfl, begins, stays⟩ | ⟨fault, rfl, begins⟩
  · obtain ⟨unasked, time, length⟩ := runs_beginStep_paced turn begins
    have later := onward _ _ _ _ stays
    have whole : ShownAt c.run.time e.session.dt (first ++ second) :=
      (shownAt_of_none unasked).append (time ▸ later.shown)
    split at length
    · rename_i gone
      obtain ⟨-, still, own⟩ := length
      refine ⟨⟨later.time.trans time, fun live => ?_, fun _ => ?_⟩, fun _ _ live => ?_⟩
      · exact absurd (live.symm.trans gone) Bool.false_ne_true
      · exact ⟨still ▸ whole, later.dt.trans still, later.stepDt.trans own⟩
      · exact absurd (live.symm.trans gone) Bool.false_ne_true
    · rename_i live
      obtain ⟨entered, kept⟩ := length dt rfl
      have same : d.stepDt = e.session.dt := later.stepDt.trans (kept.trans entered.symm)
      refine ⟨⟨later.time.trans time, fun _ => same ▸ whole, fun gone => absurd gone live⟩, ?_⟩
      exact fun _ _ _ => later.dt.trans same.symm
  · obtain ⟨unasked, time, length⟩ := runs_beginStep_paced turn begins
    refine ⟨⟨time, fun _ => shownAt_of_none unasked, fun gone => ?_⟩, nofun⟩
    rw [if_pos gone] at length
    cases length.1

end Controller

end FluidStructure.Coupling
