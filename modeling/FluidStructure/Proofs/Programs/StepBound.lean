import FluidStructure.Proofs.Coupling.StepsLeft
import FluidStructure.Proofs.Programs.PressureTime

/-!
# The bound on the steps

The time loop of the fluid program makes so many steps at most.  The run is over before that, whatever
the surroundings reply: a step takes a number, the peer is lost only once, and its loss puts off the
last step by one at most.  With a larger bound the loop has the same runs.
-/

namespace FluidStructure.Coupling

namespace RunControl

variable {r s : RunControl} {steps : Int32}

/-- One step further, and wound down in it at most. -/
structure Further (r s : RunControl) : Prop where
  current : s.currentStep = r.currentStep + 1
  last : s.lastStep = r.lastStep ∨
    (r.currentStep + 1).toInt ≤ r.lastStep.toInt ∧ s.lastStep = r.currentStep + 1 + 1

theorem further_advance (r : RunControl) : r.Further r.advance := ⟨rfl, .inl rfl⟩

theorem Further.windDown (h : r.Further s) : r.Further s.windDown := by
  obtain ⟨current, last⟩ := h
  rw [windDown_eq]
  split
  · rename_i within
    refine ⟨current, .inr ?_⟩
    show _ ∧ s.currentStep + 1 = _
    rw [current]
    refine ⟨?_, rfl⟩
    rcases last with last | last
    · rw [current, last] at within
      exact Int32.le_iff_toInt_le.1 within.2
    · exact last.1
  · exact ⟨current, last⟩

/-- A step that is left has a number. -/
theorem Left.toInt_next (h : r.Left steps) :
    (r.currentStep + 1).toInt = r.currentStep.toInt + 1 := by
  refine toInt_add_one fun full => ?_
  rcases h with ahead | ⟨-, current, -⟩
  · have below := Int32.lt_iff_toInt_lt.1 ahead
    have top := r.lastStep.toInt_le
    rw [full] at below
    omega
  · rw [current] at full
    cases full

/-- Where a step is left, the number of the current one is within the plan. -/
theorem Left.toInt_le (h : r.Left steps) (last : r.lastStep.toInt ≤ steps.toInt + 1) :
    r.currentStep.toInt ≤ steps.toInt := by
  rcases h with ahead | ⟨none, current, -⟩
  · have below := Int32.lt_iff_toInt_lt.1 ahead
    omega
  · rw [none, current]

end RunControl

namespace Controller

variable {c d : Controller} {log : Log Coupling} {steps : Int32} {n : Nat}

/-- A run that was to have so many steps is over after at most so many more. -/
structure Bounded (steps : Int32) (n : Nat) (c : Controller) : Prop where
  left : c.phase = .active → c.run.Left steps
  live : c.session.isTerminated = false → c.run.lastStep = steps
  last : c.run.lastStep.toInt ≤ steps.toInt + 1
  bound : c.phase = .active → steps.toInt + 2 ≤ c.run.currentStep.toInt + n

theorem Bounded.over (h : c.Bounded steps 0) : c.phase ≠ .active := by
  intro turn
  have within := (h.left turn).toInt_le h.last
  have spent := h.bound turn
  omega

theorem left_of_completed (turn : c.completed.phase = .active) : c.completed.run.Left steps := by
  unfold completed at turn
  cases last : (c.run.complete c.stepDt).isLastStep with
  | true =>
    rw [last] at turn
    cases turn
  | false => exact .inl (Int32.not_le.1 (of_decide_eq_false last))

/-- After the beginning there are the planned steps, and two more at most. -/
theorem bounded_of_begin {time : Float} (started : RunControl.start steps time = .ok c.run)
    (run : Controller.begin.Runs c log (.ok ()) d) :
    d.Bounded steps (steps.toNatClampNeg + 2) := by
  obtain ⟨planned, start⟩ := RunControl.unbegun_of_start started
  have unbegun := unbegun_of_begin run start
  obtain ⟨-, fresh⟩ := RunControl.start_eq_ok_iff.1 started
  have least := Int32.le_iff_toInt_le.1 planned
  have zero : (0 : Int32).toInt = 0 := rfl
  have one : (1 : Int32).toInt = 1 := rfl
  refine ⟨fun _ => unbegun.left planned, fun live => ?_, ?_, fun _ => ?_⟩
  · exact ((stays_begin _ _ _ _ run).lastStep_of_live live).2.trans
      (congrArg RunControl.lastStep fresh)
  · rcases unbegun.2 with last | last
    · rw [last]
      omega
    · rw [last]
      omega
  · rw [unbegun.1]
    unfold Int32.toNatClampNeg
    omega

/-- A step uses up one of those that may be left. -/
theorem Bounded.stepped {own dt : Float} (h : c.Bounded steps (n + 1)) (turn : c.phase = .active)
    (run : (runStep own).Runs c log (.ok dt) d) : d.completed.Bounded steps n := by
  obtain ⟨-, current, last⟩ := busy_of_runStep (P := c.run.Further) (fun _ => .windDown) turn
    c.run.further_advance run
  have onward := stays_runStep own _ _ _ _ run
  refine ⟨left_of_completed, fun live => ?_, ?_, fun _ => ?_⟩
  · obtain ⟨there, same⟩ := onward.lastStep_of_live live
    exact same.trans (h.live there)
  · show d.run.lastStep.toInt ≤ steps.toInt + 1
    -- the last step moves only as the peer is lost, so that it is still the planned one before
    cases there : c.session.isTerminated with
    | true =>
      rw [onward.lastStep ((onward.gone there).trans there.symm)]
      exact h.last
    | false =>
      rcases last with same | ⟨within, moved⟩
      · rw [same]
        exact h.last
      · have further := toInt_add_one_le (c.run.currentStep + 1)
        rw [h.live there] at within
        rw [moved]
        omega
  · have next := (h.left turn).toInt_next
    have bound := h.bound turn
    show steps.toInt + 2 ≤ d.run.currentStep.toInt + n
    rw [current]
    omega

end Controller

end FluidStructure.Coupling

namespace FluidStructure.Programs.Fluid

open FluidStructure.Coupling FluidStructure.Parallel

variable {φ : Type} [FluidSolver φ] {place : Place} {p : Parameters} {mean : φ → Float}
  {out : Controller.ParentArrays} {x y : Coupled φ} {log : Log Parallel} {n : Nat}

theorem bounded_of_step {out' : Controller.ParentArrays}
    (bounded : x.1.Bounded p.maxTimeSteps (n + 1)) (turn : x.1.phase = .active)
    (run : (step place p mean out).Runs x log (.ok out') y) : y.1.Bounded p.maxTimeSteps n := by
  obtain ⟨s, ⟨_, _, _, _, _, -, made, rfl, -⟩ | ⟨_, _, _, wrong, -⟩⟩ := runs_step turn run
  · exact Controller.Bounded.stepped bounded turn made.run
  · cases wrong

/-- Where the steps of a run end, the run is over. -/
theorem idle_of_steps (bounded : x.1.Bounded p.maxTimeSteps n)
    (run : (steps place p mean n out).Runs x log (.ok ()) y) : y.1.phase ≠ .active := by
  induction n generalizing x out log with
  | zero =>
    obtain ⟨-, -, rfl⟩ := Act.runs_pure.1 run
    exact bounded.over
  | succ n ih =>
    unfold steps controller at run
    rw [runs_gets_bind] at run
    split at run
    · rename_i turn
      rcases Act.runs_bind.1 run with ⟨_, _, _, _, -, made, onward⟩ | ⟨_, wrong, -⟩
      · exact ih (bounded_of_step bounded turn made) onward
      · cases wrong
    · rename_i idle
      obtain ⟨-, -, rfl⟩ := Act.runs_pure.1 run
      exact idle

theorem runs_steps_add (bounded : x.1.Bounded p.maxTimeSteps n) (more : Nat)
    {result : Except Fault Unit} :
    (steps place p mean (n + more) out).Runs x log result y ↔
      (steps place p mean n out).Runs x log result y := by
  induction n generalizing x out log with
  | zero =>
    cases more with
    | zero => rfl
    | succ more =>
      unfold steps controller
      rw [runs_gets_bind, if_neg bounded.over]
  | succ n ih =>
    rw [Nat.succ_add]
    unfold steps controller
    rw [runs_gets_bind, runs_gets_bind]
    by_cases turn : x.1.phase = .active
    · rw [if_pos turn, if_pos turn]
      exact Act.runs_bind_congr fun _ _ _ _ made => ih (bounded_of_step bounded turn made)
    · rw [if_neg turn, if_neg turn]

theorem bounded_of_embed {time : Float}
    (started : RunControl.start p.maxTimeSteps time = .ok x.1.run)
    (begins : (Setting.embed Controller.begin).Runs x log (.ok ()) y) :
    y.1.Bounded p.maxTimeSteps (stepBound p) := by
  obtain ⟨d, t⟩ := y
  obtain ⟨_, begun, -⟩ := Setting.runs_embed_iff.1 begins
  exact Controller.bounded_of_begin started begun

/-- The bound is never what ends a time loop: where its steps end, the run is over, and with a larger
bound it has the same runs. -/
theorem timeLoop_unbounded {time : Float}
    (started : RunControl.start p.maxTimeSteps time = .ok x.1.run) :
    (∀ opening u stepping v, (Setting.embed Controller.begin).Runs x opening (.ok ()) u →
      (steps place p mean (stepBound p) out).Runs u stepping (.ok ()) v → v.1.phase ≠ .active) ∧
    ∀ bound, stepBound p ≤ bound → ∀ log result y,
      (timeLoop place p mean out).Runs x log result y ↔
        (Setting.embed Controller.begin >>= fun _ => steps place p mean bound out >>= fun _ =>
          Setting.embed Controller.finish).Runs x log result y := by
  refine ⟨fun _ _ _ _ begins ends => idle_of_steps (bounded_of_embed started begins) ends, ?_⟩
  intro bound enough log result y
  obtain ⟨more, rfl⟩ := Nat.exists_eq_add_of_le enough
  refine Act.runs_bind_congr fun _ _ _ _ begins => ?_
  rw [Act.runs_bind, Act.runs_bind]
  simp only [runs_steps_add (bounded_of_embed started begins) more]

end FluidStructure.Programs.Fluid
