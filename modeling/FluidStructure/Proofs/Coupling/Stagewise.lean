import FluidStructure.Proofs.Coupling.Effects

/-!
# What the stages of a sub-iteration keep

A stage changes the buffers, the staging, the flags and the residual; it exchanges fields and a flag;
and it may lose the peer.  A relation that each of these keeps is kept by the stages, and by the
sub-iteration as a whole, whatever comes of them.
-/

namespace FluidStructure.Coupling.Controller

/-- Buffers, staging, flags and the residual may differ. -/
structure Alongside (c d : Controller) : Prop where
  run : d.run = c.run
  phase : d.phase = c.phase
  stepDt : d.stepDt = c.stepDt
  dt : d.session.dt = c.session.dt
  iteration : d.session.iteration = c.session.iteration
  subIteration : d.session.subIteration = c.session.subIteration

theorem Alongside.refl (c : Controller) : c.Alongside c := ⟨rfl, rfl, rfl, rfl, rfl, rfl⟩

end FluidStructure.Coupling.Controller

namespace FluidStructure.Act

open Coupling Coupling.Controller Channel Journal

variable {R : Controller → Log Coupling → Controller → Prop}

/-- A relation that is kept by whatever a stage does before the flag is exchanged. -/
structure Stagewise (R : Controller → Log Coupling → Controller → Prop) : Prop
    extends Transitive R where
  aside : ∀ {c d : Controller} {log}, Noted log → c.Alongside d → R c log d
  sent : ∀ peer name values, (perform (I := Coupling) (.sendField peer name values)).Keeps R
  received : ∀ peer name buffer, (perform (I := Coupling) (.receiveField peer name buffer)).Keeps R
  lost : ∀ c : Controller, R c [] { c with session := c.session.terminate, run := c.run.windDown }

namespace Stagewise

theorem modify (h : Stagewise R) {change : Controller → Controller}
    (alongside : ∀ c : Controller, c.Alongside (change c)) : (Act.modify change).Keeps R :=
  keeps_modify fun c => h.aside (List.forall_mem_nil _) (alongside c)

theorem note (h : Stagewise R) (notice : Notice) :
    (perform (I := Coupling) (.note notice)).Keeps R :=
  keeps_perform fun c _ => h.aside (List.forall_mem_singleton.2 ⟨notice, rfl⟩) (.refl c)

theorem disconnect (h : Stagewise R) (during : String) : (Controller.disconnect during).Keeps R :=
  h.toTransitive.disconnect h.note h.lost during

theorem heed (h : Stagewise R) (status : Status) (during : String) :
    (Controller.heed status during).Keeps R := h.toTransitive.heed (h.disconnect during) status

theorem sendForces (h : Stagewise R) : Controller.sendForces.Keeps R := by
  refine h.bind (h.requirePhase _ _) fun _ => h.unlessTerminated <|
    h.bind ?_ fun _ => h.bind h.get fun c => ?_
  · intro c log result d run
    obtain ⟨noted, _, rfl⟩ := runs_predictForces run
    exact h.aside noted ⟨rfl, rfl, rfl, rfl, rfl, rfl⟩
  · dsimp only
    split
    · exact h.pure _
    · exact h.bind (h.bind (h.sent _ _ _) fun _ => h.ofExcept _) fun _ => h.heed _ _

theorem acceptStaged (h : Stagewise R) (status : Status) :
    (Controller.acceptStaged status).Keeps R := by
  unfold Controller.acceptStaged
  split
  · exact h.disconnect _
  · exact h.bind h.get fun _ => h.bind (h.ofExcept _) fun _ =>
      h.modify fun _ => ⟨rfl, rfl, rfl, rfl, rfl, rfl⟩

theorem receiveDisplacement (h : Stagewise R) : Controller.receiveDisplacement.Keeps R := by
  refine h.bind (h.requirePhase _ _) fun _ => h.bind h.get fun c => ?_
  split
  · exact h.modify fun _ => ⟨rfl, rfl, rfl, rfl, rfl, rfl⟩
  · exact h.unlessTerminated <| h.bind (h.noteIf h.note _ _) fun _ =>
      h.bind (h.receiveStaged (h.received _)
        (fun _ _ => h.aside (List.forall_mem_nil _) ⟨rfl, rfl, rfl, rfl, rfl, rfl⟩)
        fun _ _ => h.aside (List.forall_mem_nil _) ⟨rfl, rfl, rfl, rfl, rfl, rfl⟩) fun _ =>
      h.acceptStaged _

theorem predictDisplacement (h : Stagewise R) : Controller.predictDisplacement.Keeps R := by
  refine h.bind (h.requirePhase _ _) fun _ => h.bind h.get fun c => ?_
  split
  · exact h.pure _
  · intro c log result d run
    obtain ⟨noted, _, rfl⟩ := runs_predictMotion run
    exact h.aside noted ⟨rfl, rfl, rfl, rfl, rfl, rfl⟩

theorem saveValues (h : Stagewise R) : Controller.saveValues.Keeps R := by
  refine h.modify fun c => ?_
  unfold Session.savePrevious
  dsimp only
  split <;> exact ⟨rfl, rfl, rfl, rfl, rfl, rfl⟩

section Flag

variable (own : ∀ {c d : Controller} {log}, Local log → c.Alongside d → R c log d)
  (flag : ∀ peer iteration name values,
    (perform (I := Coupling) (.sendInts peer iteration name values)).Keeps R)

include own flag

/-- For the flag the group and the solver are asked, and the peer is told. -/
theorem exchangeConvergence (h : Stagewise R) : Controller.exchangeConvergence.Keeps R := by
  have asking {request : Request} (here : request.isLocal = true) :
      (perform (I := Coupling) request).Keeps R :=
    keeps_perform fun c _ => own (Local.nil.cons here) (.refl c)
  refine h.bind (h.requirePhase _ _) fun _ => h.bind h.get fun c =>
    h.bind ?_ fun converged => h.bind ?_ fun peer => h.bind ?_ fun status =>
    h.bind ?_ fun _ => h.bind (h.heed _ _) fun _ => h.pure _
  · intro c log result d run
    obtain ⟨asked, _, _, rfl⟩ := runs_evaluate run
    exact own asked ⟨rfl, rfl, rfl, rfl, rfl, rfl⟩
  · exact h.bind h.get fun _ => h.bind (asking rfl) fun _ => h.bind (h.ofExcept _) fun _ =>
      h.bind (h.modify fun _ => ⟨rfl, rfl, rfl, rfl, rfl, rfl⟩) fun _ => h.pure _
  · refine h.bind h.get fun d => ?_
    dsimp only
    split
    · exact h.onRoot (flag _ _ _ _)
    · exact h.pure _
  · exact h.bind (asking rfl) fun _ => h.bind (h.ofExcept _) fun _ => h.pure _

/-- Besides the stages, a sub-iteration has the solver compute and take the motion, and counts. -/
theorem subIterate (h : Stagewise R) (computed : Controller.computeForces.Keeps R)
    (imposed : ∀ session values,
      (perform (I := Coupling) (.imposeDisplacement session values)).Keeps R)
    (counted : (modifySession Session.nextSubIteration).Keeps R) : Controller.subIterate.Keeps R :=
  h.bind computed fun _ => h.bind h.sendForces fun _ => h.bind h.receiveDisplacement fun _ =>
    h.bind h.predictDisplacement fun _ =>
    h.bind (h.unlessTerminated (h.imposeDisplacement imposed)) fun _ =>
    h.bind (h.exchangeConvergence own flag) fun _ => h.bind h.saveValues fun _ =>
    h.bind counted fun _ => h.bind h.get fun _ => h.pure _

end Flag

end Stagewise

end FluidStructure.Act
