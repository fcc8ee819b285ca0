import FluidStructure.Proofs.Coupling.Lifecycle
import FluidStructure.Proofs.Coupling.StepsLeft
import FluidStructure.Proofs.Coupling.Unfailing

/-!
# Ready for a step

The staging buffers are sized when the run begins and keep their size from there, whatever a caller
does and whatever faults.  So a step that can be run finds all that its checks ask for, as long as
the session has the interface that was registered.
-/

namespace FluidStructure.Coupling

open FluidStructure.Channel FluidStructure.Journal

namespace Controller

variable {c d : Controller} {log : Log Coupling} {length : Float}

/-! ## Staging buffers -/

/-- The staging buffers have three components for each vertex. -/
structure Spacious (c : Controller) : Prop where
  displacement : c.displacementStaging.length = 3 * c.session.vertexCount
  velocity : c.velocityStaging.length = 3 * c.session.vertexCount

theorem spacious_receipt {peer : Int32} {fault : Option Fault}
    (receipt : Receipt peer c log fault d) (spacious : c.Spacious) : d.Spacious := by
  have displacement (values : List Float) := (length_overwrite c.displacementStaging values).trans
    spacious.displacement
  have velocity (values : List Float) := (length_overwrite c.velocityStaging values).trans
    spacious.velocity
  cases receipt with
  | noFirst => exact spacious
  | badFirst | noSecond => exact ⟨displacement _, spacious.velocity⟩
  | badSecond | unfit | taken => exact ⟨displacement _, velocity _⟩

theorem rules_spacious : Rules fun c _ _ d => c.Spacious → d.Spacious where
  refl := fun _ => id
  trans := fun _ _ _ _ _ _ h k spacious => k (h spacious)
  aside := by
    intro c d aside spacious
    have count : d.session.vertexCount = c.session.vertexCount :=
      congrArg (·.vertexCount) aside.session
    constructor
    · rw [aside.displacementStaging, count]
      exact spacious.displacement
    · rw [aside.velocityStaging, count]
      exact spacious.velocity
  asked := fun _ _ _ _ _ => id
  told := fun _ _ _ _ h _ => h
  refused := fun _ _ _ => id
  checked := fun _ _ _ => id
  staged := Act.within_modify fun _ _ => ⟨List.length_replicate, List.length_replicate⟩
  received := fun _ _ _ _ _ => spacious_receipt
  rested := fun _ _ spacious => ⟨spacious.displacement, spacious.velocity⟩

theorem spacious_release :
    (modifySession Session.release).Within fun c _ _ d => c.Spacious → d.Spacious := by
  refine Act.within_modify fun c spacious => ?_
  have count : c.session.release.vertexCount = c.session.vertexCount := by
    unfold Session.release
    split <;> rfl
  constructor
  · exact spacious.displacement.trans (congrArg (3 * ·) count.symm)
  · exact spacious.velocity.trans (congrArg (3 * ·) count.symm)

theorem spacious_call (call : SessionCall) :
    (modifySession call.apply).Within fun c _ _ d => c.Spacious → d.Spacious := by
  cases call with
  | release => exact spacious_release
  | writeBuffer buffer values =>
    refine Act.within_modify fun c spacious => ?_
    cases buffer <;> exact ⟨spacious.displacement, spacious.velocity⟩
  | _ => exact Act.within_modify fun _ spacious => ⟨spacious.displacement, spacious.velocity⟩

/-- The beginning sizes the staging buffers, or the run has not begun. -/
theorem spacious_begin {result : Except Fault Unit} (turn : c.phase = .uninitialized)
    (run : begin.Runs c log result d) : d.phase = .uninitialized ∨ d.Spacious := by
  unfold begin Act.Runs at run
  rw [requirePhase_bind_apply, if_pos turn, Act.get_bind_apply] at run
  split at run
  · obtain ⟨-, -, rfl⟩ := Act.runs_fail.1 run
    exact .inl turn
  · unfold sizeStaging at run
    rw [Act.modify_bind_apply] at run
    exact .inr <|
      rules_spacious.opening _ _ _ _ run ⟨List.length_replicate, List.length_replicate⟩

theorem spacious_deed {deed : Deed} {outcome : Except Fault Unit} (settled : c.session.Settled)
    (spacious : c.Spacious) (run : deed.perform.Runs c log outcome d) : d.Spacious := by
  by_cases registers : ∃ surface length, deed = .register surface length
  · obtain ⟨surface, length, rfl⟩ := registers
    obtain ⟨_, -, -, -, rfl⟩ := register_of_settled settled run
    exact spacious
  · refine rules_spacious.deed (rules_spacious.finish spacious_release) ?_
      (fun call _ => spacious_call call) _ _ _ _ run spacious
    exact fun surface length same => absurd ⟨surface, length, same⟩ registers

/-! ## Histories -/

/-- Before the beginning, after the end, or with staging buffers that fit. -/
def Furnished (c : Controller) : Prop :=
  (c.phase = .uninitialized ∨ c.phase = .closed) ∨ c.Spacious

/-- Of a run that is not under way only the beginning and the end make something else. -/
theorem furnished_of_idle {operation : Operation} {outcome : Except Fault Answer}
    (idle : c.phase = .uninitialized ∨ c.phase = .closed)
    (run : operation.perform.Runs c log outcome d) : d.Furnished := by
  by_cases saving : operation = .saveValues
  · obtain rfl := saving
    obtain ⟨-, -, rfl⟩ := runs_saveValues run
    exact .inl idle
  by_cases allowed : c.Allows operation
  case neg =>
    obtain ⟨-, rfl, -⟩ := refused_of_not_allows saving allowed run
    exact .inl idle
  cases operation with
  | begin =>
    obtain ⟨_, begun, -⟩ := Act.runs_bind_pure.1 run
    exact (spacious_begin allowed.1 begun).imp_left .inl
  | finish =>
    obtain ⟨_, ended, -⟩ := Act.runs_bind_pure.1 run
    obtain ⟨-, again, first⟩ := runs_finish ended
    by_cases closed : c.phase = .closed
    · rw [(again closed).2]
      exact .inl idle
    · rw [(first closed).2]
      exact .inl (.inr rfl)
  | _ => rcases idle with phase | phase <;> simp [Allows, phase] at allowed

theorem Furnished.deed {deed : Deed} {outcome : Except Fault Unit} (settled : c.session.Settled)
    (h : c.Furnished) (run : deed.perform.Runs c log outcome d) : d.Furnished := by
  rcases h with idle | spacious
  case inr => exact .inr (spacious_deed settled spacious run)
  by_cases operates : ∃ operation, deed = .operate operation
  · obtain ⟨operation, rfl⟩ := operates
    obtain ⟨_, called, -⟩ := Act.runs_bind_pure.1 run
    exact furnished_of_idle idle called
  by_cases steers : ∃ control, deed = .steer control
  · obtain ⟨control, rfl⟩ := steers
    obtain ⟨-, -, rfl⟩ := Act.runs_modify.1 run
    exact .inl idle
  · obtain ⟨phase, -⟩ := winds_deed (P := fun _ => True) (fun _ => id)
      (fun operation same => operates ⟨operation, same⟩)
      (fun control same => steers ⟨control, same⟩) _ _ _ _ run
    exact .inl (phase ▸ idle)

theorem furnished_of_doings {doings : List Doing} (measured : c.session.Measured length)
    (h : c.Furnished) (history : Doings c doings d) : d.Furnished := by
  induction history with
  | nil => exact h
  | cons run _ ih =>
    obtain ⟨kept, -⟩ := keeps_deed _ _ _ _ _ run measured
    exact ih kept (h.deed measured.settled run)

/-- An active run whose session has an interface with a positive length can make a step. -/
theorem equipped_of_doings {place : Parallel.Place} {surface : Surface} {s : Session}
    {registering : Log Coupling} {doings : List Doing}
    (registered : (Session.register place surface length).Runs s registering (.ok ()) c.session)
    (early : c.phase = .uninitialized) (positive : (0.0 : Float) < length)
    (history : Doings c doings d) (held : d.session.isRegistered = true)
    (turn : d.phase = .active) : d.Equipped := by
  have measured := measured_of_register registered
  have housed : c.session.Housed := by
    obtain ⟨going, -⟩ := Session.checkRegistration_ok.1 (checked_of_register registered)
    obtain ⟨faces, vertices, same⟩ := runs_register registered
    rw [same]
    exact Session.housed_attach _ _ _ _ _ going
  have house := (lifetime_of_doings housed history).housed
  obtain ⟨ends, -⟩ := measured_of_doings measured history
  rcases furnished_of_doings measured (.inl (.inl early)) history with (idle | idle) | spacious
  · cases turn.symm.trans idle
  · cases turn.symm.trans idle
  · obtain ⟨interface, attached⟩ := Option.isSome_iff_exists.1 held
    have room (b : Session.Buffer) (h : b.points interface = interface.vertexCount) :
        (d.session.buffer b).length = 3 * d.session.vertexCount := by
      rw [house.room, Session.room, attached, (house.counts interface attached).1]
      exact congrArg (3 * ·) h
    refine ⟨⟨⟨house.sized, ?_⟩, ?_⟩, ends.length ▸ positive⟩
    · exact spacious.displacement.trans (room .displacement rfl).symm
    · exact spacious.velocity.trans (room .velocity rfl).symm

end Controller

end FluidStructure.Coupling
