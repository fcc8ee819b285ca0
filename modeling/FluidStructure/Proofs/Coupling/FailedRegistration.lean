import FluidStructure.Proofs.Coupling.Attachment
import FluidStructure.Proofs.Coupling.Conformance

/-!
# Registrations that fail

The checks come first, so that a registration that is turned down changes nothing.  The two sizes of
the interface are noted before the group sums its counts: a sum that fails leaves them behind.
Nothing else of the session differs, and no later registration can tell.
-/

namespace FluidStructure.Coupling

open FluidStructure.Channel FluidStructure.Journal

namespace Session

variable {place : Parallel.Place} {surface : Surface} {length : Float} {s t u : Session}
  {log : Log Coupling} {fault : Fault}

/-- The sessions have everything in common but the sizes of the interface. -/
def SameButSizes (s t : Session) : Prop :=
  t = { s with faceCount := t.faceCount, vertexCount := t.vertexCount }

namespace SameButSizes

theorem refl (s : Session) : s.SameButSizes s := rfl

theorem trans (first : s.SameButSizes t) (second : t.SameButSizes u) : s.SameButSizes u := by
  unfold SameButSizes at first second ⊢
  rw [first] at second
  exact second

theorem checkRegistration (same : s.SameButSizes t) (length : Float) :
    t.checkRegistration length = s.checkRegistration length := by
  unfold SameButSizes at same
  rw [same]
  rfl

theorem buffer (same : s.SameButSizes t) (b : Buffer) : t.buffer b = s.buffer b := by
  unfold SameButSizes at same
  rw [same]
  cases b <;> rfl

/-- The sizes are written anew. -/
theorem sized (same : s.SameButSizes t) (surface : Surface) : t.sized surface = s.sized surface := by
  unfold SameButSizes at same
  rw [same]
  rfl

end SameButSizes

theorem sameButSizes_sized (s : Session) (surface : Surface) :
    s.SameButSizes (s.sized surface) := rfl

theorem register_of_refused (refused : s.checkRegistration length = .error fault) :
    register place surface length s = .done (.error fault, s) := by
  unfold register
  rw [Act.get_bind_apply, refused]
  rfl

/-- Once the checks have passed, a registration works on a session that has the new sizes. -/
theorem SameButSizes.register_eq (same : s.SameButSizes t)
    (passed : s.checkRegistration length = .ok ()) :
    register place surface length t = register place surface length s := by
  unfold register
  rw [Act.get_bind_apply, Act.get_bind_apply, same.checkRegistration, passed]
  rw [ofExcept_bind_apply, ofExcept_bind_apply, opening_ok, opening_ok, Act.modify_bind_apply,
    Act.modify_bind_apply, same.sized]

theorem SameButSizes.register_ok_iff (same : s.SameButSizes t) :
    (register place surface length).Runs t log (.ok ()) u ↔
      (register place surface length).Runs s log (.ok ()) u := by
  unfold Act.Runs
  cases check : s.checkRegistration length with
  | ok => rw [same.register_eq check]
  | error fault =>
    rw [register_of_refused check, register_of_refused ((same.checkRegistration _).trans check)]
    simp only [Program.runs_done, Prod.mk.injEq, reduceCtorEq, false_and, and_false]

theorem SameButSizes.register_error_iff (same : s.SameButSizes t) :
    (∃ u, (register place surface length).Runs t log (.error fault) u) ↔
      ∃ u, (register place surface length).Runs s log (.error fault) u := by
  unfold Act.Runs
  cases check : s.checkRegistration length with
  | ok => rw [same.register_eq check]
  | error other =>
    rw [register_of_refused check, register_of_refused ((same.checkRegistration _).trans check)]
    simp only [Program.runs_done, Prod.mk.injEq, exists_and_left, exists_eq]

theorem sameButSizes_of_register_error
    (run : (register place surface length).Runs s log (.error fault) t) : s.SameButSizes t := by
  cases Controller.runs_registration run with
  | refused => exact .refl s
  | unsummed => exact sameButSizes_sized s surface

/-- Registrations that all fail, each in the session that the one before has left. -/
inductive Failures : Session → Session → Prop
  | nil (s : Session) : Failures s s
  | cons {s t u : Session} {place : Parallel.Place} {surface : Surface} {length : Float}
      {log : Log Coupling} {fault : Fault}
      (run : (register place surface length).Runs s log (.error fault) t) (later : Failures t u) :
      Failures s u

theorem Failures.sameButSizes (failures : Failures s t) : s.SameButSizes t := by
  induction failures with
  | nil s => exact .refl s
  | cons run _ ih => exact (sameButSizes_of_register_error run).trans ih

/-- A registration that fails is turned down by a check and has no effect, or the group cannot sum
the counts: then the session has got the sizes of the interface, and is as before otherwise.  After
any number of failures a registration succeeds, or fails, as it would have without them, and one
that succeeds gives the very same session. -/
theorem register_error (run : (register place surface length).Runs s log (.error fault) t) :
    (s.checkRegistration length = .error fault ∧ log = [] ∧ t = s ∨
      s.checkRegistration length = .ok () ∧
        log = [⟨.sumCounts [Int64.ofNat surface.faceCount, Int64.ofNat surface.ownedVertices],
          .error fault⟩] ∧ t = s.sized surface) ∧
    s.SameButSizes t ∧ (∀ b, t.buffer b = s.buffer b) ∧
    ∀ u, Failures t u → s.SameButSizes u ∧ ∀ place surface length log,
      (∀ v, (register place surface length).Runs u log (.ok ()) v ↔
        (register place surface length).Runs s log (.ok ()) v) ∧
      ∀ fault, (∃ v, (register place surface length).Runs u log (.error fault) v) ↔
        ∃ v, (register place surface length).Runs s log (.error fault) v := by
  have same := sameButSizes_of_register_error run
  refine ⟨?_, same, same.buffer, fun u failures => ?_⟩
  · cases Controller.runs_registration run with
    | refused _ check => exact .inl ⟨check, rfl, rfl⟩
    | unsummed _ check => exact .inr ⟨check, rfl, rfl⟩
  · have whole := same.trans failures.sameButSizes
    exact ⟨whole, fun _ _ _ _ => ⟨fun _ => whole.register_ok_iff, fun _ => whole.register_error_iff⟩⟩

end Session

namespace UnsummedRun

open Session

/-- The group cannot sum counts. -/
def reply : (request : Request) → request.Reply
  | .sumCounts _ => .error (.messagePassing "MPI_Allreduce" 5)
  | request => Controller.echo Status.ok request

def before : Session := Session.new {} .none

def failed : Log Coupling × Except Fault Unit × Session :=
  (Session.register {} EchoedRun.surface 1.0 before).follow reply

/-- Had the group been able to sum counts. -/
def first : Log Coupling × Except Fault Unit × Session :=
  (Session.register {} EchoedRun.surface 1.0 before).follow (Controller.echo Status.ok)

/-- The first registration of a session fails, the second one succeeds as if it were the first. -/
theorem register_error_unsummed :
    failed.2.1 = .error (.messagePassing "MPI_Allreduce" 5) ∧ failed.2.2.displacement = before.displacement ∧
    first.2.1 = .ok () ∧
    (Session.register {} EchoedRun.surface 1.0).Runs failed.2.2 first.1 (.ok ()) first.2.2 := by
  have run : (Session.register {} EchoedRun.surface 1.0).Runs before failed.1
      (.error (.messagePassing "MPI_Allreduce" 5)) failed.2.2 :=
    Act.runs_follow (I := Coupling) reply _ _
  obtain ⟨-, -, buffers, later⟩ := register_error run
  obtain ⟨-, again⟩ := later failed.2.2 (.nil _)
  refine ⟨rfl, buffers .displacement, rfl, ((again {} EchoedRun.surface 1.0 first.1).1 first.2.2).2 ?_⟩
  exact Act.runs_follow (I := Coupling) (Controller.echo Status.ok) _ _

/-- A registration has failed, and the session has other sizes than before. -/
theorem unsummed_leaves_sizes :
    (Session.register {} EchoedRun.surface 1.0).Runs before failed.1
      (.error (.messagePassing "MPI_Allreduce" 5)) failed.2.2 ∧
    before.faceCount = 0 ∧ before.vertexCount = 0 ∧
    failed.2.2.faceCount = 1 ∧ failed.2.2.vertexCount = 4 :=
  ⟨Act.runs_follow (I := Coupling) reply _ _, rfl, rfl, rfl, rfl⟩

end UnsummedRun

end FluidStructure.Coupling
