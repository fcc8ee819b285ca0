import FluidStructure.Config.Reader
import FluidStructure.Proofs.Coupling.Conformance
import FluidStructure.Proofs.Coupling.Deeds
import FluidStructure.Proofs.Doubles

/-!
# The reference length

The residual asks for a positive reference length, the registration only turns down lengths that are
at most zero.  Between the two lies what is no number: it is registered, and faults in the first
sub-iteration that asks for a residual.  Any other length that is registered is positive, and stays.
-/

namespace FluidStructure.Coupling

open FluidStructure.Channel FluidStructure.Journal

/-! ## The check on the length -/

/-- The fault of a residual without a length. -/
def lengthFault : Fault := .requirement "lref > 0.0" "reference length must be positive"

theorem require_error {holds : Bool} {condition text : String} {fault : Fault}
    (h : Fault.require holds condition text = .error fault) : fault = .requirement condition text := by
  unfold Fault.require at h
  split at h
  · cases h
  · exact (Except.error.inj h).symm

namespace Prediction

theorem combine2_error {c : Coefficients} {out a b : List Float} {fault : Fault}
    (h : combine2 c out a b = .error fault) : fault ≠ lengthFault := by
  unfold combine2 at h
  split at h
  · rename_i failed
    obtain rfl := Except.error.inj h
    simp [require_error failed, lengthFault]
  · cases h

theorem combine3_error {c : Coefficients} {out a b d : List Float} {fault : Fault}
    (h : combine3 c out a b d = .error fault) : fault ≠ lengthFault := by
  unfold combine3 at h
  split at h
  · rename_i failed
    obtain rfl := Except.error.inj h
    simp [require_error failed, lengthFault]
  · cases h

end Prediction

theorem error_of_map {α β : Type} {use : α → β} {outcome : Except Fault α} {fault : Fault}
    (h : outcome.map use = .error fault) : outcome = .error fault := by
  cases outcome with
  | error => exact congrArg _ (Except.error.inj h)
  | ok => cases h

/-- With a positive length no check on a session is the one on the length. -/
theorem Session.Unfit.ne_lengthFault {s : Session} {fault : Fault} (unfit : s.Unfit fault)
    (positive : 0.0 < s.referenceLength) : fault ≠ lengthFault := by
  cases unfit with
  | forces h => exact Prediction.combine2_error (error_of_map h)
  | displacement h =>
    have failed := error_of_map h
    split at failed
    · exact Prediction.combine3_error failed
    · exact Prediction.combine2_error failed
  | residual h =>
    unfold Convergence.checkOperands at h
    cases sizes : Fault.require (decide (s.displacement.length = s.predictedDisplacement.length))
        "a.size() == b.size()" "residual operands differ in size" with
    | error other =>
      rw [sizes] at h
      obtain rfl := Except.error.inj h
      simp [require_error sizes, lengthFault]
    | ok =>
      rw [sizes] at h
      change Fault.require _ _ _ = _ at h
      simp [Fault.require, positive] at h

/-! ## Sessions with a length -/

/-- The length that came with the interface is there to stay: the session has the interface, or has
been released. -/
structure Session.Measured (length : Float) (s : Session) : Prop where
  length : s.referenceLength = length
  settled : s.Settled

namespace Session.Measured

variable {length : Float} {s t : Session}

theorem of_bare (measured : s.Measured length) (same : t.bare = s.bare) : t.Measured length := by
  have lengths : t.referenceLength = s.referenceLength := congrArg (·.referenceLength) same
  have interfaces : t.isRegistered = s.isRegistered := congrArg (·.isRegistered) same
  have releases : t.released = s.released := congrArg (·.released) same
  refine ⟨lengths.trans measured.length, ?_⟩
  rw [Session.Settled, interfaces, releases]
  exact measured.settled

theorem release (measured : s.Measured length) : s.release.Measured length := by
  refine ⟨?_, .inr s.released_release⟩
  unfold Session.release
  split
  · exact measured.length
  · exact measured.length

theorem apply (measured : s.Measured length) (call : SessionCall) :
    (call.apply s).Measured length := by
  cases call with
  | release => exact measured.release
  | writeBuffer buffer values => cases buffer <;> exact ⟨measured.length, measured.settled⟩
  | _ => exact ⟨measured.length, measured.settled⟩

end Session.Measured

theorem measured_of_register {place : Parallel.Place} {surface : Surface} {length : Float}
    {s t : Session} {log : Log Coupling}
    (run : (Session.register place surface length).Runs s log (.ok ()) t) : t.Measured length := by
  obtain ⟨faces, vertices, rfl⟩ := Controller.runs_register run
  exact ⟨rfl, .inl rfl⟩

/-- The registration turns down all lengths that are not positive, but not what is no number. -/
theorem pos_iff_of_register {place : Parallel.Place} {surface : Surface} {length : Float}
    {s t : Session} {log : Log Coupling}
    (run : (Session.register place surface length).Runs s log (.ok ()) t) :
    0.0 < length ↔ length.isNaN = false := by
  obtain ⟨-, -, above⟩ := Session.checkRegistration_ok.1 (Controller.checked_of_register run)
  exact ⟨isNaN_of_lt, fun number => pos_of_not_le number above⟩

namespace Controller

variable {c d : Controller} {log : Log Coupling} {fault : Option Fault} {length : Float}

/-- The length stays, and if it is positive, the fault on the length comes from elsewhere. -/
def KeepsLength (length : Float) (c : Controller) (log : Log Coupling) (fault : Option Fault)
    (d : Controller) : Prop :=
  c.session.Measured length → d.session.Measured length ∧
    (0.0 < length → fault = some lengthFault → Told log lengthFault)

theorem keeps_of_ne (same : c.session.Measured length → d.session.Measured length)
    (other : c.session.Measured length → 0.0 < length → fault ≠ some lengthFault) :
    KeepsLength length c log fault d :=
  fun measured => ⟨same measured, fun positive wrong => absurd wrong (other measured positive)⟩

theorem keeps_receipt {peer : Int32} (receipt : Receipt peer c log fault d) :
    KeepsLength length c log fault d := by
  cases receipt with
  | noFirst fault =>
    exact fun measured => ⟨measured, fun _ same => .single (congrArg some (Option.some.inj same))⟩
  | noSecond first fault =>
    refine fun measured => ⟨measured, fun _ same => ?_⟩
    exact ⟨_, List.mem_cons_of_mem _ List.mem_cons_self, congrArg some (Option.some.inj same)⟩
  | unfit first second fault check =>
    refine keeps_of_ne id fun _ _ => ?_
    unfold stagingCheck Fault.assert at check
    split at check
    · cases check
    · simp [← Except.error.inj check, lengthFault]
  | taken => exact keeps_of_ne (fun measured => ⟨measured.length, measured.settled⟩) nofun
  | _ => exact keeps_of_ne id nofun

theorem rules_keeps (length : Float) : Rules (KeepsLength length) where
  refl := fun c => keeps_of_ne id nofun
  trans := by
    intro c first d second fault e h k measured
    obtain ⟨reached, -⟩ := h measured
    obtain ⟨kept, told⟩ := k reached
    refine ⟨kept, fun positive same => ?_⟩
    obtain ⟨e, member, faults⟩ := told positive same
    exact ⟨e, List.mem_append_right _ member, faults⟩
  aside := fun c d aside => keeps_of_ne (fun measured => measured.of_bare aside.session) nofun
  asked := fun c request reply _ _ => keeps_of_ne id nofun
  told := by
    intro c log d fault h told measured
    exact ⟨(h measured).1, fun _ same => Option.some.inj same ▸ told⟩
  refused := by
    intro c fault refusal
    refine keeps_of_ne id fun _ _ same => ?_
    rw [Option.some.inj same] at refusal
    cases refusal
  checked := by
    intro c fault unfit
    refine keeps_of_ne id fun measured positive same => ?_
    exact unfit.ne_lengthFault (measured.length ▸ positive) (Option.some.inj same)
  staged := Act.within_modify fun c => keeps_of_ne id nofun
  received := fun _ _ _ _ _ => keeps_receipt
  rested := fun c _ => keeps_of_ne (fun measured => ⟨measured.length, measured.settled⟩) nofun

theorem keeps_finish : finish.Within (KeepsLength length) :=
  (rules_keeps length).finish <|
    Act.within_modify fun _ => keeps_of_ne (fun measured => measured.release) nofun

/-- A further registration is turned down. -/
theorem keeps_register (surface : Surface) (other : Float) :
    (Controller.register surface other).Within (KeepsLength length) := by
  intro c log result d run measured
  obtain ⟨t, registering, rfl⟩ := runs_registerSession.1 run
  cases runs_registration registering with
  | refused fault check =>
    rw [measured.settled.refuses] at check
    refine ⟨measured, fun _ same => ?_⟩
    rw [← Except.error.inj check] at same
    split at same <;> exact absurd (Option.some.inj same) nofun
  | unsummed _ check => exact absurd measured.settled (Session.not_settled_of_check check)
  | attached _ check => exact absurd measured.settled (Session.not_settled_of_check check)

theorem keeps_deed (deed : Deed) : deed.perform.Within (KeepsLength length) :=
  (rules_keeps length).deed keeps_finish (fun surface other _ => keeps_register surface other)
    fun call _ => Act.within_modify fun _ => keeps_of_ne (fun measured => measured.apply call) nofun

theorem measured_of_doings {doings : List Doing} (measured : c.session.Measured length)
    (history : Doings c doings d) :
    d.session.Measured length ∧
      (0.0 < length → ∀ doing ∈ doings, doing.outcome = .error lengthFault →
        Told doing.log lengthFault) := by
  induction history with
  | nil => exact ⟨measured, fun _ => List.forall_mem_nil _⟩
  | cons run _ ih =>
    obtain ⟨kept, told⟩ := keeps_deed _ _ _ _ _ run measured
    obtain ⟨ends, later⟩ := ih kept
    refine ⟨ends, fun positive => List.forall_mem_cons.2 ⟨fun failed => ?_, later positive⟩⟩
    exact told positive (by rw [failed]; rfl)

end Controller

open Controller

/-- Whatever a caller does after an interface has been registered: the session keeps the reference
length, which is positive unless it is no number.  Then nothing that is done fails for want of a
positive length, unless the surroundings say so. -/
theorem referenceLength_pos {c d : Controller} {before after : List Doing} {surface : Surface}
    {length : Float} {log : Log Coupling}
    (history : Doings c (before ++ ⟨.register surface length, log, .ok ()⟩ :: after) d) :
    d.session.referenceLength = length ∧
    (0.0 < d.session.referenceLength ↔ length.isNaN = false) ∧
    (length.isNaN = false → ∀ doing ∈ after, doing.outcome = .error lengthFault →
      Told doing.log lengthFault) := by
  obtain ⟨e, -, onward⟩ := doings_append.1 history
  cases onward with
  | cons run later =>
    obtain ⟨t, registering, rfl⟩ := runs_registerSession.1 run
    have positive := pos_iff_of_register registering
    obtain ⟨measured, told⟩ := measured_of_doings (measured_of_register registering) later
    rw [measured.length]
    exact ⟨rfl, positive, fun number => told (positive.2 number)⟩

namespace EchoedRun

/-- Before a run with sub-iterations and without an interface. -/
def unattached (parameters : Parameters) : Controller where
  place := {}
  session := Session.new parameters { root := 1 }
  run := { lastStep := 1, previousTime := 0.0, time := 0.0 }

def attached : Log Coupling × Except Fault Unit × Controller :=
  ((Deed.register surface 0.5).perform (unattached { maxSubIterations := 2 })).follow
    (echo Status.ok)

/-- A step, and a release in the midst of it. -/
def measured : List Doing × Controller :=
  carryOut (echo Status.ok)
    [.operate .begin, .operate (.beginStep 0.5), .operate .exchangeConvergence, .alter .release,
      .register surface 0.25, .operate .endStep]
    attached.2.2

/-- The length is there after the release. -/
theorem referenceLength_pos_released : measured.2.session.released = true ∧
    measured.2.session.referenceLength = 0.5 ∧ 0.0 < measured.2.session.referenceLength := by
  have registering : (Deed.register surface 0.5).perform.Runs
      (unattached { maxSubIterations := 2 }) attached.1 (.ok ()) attached.2.2 :=
    Act.runs_follow (I := Coupling) (echo Status.ok) _ _
  have history : Doings attached.2.2 measured.1 measured.2 := doings_carryOut _ _ _
  obtain ⟨same, positive, -⟩ :=
    referenceLength_pos (doings_append.2 ⟨_, .nil _, .cons registering history⟩)
  exact ⟨rfl, same, positive.2 (by decide)⟩

/-- A configuration that is accepted. -/
def lengthless : String :=
  "max_time_steps: 1\nmax_sub_iterations: 2\nreference_time_step: 0.5\nreference_length: nan"

def lengthlessParameters : Parameters where
  maxTimeSteps := 1
  maxSubIterations := 2
  referenceStep := 0.5
  referenceLength := Float.ofBits 0x7ff8000000000000

def lengthlessRun : List Doing × Controller :=
  carryOut (echo Status.ok)
    [.register surface lengthlessParameters.referenceLength, .operate .begin,
      .operate (.runStep 0.5)]
    (unattached lengthlessParameters)

theorem fault?_echo (status : Status) (request : Request) :
    request.fault? (echo status request) = none := by
  cases request <;> rfl

/-- What is no number is read, validated and registered as a length.  It is not positive, and the
first step faults at the residual and is left open. -/
theorem lengthless_faults :
    (Config.read lengthless).bind Parameters.ofSection = .ok lengthlessParameters ∧
    Doings (unattached lengthlessParameters) lengthlessRun.1 lengthlessRun.2 ∧
    lengthlessRun.1.map Doing.outcome = [.ok (), .ok (), .error lengthFault] ∧
    ¬ 0.0 < lengthlessRun.2.session.referenceLength ∧
    lengthlessRun.2.phase = .subIterating ∧
    ∀ doing ∈ lengthlessRun.1, ¬ Told doing.log lengthFault := by
  refine ⟨rfl, doings_carryOut _ _ _, rfl, by decide, rfl, ?_⟩
  rintro doing done ⟨e, member, faults⟩
  rw [mem_carryOut done member, fault?_echo] at faults
  cases faults

end EchoedRun

end FluidStructure.Coupling
