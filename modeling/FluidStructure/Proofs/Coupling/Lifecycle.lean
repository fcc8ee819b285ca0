import FluidStructure.Proofs.Coupling.Attachment
import FluidStructure.Proofs.Coupling.ReferenceLength

/-!
# The life of a session

A session has no interface, then one, then none any more.  Its buffers have room for the interface
that it has, whatever is done with it in between and whatever faults, so that no kernel is ever
called on operands of different sizes.
-/

namespace FluidStructure

/-- A kernel has turned down its operands for their sizes. -/
def Fault.isMisfit : Fault → Bool
  | .requirement _ text =>
    text = Coupling.Prediction.sizeFault || text = "residual operands differ in size"
  | _ => false

namespace Coupling

open FluidStructure.Channel FluidStructure.Journal

/-! ## Room for an interface -/

namespace Session

/-- What the vectors of a buffer belong to: faces if they are forces, otherwise vertices. -/
def Buffer.points : Buffer → Surface → Nat
  | .force, surface | .previousForce, surface | .predictedForce, surface => surface.faceCount
  | .displacement, surface | .predictedDisplacement, surface | .velocity, surface
  | .previousVelocity, surface => surface.vertexCount

/-- Three components for each point of the interface; nothing without one. -/
def room (s : Session) (b : Buffer) : Nat := s.surface?.elim 0 fun surface => 3 * b.points surface

/-- The buffers have room for the interface, whose sizes are noted, and a released session has none. -/
structure Housed (s : Session) : Prop where
  room : ∀ b, (s.buffer b).length = s.room b
  counts : ∀ surface, s.surface? = some surface →
    s.vertexCount = surface.vertexCount ∧ s.faceCount = surface.faceCount
  vacated : s.released = true → s.surface? = none

variable {s t : Session}

theorem housed_new (parameters : Parameters) (peer : Discovery.Peer) :
    (Session.new parameters peer).Housed :=
  ⟨fun b => by cases b <;> rfl, nofun, fun _ => rfl⟩

/-- Buffers of one kind have room for the same points. -/
theorem room_eq {b b' : Buffer} (h : b.points = b'.points) (s : Session) : s.room b = s.room b' := by
  unfold room
  rw [h]

theorem Housed.sized (housed : s.Housed) : s.Sized := by
  have alike (b b' : Buffer) (h : b.points = b'.points) :
      (s.buffer b).length = (s.buffer b').length :=
    (housed.room b).trans ((room_eq h s).trans (housed.room b').symm)
  exact ⟨alike .predictedDisplacement .displacement rfl, alike .velocity .displacement rfl,
    alike .previousVelocity .displacement rfl, alike .previousForce .force rfl,
    alike .predictedForce .force rfl⟩

/-- One buffer of each kind settles the others. -/
theorem Sized.room (sized : s.Sized) (motion : s.displacement.length = s.room .displacement)
    (force : s.force.length = s.room .force) (b : Buffer) : (s.buffer b).length = s.room b := by
  cases b with
  | displacement => exact motion
  | predictedDisplacement => exact sized.predictedDisplacement.trans motion
  | velocity => exact sized.velocity.trans motion
  | previousVelocity => exact sized.previousVelocity.trans motion
  | force => exact force
  | previousForce => exact sized.previousForce.trans force
  | predictedForce => exact sized.predictedForce.trans force

/-- The interface is the same, and so are the sizes of the buffers. -/
structure Stays (s t : Session) : Prop where
  surface : t.surface? = s.surface?
  released : t.released = s.released
  counts : t.vertexCount = s.vertexCount ∧ t.faceCount = s.faceCount
  lengths : s.Housed → ∀ b, (t.buffer b).length = (s.buffer b).length

theorem Stays.refl (s : Session) : s.Stays s := ⟨rfl, rfl, ⟨rfl, rfl⟩, fun _ _ => rfl⟩

theorem Stays.housed (stays : s.Stays t) (housed : s.Housed) : t.Housed where
  room b := by
    unfold Session.room
    rw [stays.lengths housed b, stays.surface]
    exact housed.room b
  counts surface attached := by
    rw [stays.counts.1, stays.counts.2]
    exact housed.counts surface (stays.surface ▸ attached)
  vacated released := stays.surface.trans (housed.vacated (stays.released ▸ released))

theorem stays_of_bare (same : t.bare = s.bare) (force : t.force.length = s.force.length)
    (sized : s.Sized → t.Sized) : s.Stays t := by
  have surface : t.surface? = s.surface? := congrArg (·.surface?) same
  have motion : t.displacement = s.displacement := congrArg (·.displacement) same
  refine ⟨surface, congrArg (·.released) same,
    ⟨congrArg (·.vertexCount) same, congrArg (·.faceCount) same⟩, fun housed b => ?_⟩
  have alike (b : Buffer) : t.room b = s.room b := by
    unfold room
    rw [surface]
  rw [housed.room, ← alike]
  refine (sized housed.sized).room ?_ ?_ b
  · rw [motion, alike]
    exact housed.room .displacement
  · rw [force, alike]
    exact housed.room .force

theorem stays_writeBuffer (s : Session) (b : Buffer) (values : List Float) :
    s.Stays (s.writeBuffer b values) := by
  refine ⟨?_, ?_, ?_, fun _ c => length_buffer_writeBuffer s b c values⟩ <;> cases b <;>
    first | rfl | exact ⟨rfl, rfl⟩

theorem stays_savePrevious (s : Session) : s.Stays s.savePrevious :=
  stays_of_bare rfl rfl fun sized => sized.savePrevious

theorem stays_overwriteMotion (s : Session) (displacement velocity : List Float) :
    s.Stays { s with
      displacement := overwrite s.displacement displacement
      velocity := overwrite s.velocity velocity } := by
  refine ⟨rfl, rfl, ⟨rfl, rfl⟩, fun _ b => ?_⟩
  cases b <;> simp [buffer, length_overwrite]

theorem stays_rest (s : Session) : s.Stays (Controller.rest s) := by
  refine ⟨rfl, rfl, ⟨rfl, rfl⟩, fun _ b => ?_⟩
  cases b <;> simp [buffer, Controller.rest]

theorem Housed.release (housed : s.Housed) : s.release.Housed := by
  unfold Session.release
  split
  · exact housed
  · exact ⟨fun b => by cases b <;> rfl, nofun, fun _ => rfl⟩

/-- What the release leaves alone. -/
structure Keeps (s t : Session) : Prop where
  parameters : t.parameters = s.parameters
  peer : t.peer = s.peer
  iteration : t.iteration = s.iteration
  subIteration : t.subIteration = s.subIteration
  dt : t.dt = s.dt
  previousDt : t.previousDt = s.previousDt
  globalFaces : t.globalFaces = s.globalFaces
  globalVertices : t.globalVertices = s.globalVertices
  referenceLength : t.referenceLength = s.referenceLength

theorem keeps_release (s : Session) : s.Keeps s.release := by
  unfold Session.release
  split <;> exact ⟨rfl, rfl, rfl, rfl, rfl, rfl, rfl, rfl, rfl⟩

theorem housed_attach (s : Session) (surface : Surface) (length : Float) (faces vertices : Int64)
    (going : s.released = false) : (s.attach surface length faces vertices).Housed where
  room b := by cases b <;> exact List.length_replicate
  counts other attached := by
    obtain rfl := Option.some.inj attached
    exact ⟨rfl, rfl⟩
  vacated released := by
    rw [show s.released = true from released] at going
    cases going

theorem buffer_attach (s : Session) (surface : Surface) (length : Float) (faces vertices : Int64)
    (b : Buffer) :
    (s.attach surface length faces vertices).buffer b = zeroVectors (b.points surface) := by
  cases b <;> rfl

end Session

/-- With room for the interface no check on sizes fails. -/
theorem Session.Unfit.isMisfit {s : Session} {fault : Fault} (unfit : s.Unfit fault)
    (housed : s.Housed) : fault.isMisfit = false := by
  cases unfit with
  | forces h =>
    obtain ⟨_, -, fine⟩ := Prediction.forces_ok housed.sized
    rw [fine] at h
    cases h
  | displacement h =>
    obtain ⟨_, -, fine⟩ := Prediction.displacement_ok housed.sized
    rw [fine] at h
    cases h
  | residual h =>
    rw [Convergence.checkOperands_of_sized housed.sized] at h
    rw [require_error h]
    rfl

/-! ## Operations -/

/-- What becomes of a session that is sound: it stays so, keeps its interface or is released, is shown
to the solver while it is sound, and no check on sizes fails, unless the surroundings say so. -/
structure Lives (c : Controller) (log : Log Coupling) (fault : Option Fault) (d : Controller) :
    Prop where
  housed : d.session.Housed
  interface : d.session.released = true ∨
    d.session.surface? = c.session.surface? ∧ d.session.released = c.session.released
  shown : ∀ e ∈ log, ∀ s, e.request.shown? = some s → s.Housed
  told : ∀ other, fault = some other → other.isMisfit = true → Told log other

namespace Controller

variable {c d e : Controller} {log : Log Coupling} {fault : Option Fault}

/-- Without a word to the solver. -/
theorem lives_quiet (housed : c.session.Housed) (stays : c.session.Stays d.session)
    (hides : ∀ e ∈ log, e.request.shown? = none)
    (told : ∀ other, fault = some other → other.isMisfit = true → Told log other) :
    Lives c log fault d where
  housed := stays.housed housed
  interface := .inr ⟨stays.surface, stays.released⟩
  shown := by
    intro e member s shown
    rw [hides e member] at shown
    cases shown
  told := told

/-- A fault that is not about sizes needs no word from the surroundings. -/
theorem told_of_fits {own : Fault} (fits : own.isMisfit = false) :
    ∀ other, some own = some other → other.isMisfit = true → Told log other := by
  intro other same misfit
  rw [← Option.some.inj same, fits] at misfit
  cases misfit

theorem lives_trans {first second : Log Coupling} (h : Lives c first none d)
    (k : Lives d second fault e) : Lives c (first ++ second) fault e where
  housed := k.housed
  interface := by
    rcases k.interface with released | ⟨surface, released⟩
    · exact .inl released
    · rcases h.interface with gone | ⟨surface', released'⟩
      · exact .inl (released.trans gone)
      · exact .inr ⟨surface.trans surface', released.trans released'⟩
  shown := by
    intro f member
    rcases List.mem_append.1 member with member | member
    · exact h.shown f member
    · exact k.shown f member
  told := by
    intro other same misfit
    obtain ⟨f, member, faults⟩ := k.told other same misfit
    exact ⟨f, List.mem_append_right _ member, faults⟩

theorem Receipt.hides {peer : Int32} (receipt : Receipt peer c log fault d) :
    ∀ e ∈ log, e.request.shown? = none := by
  cases receipt <;> simp [Request.shown?]

theorem lives_receipt {peer : Int32} (housed : c.session.Housed)
    (receipt : Receipt peer c log fault d) : Lives c log fault d := by
  have hides := receipt.hides
  cases receipt with
  | noFirst fault =>
    refine lives_quiet housed (.refl _) hides fun other same _ => ?_
    exact .single (congrArg some (Option.some.inj same))
  | badFirst => exact lives_quiet housed (.refl _) hides nofun
  | noSecond first fault =>
    refine lives_quiet housed (.refl _) hides fun other same _ => ?_
    exact ⟨_, List.mem_cons_of_mem _ List.mem_cons_self, congrArg some (Option.some.inj same)⟩
  | badSecond => exact lives_quiet housed (.refl _) hides nofun
  | unfit first second fault check =>
    refine lives_quiet housed (.refl _) hides (told_of_fits ?_)
    unfold stagingCheck Fault.assert at check
    split at check
    · cases check
    · rw [← Except.error.inj check]
      rfl
  | taken => exact lives_quiet housed (Session.stays_overwriteMotion _ _ _) hides nofun

theorem rules_lives : Rules fun c log fault d => c.session.Housed → Lives c log fault d where
  refl := fun c housed => lives_quiet housed (.refl _) (List.forall_mem_nil _) nofun
  trans := fun c first d second fault e h k housed => lives_trans (h housed) (k (h housed).housed)
  aside := fun c d aside housed =>
    lives_quiet housed (Session.stays_of_bare aside.session aside.force aside.sized)
      (List.forall_mem_nil _) nofun
  asked := by
    intro c request reply _ shows housed
    refine ⟨housed, .inr ⟨rfl, rfl⟩, List.forall_mem_singleton.2 fun s shown => ?_, nofun⟩
    exact shows s shown ▸ housed
  told := by
    intro c log d fault h told housed
    exact { h housed with told := fun other same _ => Option.some.inj same ▸ told }
  refused := by
    intro c fault refusal housed
    refine lives_quiet housed (.refl _) (List.forall_mem_nil _) (told_of_fits ?_)
    cases fault <;> first | rfl | cases refusal
  checked := fun c fault unfit housed =>
    lives_quiet housed (.refl _) (List.forall_mem_nil _) (told_of_fits (unfit.isMisfit housed))
  staged := Act.within_modify fun c housed =>
    lives_quiet housed (.refl _) (List.forall_mem_nil _) nofun
  received := fun peer c log fault d receipt housed => lives_receipt housed receipt
  rested := fun c _ housed =>
    lives_quiet housed (Session.stays_rest _) (List.forall_mem_nil _) nofun

theorem lives_release :
    (modifySession Session.release).Within fun c log fault d =>
      c.session.Housed → Lives c log fault d :=
  Act.within_modify fun c housed =>
    ⟨housed.release, .inl c.session.released_release, List.forall_mem_nil _, nofun⟩

theorem lives_call (call : SessionCall) :
    (modifySession call.apply).Within fun c log fault d =>
      c.session.Housed → Lives c log fault d := by
  have staying {change : Session → Session} (stays : ∀ s : Session, s.Stays (change s)) :
      (modifySession change).Within fun c log fault d =>
        c.session.Housed → Lives c log fault d :=
    Act.within_modify fun c housed => lives_quiet housed (stays _) (List.forall_mem_nil _) nofun
  cases call with
  | release => exact lives_release
  | savePrevious => exact staying Session.stays_savePrevious
  | writeBuffer buffer values =>
    exact staying fun s => Session.stays_writeBuffer s buffer values
  | _ => exact staying fun s => ⟨rfl, rfl, ⟨rfl, rfl⟩, fun _ b => by cases b <;> rfl⟩

end Controller

/-! ## Histories -/

/-- The interface that a deed attaches. -/
def Doing.attached? : Doing → Option Surface
  | ⟨.register surface _, _, .ok ()⟩ => some surface
  | _ => none

/-- The interfaces that a history attaches. -/
def attachments (doings : List Doing) : List Surface := doings.filterMap Doing.attached?

theorem head?_attachments_cons (doing : Doing) (later : List Doing) :
    (attachments (doing :: later)).head? = doing.attached?.or (attachments later).head? := by
  unfold attachments
  rw [List.filterMap_cons]
  cases doing.attached? <;> rfl

/-- Nothing wrong is shown to the solver, and no check on sizes fails. -/
structure Doing.Sound (doing : Doing) : Prop where
  shown : ∀ e ∈ doing.log, ∀ s, e.request.shown? = some s → s.Housed
  told : ∀ fault, doing.outcome = .error fault → fault.isMisfit = true → Told doing.log fault

/-- What a deed does to a session: it has the interface that it had or that is attached now, unless it
is released, and the first interface is the last. -/
structure Lived (c : Controller) (doing : Doing) (d : Controller) : Prop where
  housed : d.session.Housed
  interface : d.session.surface? =
    if d.session.released then none else c.session.surface?.or doing.attached?
  final : c.session.released = true → d.session.released = true
  once : c.session.Settled → doing.attached? = none
  sound : doing.Sound

namespace Lived

variable {c d : Controller} {doing : Doing}

theorem settled (lived : Lived c doing d) (had : c.session.Settled ∨ doing.attached? ≠ none) :
    d.session.Settled := by
  cases released : d.session.released with
  | true => exact .inr released
  | false =>
    refine .inl ?_
    rw [Session.isRegistered, lived.interface, released]
    rcases had with (registered | gone) | attaching
    · simp [Option.isSome_or, show c.session.surface?.isSome = true from registered]
    · rw [lived.final gone] at released
      cases released
    · simp [Option.isSome_or, Option.isSome_iff_ne_none.2 attaching]

theorem of_lives (lives : Lives c doing.log (faultOf doing.outcome) d)
    (idle : doing.attached? = none) : Lived c doing d where
  housed := lives.housed
  interface := by
    rw [idle, Option.or_none]
    rcases lives.interface with gone | ⟨surface, released⟩
    · rw [gone, lives.housed.vacated gone]
      rfl
    · cases kept : d.session.released with
      | true => exact lives.housed.vacated kept
      | false => exact surface
  final := by
    intro gone
    rcases lives.interface with released | ⟨-, released⟩
    · exact released
    · exact released.trans gone
  once := fun _ => idle
  sound := ⟨lives.shown, fun fault failed => lives.told fault (by rw [failed]; rfl)⟩

end Lived

namespace Controller

variable {c d e : Controller} {doings : List Doing}

theorem lived_of_register {surface : Surface} {length : Float} {log : Log Coupling}
    {outcome : Except Fault Unit} (housed : c.session.Housed)
    (run : (Controller.register surface length).Runs c log outcome d) :
    Lived c ⟨.register surface length, log, outcome⟩ d := by
  obtain ⟨t, registering, rfl⟩ := runs_registerSession.1 run
  cases runs_registration registering with
  | refused fault check =>
    refine .of_lives (lives_quiet housed (.refl _) (List.forall_mem_nil _)
      (told_of_fits ?_)) rfl
    rcases Session.checkRegistration_error check with rfl | rfl | rfl <;> rfl
  | unsummed fault check =>
    obtain ⟨going, vacant, -⟩ := Session.checkRegistration_ok.1 check
    refine .of_lives ⟨⟨?_, ?_, fun _ => vacant⟩, .inr ⟨rfl, rfl⟩, ?_, fun other same _ => ?_⟩ rfl
    · intro b
      have room := housed.room b
      cases b <;> exact room
    · intro other attached
      rw [show c.session.surface? = some other from attached] at vacant
      cases vacant
    · exact List.forall_mem_singleton.2 fun s shown => nomatch shown
    · exact .single (congrArg some (Option.some.inj same))
  | attached counts check =>
    obtain ⟨going, vacant, -⟩ := Session.checkRegistration_ok.1 check
    refine ⟨Session.housed_attach _ _ _ _ _ going, ?_, ?_, ?_, ?_, nofun⟩
    · change some surface = if c.session.released = true then none else _
      rw [going, vacant]
      rfl
    · intro gone
      rw [going] at gone
      cases gone
    · exact fun settled => absurd settled (Session.not_settled_of_check check)
    · refine List.forall_mem_cons.2 ⟨nofun, fun e noted s shown => ?_⟩
      split at noted
      · rw [List.mem_singleton.1 noted] at shown
        cases shown
      · cases noted

theorem lived_of_run {doing : Doing} (housed : c.session.Housed)
    (run : doing.deed.perform.Runs c doing.log doing.outcome d) : Lived c doing d := by
  obtain ⟨deed, log, outcome⟩ := doing
  by_cases registers : ∃ surface length, deed = .register surface length
  · obtain ⟨surface, length, rfl⟩ := registers
    exact lived_of_register housed run
  · have idle : Doing.attached? ⟨deed, log, outcome⟩ = none := by
      unfold Doing.attached?
      split
      · rename_i surface length _ same
        exact absurd ⟨surface, length, congrArg Doing.deed same⟩ registers
      · rfl
    refine .of_lives (rules_lives.deed (rules_lives.finish lives_release) ?_
      (fun call _ => lives_call call) _ _ _ _ run housed) idle
    exact fun surface length same => absurd ⟨surface, length, same⟩ registers

/-- What a history does to a session that is sound. -/
structure Lifetime (c : Controller) (doings : List Doing) (d : Controller) : Prop where
  housed : d.session.Housed
  interface : d.session.surface? =
    if d.session.released then none else c.session.surface?.or (attachments doings).head?
  final : c.session.released = true → d.session.released = true
  once : c.session.Settled → attachments doings = []
  single : (attachments doings).length ≤ 1
  sound : ∀ doing ∈ doings, doing.Sound

theorem Lifetime.cons {doing : Doing} (lived : Lived c doing d) (later : Lifetime d doings e) :
    Lifetime c (doing :: doings) e where
  housed := later.housed
  interface := by
    rw [later.interface, head?_attachments_cons]
    cases gone : e.session.released with
    | true => rfl
    | false =>
      have going : d.session.released = false := by
        rw [← Bool.not_eq_true]
        intro released
        rw [later.final released] at gone
        cases gone
      rw [lived.interface, going, ← Option.or_assoc]
      rfl
  final := fun gone => later.final (lived.final gone)
  once := by
    intro settled
    have idle := lived.once settled
    unfold attachments
    rw [List.filterMap_cons, idle]
    exact later.once (lived.settled (.inl settled))
  single := by
    unfold attachments
    rw [List.filterMap_cons]
    cases attaching : doing.attached? with
    | none => exact later.single
    | some surface =>
      have last := later.once (lived.settled (.inr (by rw [attaching]; nofun)))
      rw [show doings.filterMap Doing.attached? = [] from last]
      exact Nat.le_refl 1
  sound := List.forall_mem_cons.2 ⟨lived.sound, later.sound⟩

theorem lifetime_of_doings (housed : c.session.Housed) (history : Doings c doings d) :
    Lifetime c doings d := by
  induction history with
  | nil c =>
    refine ⟨housed, ?_, id, fun _ => rfl, Nat.zero_le _, List.forall_mem_nil _⟩
    cases gone : c.session.released with
    | true => exact housed.vacated gone
    | false => exact (Option.or_none).symm
  | cons run _ ih =>
    have lived := lived_of_run housed run
    exact .cons lived (ih lived.housed)

/-- A session that had an interface or is released turns down every registration and stays as it is. -/
theorem register_of_settled {surface : Surface} {length : Float} {log : Log Coupling}
    {outcome : Except Fault Unit} (settled : c.session.Settled)
    (run : (Controller.register surface length).Runs c log outcome d) :
    ∃ fault, fault.kind = .configuration ∧ log = [] ∧ outcome = .error fault ∧ d = c := by
  obtain ⟨t, registering, rfl⟩ := runs_registerSession.1 run
  cases runs_registration registering with
  | refused fault check =>
    refine ⟨fault, ?_, rfl, rfl, rfl⟩
    rcases Session.checkRegistration_error check with rfl | rfl | rfl <;> rfl
  | unsummed _ check => exact absurd settled (Session.not_settled_of_check check)
  | attached _ check => exact absurd settled (Session.not_settled_of_check check)

/-- A registration that succeeds leaves room for its interface, filled with zeros. -/
theorem zero_of_register {surface : Surface} {length : Float} {log : Log Coupling}
    (run : (Controller.register surface length).Runs c log (.ok ()) d) :
    ¬ c.session.Settled ∧ d.session.surface? = some surface ∧
      ∀ b, d.session.buffer b = Session.zeroVectors (b.points surface) := by
  obtain ⟨t, registering, rfl⟩ := runs_registerSession.1 run
  refine ⟨Session.not_settled_of_check (checked_of_register registering), ?_⟩
  obtain ⟨faces, vertices, rfl⟩ := runs_register registering
  exact ⟨rfl, Session.buffer_attach _ _ _ _ _⟩

/-- The release and the end leave alone what the release does. -/
theorem keeps_of_release {deed : Deed} (ends : deed = .alter .release ∨ deed = .operate .finish)
    {log : Log Coupling} {outcome : Except Fault Unit} (run : deed.perform.Runs c log outcome d) :
    c.session.Keeps d.session := by
  rcases ends with rfl | rfl
  · obtain ⟨-, -, rfl⟩ := Act.runs_modify.1 run
    exact Session.keeps_release _
  · have finished : ∃ result, finish.Runs c log result d := by
      obtain ⟨_, performed, -⟩ := Act.runs_bind_pure.1 run
      obtain ⟨result, ended, -⟩ := Act.runs_bind_pure.1 performed
      exact ⟨result, ended⟩
    obtain ⟨_, ended⟩ := finished
    obtain ⟨-, again, first⟩ := runs_finish ended
    by_cases closed : c.phase = .closed
    · rw [(again closed).2]
      exact ⟨rfl, rfl, rfl, rfl, rfl, rfl, rfl, rfl, rfl⟩
    · rw [(first closed).2]
      exact Session.keeps_release _

end Controller

open Controller

/-- Whatever a caller does with a new session, in any order and whatever faults: at most one interface
is attached, which stays until the release, and no session comes back from there.  The buffers have
room for the interface that is there, also whenever the solver sees them; all are zero after the
registration, and empty without an interface.  Every other registration is turned down and changes
nothing, the release keeps the rest of the state, and no check on the sizes of the buffers fails. -/
theorem session_lifecycle {c d : Controller} {doings : List Doing} {parameters : Parameters}
    {peer : Discovery.Peer} (fresh : c.session = Session.new parameters peer)
    (history : Doings c doings d) :
    (attachments doings).length ≤ 1 ∧
    d.session.surface? = (if d.session.released then none else (attachments doings).head?) ∧
    (∀ b, (d.session.buffer b).length = d.session.room b) ∧
    (∀ surface length log outcome e, (register surface length).Runs d log outcome e →
      (outcome = .ok () → d.session.released = false ∧ attachments doings = [] ∧
        e.session.surface? = some surface ∧
        ∀ b, e.session.buffer b = Session.zeroVectors (b.points surface)) ∧
      (d.session.released = true ∨ attachments doings ≠ [] →
        ∃ fault, fault.kind = .configuration ∧ log = [] ∧ outcome = .error fault ∧ e = d)) ∧
    (d.session.released = true → ∀ later e, Doings d later e →
      e.session.released = true ∧ e.session.isRegistered = false) ∧
    (∀ log outcome e, (Deed.alter .release).perform.Runs d log outcome e →
      outcome = .ok () ∧ e.session.released = true) ∧
    (∀ (deed : Deed) log outcome e, deed = .alter .release ∨ deed = .operate .finish →
      deed.perform.Runs d log outcome e → d.session.Keeps e.session) ∧
    ∀ doing ∈ doings,
      (∀ e ∈ doing.log, ∀ s, e.request.shown? = some s → ∀ b, (s.buffer b).length = s.room b) ∧
      ∀ fault, doing.outcome = .error fault → fault.isMisfit = true → Told doing.log fault := by
  have housed : c.session.Housed := fresh ▸ Session.housed_new parameters peer
  have life := lifetime_of_doings housed history
  have interface : d.session.surface? =
      if d.session.released then none else (attachments doings).head? := by
    rw [life.interface, fresh]
    rfl
  have settled (had : d.session.released = true ∨ attachments doings ≠ []) :
      d.session.Settled := by
    cases released : d.session.released with
    | true => exact .inr released
    | false =>
      refine .inl ?_
      rw [released] at had interface
      rw [Session.isRegistered, interface, if_neg Bool.false_ne_true, List.isSome_head?]
      exact had.resolve_left Bool.false_ne_true
  refine ⟨life.single, interface, life.housed.room, ?_, ?_, ?_, ?_, ?_⟩
  · intro surface length log outcome e run
    refine ⟨?_, fun had => register_of_settled (settled had) run⟩
    rintro rfl
    obtain ⟨open', attached, zero⟩ := zero_of_register run
    exact ⟨Bool.eq_false_iff.2 fun gone => open' (settled (.inl gone)),
      Decidable.not_not.1 fun had => open' (settled (.inr had)), attached, zero⟩
  · intro gone later e onward
    have after := lifetime_of_doings life.housed onward
    have released := after.final gone
    exact ⟨released, by rw [Session.isRegistered, after.housed.vacated released]; rfl⟩
  · intro log outcome e run
    obtain ⟨-, rfl, rfl⟩ := Act.runs_modify.1 run
    exact ⟨rfl, d.session.released_release⟩
  · exact fun deed log outcome e ends run => keeps_of_release ends run
  · intro doing done
    have sound := life.sound doing done
    exact ⟨fun e member s shown => (sound.shown e member s shown).room, sound.told⟩

namespace EchoedRun

/-- A caller who tries what is not allowed, too. -/
def life : List Doing × Controller :=
  carryOut (echo Status.ok)
    [.predictForces, .register surface 0.0, .register surface 0.5, .operate .begin,
      .operate (.beginStep 0.5), .predictDisplacement, .register surface 0.25, .alter .release,
      .operate .exchangeConvergence, .register surface 0.5, .operate .finish]
    (unattached { maxSubIterations := 2 })

/-- One interface is attached in that life, and in the end the buffers are empty. -/
theorem session_lifecycle_ended :
    attachments life.1 = [surface] ∧ life.2.session.surface? = none ∧
    (∀ b, (life.2.session.buffer b).length = 0) ∧
    ∀ doing ∈ life.1, ∀ fault, doing.outcome = .error fault → fault.isMisfit = true →
      Told doing.log fault := by
  have history : Doings (unattached { maxSubIterations := 2 }) life.1 life.2 :=
    doings_carryOut _ _ _
  obtain ⟨-, interface, room, -, -, -, -, sound⟩ := session_lifecycle rfl history
  have vacant : life.2.session.surface? = none := interface
  refine ⟨rfl, vacant, fun b => ?_, fun doing done => (sound doing done).2⟩
  rw [room, Session.room, vacant]
  rfl

end EchoedRun

end Coupling

end FluidStructure
