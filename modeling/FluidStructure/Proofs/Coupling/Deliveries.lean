import FluidStructure.Proofs.Coupling.Diagram
import FluidStructure.Proofs.Coupling.Rules
import FluidStructure.Proofs.Coupling.Values

/-!
# Deliveries of motion

The displacement and the velocity of the structure come in two messages.  They go into staging
buffers, which keep what has come when the other message fails; the session takes both or none.
So its displacement and velocity always are of one delivery, the last one that was whole.
-/

namespace FluidStructure.Coupling

open FluidStructure.Channel FluidStructure.Journal

/-! ## Deliveries in a log -/

/-- A displacement and a velocity. -/
abbrev Motion := List Float × List Float

def Session.motion (s : Session) : Motion := (s.displacement, s.velocity)

/-- A displacement that has come, with the velocity that has come next. -/
def delivered (first second : Exchange Coupling) : Option Motion :=
  (receivedField Variable.meshDisplacement first).bind fun displacement =>
    (receivedField Variable.meshVelocity second).map fun velocity => (displacement, velocity)

/-- The motions that have come whole, in order.  Whoever receives a displacement asks for the
velocity at once. -/
def deliveries : Log Coupling → List Motion
  | [] => []
  | e :: later => (later.head?.bind (delivered e)).toList ++ deliveries later

/-- The last motion that has come whole, or the one that was there before. -/
def latest (before : Motion) (log : Log Coupling) : Motion := (deliveries log).getLast?.getD before

/-- The log does not stop between a displacement and its velocity. -/
def Unbroken (log : Log Coupling) : Prop :=
  ∀ e, log.getLast? = some e → receivedField Variable.meshDisplacement e = none

theorem delivered_of_none {first second : Exchange Coupling}
    (h : receivedField Variable.meshDisplacement first = none) : delivered first second = none := by
  unfold delivered
  rw [h]
  rfl

theorem unbroken_nil : Unbroken [] := fun _ h => by cases h

theorem unbroken_append {first second : Log Coupling} (h : Unbroken first) (k : Unbroken second) :
    Unbroken (first ++ second) := by
  intro e last
  rw [List.getLast?_append] at last
  cases there : second.getLast? with
  | none =>
    rw [there, Option.none_or] at last
    exact h e last
  | some x =>
    rw [there, Option.some_or] at last
    exact k e (there.trans last)

theorem deliveries_append {first : Log Coupling} (unbroken : Unbroken first)
    (second : Log Coupling) :
    deliveries (first ++ second) = deliveries first ++ deliveries second := by
  induction first with
  | nil => rfl
  | cons e first ih =>
    cases first with
    | nil =>
      have missed : receivedField Variable.meshDisplacement e = none := unbroken e rfl
      have lone : second.head?.bind (delivered e) = none := by
        cases second with
        | nil => rfl
        | cons x rest => exact delivered_of_none missed
      show (second.head?.bind (delivered e)).toList ++ deliveries second = deliveries second
      rw [lone]
      rfl
    | cons x first =>
      have rest := ih fun e' last => unbroken e' (by rw [List.getLast?_cons_cons]; exact last)
      show _ ++ deliveries (x :: first ++ second) = (_ ++ deliveries (x :: first)) ++ _
      rw [rest, List.append_assoc]
      rfl

theorem latest_nil (before : Motion) : latest before [] = before := rfl

theorem latest_append {first : Log Coupling} (unbroken : Unbroken first) (before : Motion)
    (second : Log Coupling) :
    latest before (first ++ second) = latest (latest before first) second := by
  unfold latest
  rw [deliveries_append unbroken, List.getLast?_append]
  cases (deliveries second).getLast? <;> rfl

theorem latest_of_none {log : Log Coupling} (none : deliveries log = []) (before : Motion) :
    latest before log = before := by
  unfold latest
  rw [none]
  rfl

/-- Nothing is delivered where no displacement comes. -/
theorem deliveries_of_none {log : Log Coupling}
    (h : ∀ e ∈ log, receivedField Variable.meshDisplacement e = none) : deliveries log = [] := by
  induction log with
  | nil => rfl
  | cons e log ih =>
    obtain ⟨here, later⟩ := List.forall_mem_cons.1 h
    have lone : log.head?.bind (delivered e) = none := by
      cases log with
      | nil => rfl
      | cons x rest => exact delivered_of_none here
    unfold deliveries
    rw [lone, ih later]
    rfl

theorem unbroken_of_none {log : Log Coupling}
    (h : ∀ e ∈ log, receivedField Variable.meshDisplacement e = none) : Unbroken log :=
  fun e last => h e (List.mem_of_getLast? last)

/-! ### Single exchanges -/

section Fields

variable {peer : Int32} {name wanted : String} {buffer : List Float} {received : Status × List Float}

theorem receivedField_of_failed (failed : Status.failed received.1 = true) :
    receivedField wanted ⟨.receiveField peer name buffer, .ok received⟩ = none := by
  show ite (name = wanted ∧ Status.failed received.1 = false) _ _ = _
  rw [failed]
  exact if_neg fun h => Bool.noConfusion h.2

theorem receivedField_of_come (come : Status.failed received.1 = false) :
    receivedField name ⟨.receiveField peer name buffer, .ok received⟩ =
      some (overwrite buffer received.2) := if_pos ⟨rfl, come⟩

/-- A velocity is no displacement. -/
theorem displacement_of_velocity (reply : Except Fault (Status × List Float)) :
    receivedField Variable.meshDisplacement
      ⟨.receiveField peer Variable.meshVelocity buffer, reply⟩ = none := by
  cases reply with
  | error fault => rfl
  | ok received =>
    show ite (Variable.meshVelocity = Variable.meshDisplacement ∧ Status.failed received.1 = false)
      (some (overwrite buffer received.2)) none = none
    exact if_neg fun h => absurd h.1 (by decide)

end Fields

theorem unbroken_single {e : Exchange Coupling}
    (h : receivedField Variable.meshDisplacement e = none) : Unbroken [e] := by
  rintro x ⟨⟩
  exact h

theorem unbroken_pair (e : Exchange Coupling) {f : Exchange Coupling}
    (h : receivedField Variable.meshDisplacement f = none) : Unbroken [e, f] := by
  rintro x ⟨⟩
  exact h

theorem deliveries_pair (e f : Exchange Coupling) :
    deliveries [e, f] = (delivered e f).toList := List.append_nil _

theorem receivedField_of_not_intake {e : Exchange Coupling} (h : e.request.isIntake = false)
    (wanted : String) : receivedField wanted e = none := by
  obtain ⟨request, reply⟩ := e
  cases request <;> first | rfl | cases h

/-! ## What a log tells of the motion -/

/-- From a motion, the log leads to another one, unless the session is given up; and each session
that the log shows has the motion that was delivered last before. -/
structure Traced (start : Motion) (log : Log Coupling) (t : Session) : Prop where
  motion : t.released = false → t.motion = latest start log
  unbroken : Unbroken log
  shown : ∀ before e after s, log = before ++ e :: after → e.request.shown? = some s →
    s.motion = latest start before

theorem Traced.nil (s : Session) : Traced s.motion [] s where
  motion := fun _ => rfl
  unbroken := unbroken_nil
  shown := by
    rintro before e after s split -
    exact absurd split (by simp)

theorem Traced.append {start : Motion} {first second : Log Coupling} {t u : Session}
    (h : Traced start first t) (going : t.released = false) (k : Traced t.motion second u) :
    Traced start (first ++ second) u where
  motion := fun going' => by
    rw [k.motion going', h.motion going, ← latest_append h.unbroken]
  unbroken := unbroken_append h.unbroken k.unbroken
  shown := by
    intro before e after s split shows
    rcases List.append_eq_append_iff.1 split.symm with ⟨gap, rfl, rest⟩ | ⟨gap, rfl, rest⟩
    · -- the exchange comes in the first part, or it is the first one of the second
      cases gap with
      | nil =>
        have here := k.shown [] e after s rest.symm shows
        rw [List.append_nil] at h
        rw [here, latest_nil, h.motion going]
      | cons x gap =>
        obtain ⟨rfl, -⟩ := List.cons.inj rest
        exact h.shown before e gap s rfl shows
    · rw [k.shown gap e after s rest shows, h.motion going, ← latest_append h.unbroken]

/-- A log that shows nothing leaves nothing to check. -/
theorem shown_of_hidden {log : Log Coupling} (hidden : ∀ e ∈ log, e.request.shown? = none)
    (start : Motion) : ∀ before e after s, log = before ++ e :: after →
      e.request.shown? = some s → s.motion = latest start before := by
  rintro before e after s rfl shows
  have hides := hidden e (List.mem_append_right _ List.mem_cons_self)
  rw [shows] at hides
  cases hides

/-- A log that shows nothing and in which nothing comes whole. -/
theorem Traced.of_none {log : Log Coupling} {s t : Session} (motion : t.motion = s.motion)
    (nothing : deliveries log = []) (unbroken : Unbroken log)
    (hidden : ∀ e ∈ log, e.request.shown? = none) : Traced s.motion log t where
  motion := fun _ => motion.trans (latest_of_none nothing _).symm
  unbroken := unbroken
  shown := shown_of_hidden hidden _

/-! ## The parts of the controller -/

namespace Controller

variable {c d e : Controller} {log : Log Coupling}

/-- A session with a peer whose buffers for the motion have room for all vertices. -/
structure Roomy (s : Session) : Prop where
  found : s.isDryRun = false
  going : s.released = false
  displacement : s.displacement.length = 3 * s.vertexCount
  velocity : s.velocity.length = 3 * s.vertexCount

/-- The staging buffers have the same room. -/
structure Fitted (c : Controller) : Prop where
  roomy : Roomy c.session
  displacement : c.displacementStaging.length = 3 * c.session.vertexCount
  velocity : c.velocityStaging.length = 3 * c.session.vertexCount

/-- From a fitted controller to a fitted one, with the motion that the log tells. -/
def Tracks (c : Controller) (log : Log Coupling) (_ : Option Fault) (d : Controller) : Prop :=
  c.Fitted → d.Fitted ∧ Traced c.session.motion log d.session

theorem motion_of_bare {s t : Session} (h : t.bare = s.bare) : t.motion = s.motion :=
  (congrArg Session.motion h :)

theorem Roomy.of_bare {s t : Session} (h : t.bare = s.bare) (roomy : Roomy s) : Roomy t := by
  have peer : t.peer = s.peer := (congrArg Session.peer h :)
  have released : t.released = s.released := (congrArg Session.released h :)
  have displacement : t.displacement = s.displacement := (congrArg Session.displacement h :)
  have velocity : t.velocity = s.velocity := (congrArg Session.velocity h :)
  have count : t.vertexCount = s.vertexCount := (congrArg Session.vertexCount h :)
  refine ⟨?_, released.trans roomy.going, ?_, ?_⟩
  · have found := roomy.found
    unfold Session.isDryRun at found ⊢
    rw [peer, found]
  · rw [displacement, count, roomy.displacement]
  · rw [velocity, count, roomy.velocity]

theorem Fitted.aside (fitted : c.Fitted) (aside : c.Aside d) : d.Fitted := by
  have count : d.session.vertexCount = c.session.vertexCount :=
    (congrArg Session.vertexCount aside.session :)
  exact ⟨fitted.roomy.of_bare aside.session,
    by rw [aside.displacementStaging, count, fitted.displacement],
    by rw [aside.velocityStaging, count, fitted.velocity]⟩

theorem tracks_aside (h : c.Aside d) : Tracks c [] none d := fun fitted =>
  ⟨fitted.aside h, .of_none (motion_of_bare h.session) rfl unbroken_nil
    fun _ member => by cases member⟩

theorem chained_tracks : Act.Chained Tracks where
  refl := fun c fitted => ⟨fitted, Traced.nil c.session⟩
  trans := by
    intro c first d second fault e h k fitted
    obtain ⟨fitted', before⟩ := h fitted
    obtain ⟨fitted'', after⟩ := k fitted'
    exact ⟨fitted'', before.append fitted'.roomy.going after⟩

theorem tracks_asked {request : Request} {reply : request.Reply} (plain : request.isIntake = false)
    (shows : ∀ s, request.shown? = some s → s = c.session) :
    Tracks c [⟨request, reply⟩] none c := by
  intro fitted
  have none : ∀ e ∈ [(⟨request, reply⟩ : Exchange Coupling)],
      receivedField Variable.meshDisplacement e = none := by
    intro e member
    obtain rfl := List.mem_singleton.1 member
    exact receivedField_of_not_intake plain _
  refine ⟨fitted, fun _ => ?_, unbroken_of_none none, ?_⟩
  · exact (latest_of_none (deliveries_of_none none) _).symm
  · intro before e after s split shown
    cases before with
    | nil =>
      obtain ⟨rfl, -⟩ := List.cons.inj split
      rw [shows s shown]
      rfl
    | cons x before => exact absurd (List.cons.inj split).2 (by simp)

/-! ### Receiving -/

section Receiving

variable {peer : Int32}

/-- Receiving a field shows nothing to the solver. -/
theorem hidden_of_intake (intakes : ∀ e ∈ log, e.request.isIntake = true) :
    ∀ e ∈ log, e.request.shown? = none := by
  intro e member
  have intake := intakes e member
  obtain ⟨request, reply⟩ := e
  cases request <;> first | rfl | cases intake

theorem Receipt.intakes {fault : Option Fault} (h : Receipt peer c log fault d) :
    ∀ e ∈ log, e.request.isIntake = true := by
  cases h <;> simp [Request.isIntake]

/-- What the staging buffers hold is of no account as long as the session does not take it. -/
theorem tracks_staging {fault : Option Fault} (session : d.session = c.session)
    (long : d.displacementStaging.length = c.displacementStaging.length)
    (long' : d.velocityStaging.length = c.velocityStaging.length) (nothing : deliveries log = [])
    (unbroken : Unbroken log) (hidden : ∀ e ∈ log, e.request.shown? = none) :
    Tracks c log fault d := by
  intro fitted
  refine ⟨⟨session ▸ fitted.roomy, ?_, ?_⟩, .of_none (congrArg _ session) nothing unbroken hidden⟩
  · rw [session, long, fitted.displacement]
  · rw [session, long', fitted.velocity]

/-- Without a velocity the displacement is of no use. -/
theorem deliveries_of_second {reply reply' : Except Fault (Status × List Float)}
    (missed : receivedField Variable.meshVelocity
      ⟨.receiveField peer Variable.meshVelocity c.velocityStaging, reply'⟩ = none) :
    deliveries [⟨.receiveField peer Variable.meshDisplacement c.displacementStaging, reply⟩,
      ⟨.receiveField peer Variable.meshVelocity c.velocityStaging, reply'⟩] = [] := by
  rw [deliveries_pair]
  unfold delivered
  rw [missed]
  exact congrArg Option.toList (Option.bind_fun_none _)

/-- Both fields are taken as they have come. -/
theorem tracks_taken {first second : Status × List Float}
    (come : Status.failed first.1 = false) (come' : Status.failed second.1 = false) :
    Tracks c [⟨.receiveField peer Variable.meshDisplacement c.displacementStaging, .ok first⟩,
        ⟨.receiveField peer Variable.meshVelocity c.velocityStaging, .ok second⟩] none
      ((c.stageDisplacement first.2).stageVelocity second.2).taken := by
  intro fitted
  have long : (overwrite c.displacementStaging first.2).length = 3 * c.session.vertexCount :=
    (length_overwrite _ _).trans fitted.displacement
  have long' : (overwrite c.velocityStaging second.2).length = 3 * c.session.vertexCount :=
    (length_overwrite _ _).trans fitted.velocity
  unfold taken stageVelocity stageDisplacement
  dsimp only
  rw [overwrite_of_eq (long.trans fitted.roomy.displacement.symm),
    overwrite_of_eq (long'.trans fitted.roomy.velocity.symm)]
  refine ⟨⟨⟨fitted.roomy.found, fitted.roomy.going, long, long'⟩, long, long'⟩, fun _ => ?_,
    unbroken_pair _ (displacement_of_velocity _), shown_of_hidden (hidden_of_intake ?_) _⟩
  · unfold latest
    rw [deliveries_pair]
    unfold delivered
    rw [receivedField_of_come come, receivedField_of_come come']
    rfl
  · simp [Request.isIntake]

/-- The staging buffers keep what comes; the session takes it if it has come whole. -/
theorem tracks_received {fault : Option Fault} (h : Receipt peer c log fault d) :
    Tracks c log fault d := by
  have hidden := hidden_of_intake h.intakes
  have long (values : List Float) := length_overwrite c.displacementStaging values
  have long' (values : List Float) := length_overwrite c.velocityStaging values
  cases h with
  | noFirst fault =>
    exact tracks_staging rfl rfl rfl rfl (unbroken_single rfl) hidden
  | badFirst first failed =>
    exact tracks_staging rfl (long first.2) rfl rfl (unbroken_single (receivedField_of_failed failed))
      hidden
  | noSecond first fault =>
    exact tracks_staging rfl (long first.2) rfl (deliveries_of_second rfl)
      (unbroken_pair _ (displacement_of_velocity _)) hidden
  | badSecond first second failed =>
    exact tracks_staging rfl (long first.2) (long' second.2)
      (deliveries_of_second (receivedField_of_failed failed))
      (unbroken_pair _ (displacement_of_velocity _)) hidden
  | unfit first second fault check =>
    -- the buffers of a ready controller fit
    intro fitted
    unfold stagingCheck Fault.assert at check
    rw [if_pos] at check
    · cases check
    · exact decide_eq_true ((long first.2).trans
        (fitted.displacement.trans fitted.roomy.displacement.symm))
  | taken first second come come' => exact tracks_taken come come'

end Receiving

/-- What the rules ask for. -/
theorem rules_tracks : Rules Tracks where
  toChained := chained_tracks
  aside := fun _ _ => tracks_aside
  asked := fun _ _ _ => tracks_asked
  told := fun _ _ _ _ h _ => h
  refused := fun c _ _ => chained_tracks.refl c
  checked := fun c _ _ => chained_tracks.refl c
  staged := Act.within_modify fun c fitted =>
    ⟨⟨fitted.roomy, List.length_replicate, List.length_replicate⟩, Traced.nil c.session⟩
  received := fun _ _ _ _ _ => tracks_received
  rested := fun c alone fitted => by
    rw [fitted.roomy.found] at alone
    cases alone

/-! ## Operations in any order -/

/-- A run that is not over.  Before its beginning the staging buffers need not fit yet. -/
structure Holding (c : Controller) : Prop where
  roomy : Roomy c.session
  still : c.phase ≠ .closed
  staged : c.phase = .uninitialized ∨ c.Fitted

theorem operation_of_early {operation : Operation} (early : c.phase = .uninitialized)
    (allowed : c.Allows operation) : operation = .begin ∨ operation = .finish := by
  cases operation <;> simp_all [Allows]

/-- The beginning sizes the staging buffers, and nothing is delivered before. -/
theorem tracks_begin (early : c.phase = .uninitialized) (registered : c.session.isRegistered = true)
    (roomy : Roomy c.session) {outcome : Except Fault Answer}
    (run : Operation.begin.perform.Runs c log outcome d) :
    d.Fitted ∧ Traced c.session.motion log d.session := by
  obtain ⟨result, begun, -⟩ := Act.runs_bind_pure.1 run
  unfold begin Act.Runs at begun
  rw [requirePhase_bind_apply, if_pos early, Act.get_bind_apply, registered,
    if_neg (by decide)] at begun
  unfold sizeStaging at begun
  rw [Act.modify_bind_apply] at begun
  have fitted : c.staged.Fitted := ⟨roomy, List.length_replicate, List.length_replicate⟩
  exact rules_tracks.opening c.staged log result d begun fitted

theorem Holding.call {operation : Operation} {outcome : Except Fault Answer} (holding : c.Holding)
    (going : operation ≠ .finish) (run : operation.perform.Runs c log outcome d) :
    d.Holding ∧ Traced c.session.motion log d.session := by
  have still := (remains_perform going _ _ _ _ run).stillOpen holding.still
  rcases holding.staged with early | fitted
  · by_cases allowed : c.Allows operation
    · rcases operation_of_early early allowed with rfl | rfl
      · obtain ⟨fitted, traced⟩ := tracks_begin early allowed.2 holding.roomy run
        exact ⟨⟨fitted.roomy, still, .inr fitted⟩, traced⟩
      · exact absurd rfl going
    · by_cases saving : operation = .saveValues
      · obtain rfl := saving
        obtain ⟨-, rfl, rfl⟩ := runs_saveValues run
        have aside := aside_saved c
        exact ⟨⟨holding.roomy.of_bare aside.session, still, .inl early⟩,
          .of_none (motion_of_bare aside.session) rfl unbroken_nil fun _ member => by cases member⟩
      · obtain ⟨rfl, rfl, -⟩ := refused_of_not_allows saving allowed run
        exact ⟨holding, Traced.nil _⟩
  · obtain ⟨fitted', traced⟩ := rules_tracks.operation going _ _ _ _ run fitted
    exact ⟨⟨fitted'.roomy, still, .inr fitted'⟩, traced⟩

/-- Nothing is shown to the solver and no field is asked for. -/
def Discreet (log : Log Coupling) : Prop :=
  ∀ e ∈ log, e.request.isIntake = false ∧ e.request.shown? = none

theorem heeds_discreet {σ : Type} :
    Heeds fun (_ : σ) (log : Log Coupling) (_ : Option Fault) (_ : σ) => Discreet log where
  refl := fun _ => List.forall_mem_nil _
  trans := fun _ _ _ _ _ _ h k => List.forall_mem_append.2 ⟨h, k⟩
  plain := fun _ _ _ plain hides => List.forall_mem_singleton.2 ⟨plain, hides⟩
  told := fun _ _ _ _ h _ => h

theorem discreet_finish : finish.Within fun _ log _ _ => Discreet log := by
  have heeds := heeds_discreet (σ := Controller)
  have change (f : Controller → Controller) :
      (Act.modify (I := Coupling) f).Within fun _ log _ _ => Discreet log :=
    Act.within_modify fun _ => List.forall_mem_nil _
  refine heeds.bind heeds.get fun c => ?_
  split
  · exact heeds.pure ()
  · refine heeds.bind (heeds.bind heeds.get fun c => ?_) fun _ => heeds.bind (change _) fun _ =>
      heeds.bind (change _) fun _ => heeds.noteIf _ _
    split
    · exact heeds.perform rfl rfl
    · exact heeds.pure ()

/-- The end gives the session up. -/
theorem traced_finish {outcome : Except Fault Answer} (holding : c.Holding)
    (run : Operation.finish.perform.Runs c log outcome d) :
    d.phase = .closed ∧ d.session.released = true ∧ Traced c.session.motion log d.session := by
  obtain ⟨result, ended, -⟩ := Act.runs_bind_pure.1 run
  obtain ⟨-, -, first⟩ := runs_finish ended
  obtain ⟨-, rfl⟩ := first holding.still
  have discreet := discreet_finish _ _ _ _ ended
  have released := c.session.released_release
  refine ⟨rfl, released, fun going => ?_, unbroken_of_none fun e member =>
    receivedField_of_not_intake (discreet e member).1 _, shown_of_hidden (fun e member =>
      (discreet e member).2) _⟩
  rw [show c.shut.session = c.session.release from rfl, released] at going
  cases going

theorem silent_of_closed {records : List Record} (closed : c.phase = .closed)
    (history : History c records d) :
    records.flatMap Record.log = [] ∧ d.session.released = c.session.released := by
  induction history with
  | nil c => exact ⟨rfl, rfl⟩
  | @cons c d e record records run later ih =>
    have here : record.log = [] ∧ d.phase = .closed ∧
        d.session.released = c.session.released := by
      by_cases ends : record.operation = .finish
      · rw [ends] at run
        obtain ⟨result, ended, -⟩ := Act.runs_bind_pure.1 run
        obtain ⟨-, again, -⟩ := runs_finish ended
        obtain ⟨silent, rfl⟩ := again closed
        exact ⟨silent, closed, rfl⟩
      · refine ⟨?_, closed_call closed ends run⟩
        by_cases saving : record.operation = .saveValues
        · rw [saving] at run
          exact (runs_saveValues run).2.1
        · exact (refused_of_not_allows saving (not_allows_of_closed closed ends) run).1
    obtain ⟨silent, closed', same⟩ := here
    obtain ⟨rest, same'⟩ := ih closed'
    exact ⟨by rw [List.flatMap_cons, silent, rest]; rfl, same'.trans same⟩

theorem traced_of_history {records : List Record} (holding : c.Holding)
    (history : History c records d) :
    Traced c.session.motion (records.flatMap Record.log) d.session := by
  induction history with
  | nil c => exact Traced.nil c.session
  | @cons c d e record records run later ih =>
    rw [List.flatMap_cons]
    by_cases ends : record.operation = .finish
    · rw [ends] at run
      obtain ⟨closed, released, traced⟩ := traced_finish holding run
      obtain ⟨silent, same⟩ := silent_of_closed closed later
      rw [silent, List.append_nil]
      refine { traced with motion := fun going => ?_ }
      rw [same, released] at going
      cases going
    · obtain ⟨holding', traced⟩ := holding.call ends run
      exact traced.append holding'.roomy.going (ih holding')

/-! ## Receipts that miss a field -/

/-- A field that was asked for and has not come. -/
def Missed (log : Log Coupling) : Prop :=
  ∃ e ∈ log, e.request.isIntake = true ∧ e.request.succeeds e.reply = false

theorem Receipt.motion {peer : Int32} {fault : Option Fault} (h : Receipt peer c log fault d)
    (missed : Missed log) : d.session.motion = c.session.motion := by
  cases h with
  | noFirst fault => rfl
  | badFirst first failed => rfl
  | noSecond first fault => rfl
  | badSecond first second failed => rfl
  | unfit first second fault check => rfl
  | taken first second come come' =>
    obtain ⟨e, member, -, lost⟩ := missed
    rcases List.mem_cons.1 member with rfl | member
    · exact absurd lost (by simp [Request.succeeds, come])
    · obtain rfl := List.mem_singleton.1 member
      exact absurd lost (by simp [Request.succeeds, come'])

theorem missed_append {first rest : Log Coupling} :
    Missed (first ++ rest) ↔ Missed first ∨ Missed rest := by
  unfold Missed
  simp only [List.mem_append, or_and_right, exists_or]

theorem not_missed_of_local (quiet : Local log) : ¬ Missed log := by
  rintro ⟨e, member, intake, -⟩
  have inside := quiet e member
  obtain ⟨request, reply⟩ := e
  cases request with
  | receiveField => cases inside
  | _ => cases intake

theorem motion_lost (c : Controller) : c.lost.session.motion = c.session.motion := by
  unfold lost
  split <;> rfl

/-- If one of the fields does not come, the session keeps the motion that it has. -/
theorem motion_of_missed {result : Except Fault Unit} (run : receiveDisplacement.Runs c log result d)
    (missed : Missed log) : d.session.motion = c.session.motion := by
  by_cases turn : c.phase = .subIterating
  · unfold Act.Runs at run
    rw [receiveDisplacement_apply c turn] at run
    split at run
    · obtain ⟨rfl, -⟩ := Program.runs_done.1 run
      obtain ⟨_, member, -⟩ := missed
      cases member
    split at run
    · obtain ⟨-, same⟩ := Program.runs_done.1 run
      obtain ⟨-, rfl⟩ := Prod.mk.inj same
      rfl
    obtain ⟨rest, rfl, receiving⟩ := runs_noting.1 run
    obtain ⟨first, fault, e, last, rfl, receipt, ending⟩ := runs_receiving receiving
    have missed := (missed_append.1 missed).resolve_left (not_missed_of_local (local_notes _ _))
    rcases ending with ⟨rfl, -, rfl⟩ | ⟨-, parting⟩
    · rw [List.append_nil] at missed
      exact receipt.motion missed
    · obtain ⟨quiet, -, rfl⟩ := runs_disconnect parting
      have missed := (missed_append.1 missed).resolve_right (not_missed_of_local quiet)
      exact (motion_lost e).trans (receipt.motion missed)
  · obtain ⟨-, rfl, -⟩ := refused turn run
    rfl

/-! ## The motion of a session -/

theorem holding_of_register {place : Parallel.Place} {surface : Surface} {length : Float}
    {s : Session} {registering : Log Coupling}
    (registered : (Session.register place surface length).Runs s registering (.ok ()) c.session)
    (early : c.phase = .uninitialized) (found : c.session.peer.found = true) :
    c.Holding ∧ c.session.motion =
      (Session.zeroVectors surface.vertexCount, Session.zeroVectors surface.vertexCount) := by
  obtain ⟨going, -, -⟩ := Session.checkRegistration_ok.1 (checked_of_register registered)
  obtain ⟨faces, vertices, session⟩ := runs_register registered
  refine ⟨⟨⟨?_, ?_, ?_, ?_⟩, early ▸ nofun, .inl early⟩, ?_⟩
  · unfold Session.isDryRun
    rw [found]
    rfl
  · rw [session]
    exact going
  · rw [session]
    exact List.length_replicate
  · rw [session]
    exact List.length_replicate
  · rw [session]
    rfl

end Controller

open Controller

/-- Whatever is called in whatever order and whatever fails: until its release the session has the
displacement and the velocity that have come together last, or zeros if none have; the fluid solver
is never shown anything else; and a receiving in which a field does not come changes neither. -/
theorem motion_latest {place : Parallel.Place} {surface : Surface} {length : Float}
    {s : Session} {registering : Log Coupling} {c d : Controller} {records : List Record}
    (registered : (Session.register place surface length).Runs s registering (.ok ()) c.session)
    (early : c.phase = .uninitialized) (found : c.session.peer.found = true)
    (history : History c records d) :
    let still : Motion :=
      (Session.zeroVectors surface.vertexCount, Session.zeroVectors surface.vertexCount)
    let log := records.flatMap Record.log
    (d.session.released = false → d.session.motion = latest still log) ∧
    (∀ before e after shown, log = before ++ e :: after → e.request.shown? = some shown →
      shown.motion = latest still before) ∧
    ∀ (x y : Controller) (exchanges : Log Coupling) (result : Except Fault Unit),
      receiveDisplacement.Runs x exchanges result y → Missed exchanges →
      y.session.motion = x.session.motion := by
  obtain ⟨holding, still⟩ := holding_of_register registered early found
  obtain ⟨motion, -, shown⟩ := traced_of_history holding history
  rw [still] at motion shown
  exact ⟨motion, shown, fun _ _ _ _ run missed => motion_of_missed run missed⟩

namespace HalfReceived

/-- A displacement and a velocity come. -/
def whole : (request : Request) → request.Reply
  | .receiveField _ name buffer =>
    .ok (Status.ok, buffer.map fun _ => if name = Variable.meshDisplacement then 1.0 else 2.0)
  | request => echo Status.ok request

/-- Another displacement comes, but no velocity. -/
def half : (request : Request) → request.Reply
  | .receiveField _ name buffer =>
    if name = Variable.meshDisplacement then .ok (Status.ok, buffer.map fun _ => 3.0)
    else .error .geometryMissing
  | request => echo Status.ok request

def first : List Record × Controller :=
  Controller.follow whole [.begin, .beginStep 0.5, .receiveDisplacement] EchoedRun.start

def second : List Record × Controller :=
  Controller.follow half [.receiveDisplacement, .predictDisplacement [], .endStep] first.2

/-- The second displacement is left in its staging buffer. -/
theorem motion_latest_halfReceived :
    second.2.displacementStaging = List.replicate 12 3.0 ∧
      second.2.session.motion = (List.replicate 12 1.0, List.replicate 12 2.0) := by
  have registering : (Session.register {} EchoedRun.surface 1.0).Runs
      (Session.new {} { root := 1 }) EchoedRun.registered.1 (.ok ()) EchoedRun.registered.2.2 :=
    Act.runs_follow (I := Coupling) (echo Status.ok) _ _
  have history : History EchoedRun.start (first.1 ++ second.1) second.2 :=
    (history_follow whole _ _).append (history_follow half _ _)
  exact ⟨rfl, (motion_latest registering rfl rfl history).1 rfl⟩

end HalfReceived

end FluidStructure.Coupling
