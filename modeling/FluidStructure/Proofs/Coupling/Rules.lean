import FluidStructure.Proofs.Coupling.Outcomes

/-!
# Rules for relations along a run

A relation between the state before an operation, its log, the fault that ends it and the state
afterwards is settled by the few things that the controller does: it asks, it changes what the
geometry and the motion do not depend on, it sizes, fills and takes its staging buffers, and it
refuses.  Whatever passes these passes all operations but the last.
-/

namespace FluidStructure

/-- The fault that ends a run. -/
def faultOf {α : Type} : Except Fault α → Option Fault
  | .ok _ => none
  | .error fault => some fault

theorem faultOf_map {α β : Type} (use : α → β) (outcome : Except Fault α) :
    faultOf (outcome.map use) = faultOf outcome := by
  cases outcome <;> rfl

namespace Act

variable {I : Interface} {σ α β : Type} {R : σ → Log I → Option Fault → σ → Prop}

/-- Every run stands in a relation between the state before, the log, the fault that ends it and
the state after. -/
def Within (R : σ → Log I → Option Fault → σ → Prop) (act : Act I σ α) : Prop :=
  ∀ s log result t, act.Runs s log result t → R s log (faultOf result) t

/-- Relations that hold of no exchanges and pass along sequences. -/
structure Chained (R : σ → Log I → Option Fault → σ → Prop) : Prop where
  refl : ∀ s, R s [] none s
  trans : ∀ s first t second fault u, R s first none t → R t second fault u →
    R s (first ++ second) fault u

theorem Chained.pure (chained : Chained R) (value : α) : Within R (pure value : Act I σ α) := by
  intro s log result t run
  obtain ⟨rfl, rfl, rfl⟩ := runs_pure.1 run
  exact chained.refl _

theorem Chained.get (chained : Chained R) : Within R (get : Act I σ σ) := by
  intro s log result t run
  obtain ⟨rfl, rfl, rfl⟩ := runs_get.1 run
  exact chained.refl _

theorem within_modify {change : σ → σ} (h : ∀ s, R s [] none (change s)) :
    Within R (modify change) := by
  intro s log result t run
  obtain ⟨rfl, rfl, rfl⟩ := runs_modify.1 run
  exact h _

theorem within_perform {request : I.Request} (h : ∀ s reply, R s [⟨request, reply⟩] none s) :
    Within R (perform request) := by
  intro s log result t run
  obtain ⟨reply, rfl, rfl, rfl⟩ := runs_perform.1 run
  exact h _ _

theorem Chained.bind (chained : Chained R) {act : Act I σ α} {f : α → Act I σ β}
    (first : Within R act) (later : ∀ value, Within R (f value)) : Within R (act >>= f) := by
  intro s log result t run
  rcases runs_bind.1 run with ⟨before, value, u, after, rfl, h, k⟩ | ⟨fault, rfl, h⟩
  · exact chained.trans _ _ _ _ _ _ (first _ _ _ _ h) (later value _ _ _ _ k)
  · exact first _ _ _ _ h

/-- After the state is read, the rest runs from the state that was read. -/
theorem within_get_bind {f : σ → Act I σ α}
    (h : ∀ s log result t, (f s).Runs s log result t → R s log (faultOf result) t) :
    Within R (Act.get >>= f) := by
  intro s log result t run
  exact h s log result t run

end Act

/-- Refusals of an operation that may not be called as things are. -/
def Fault.isRefusal : Fault → Bool
  | .wrongPhase .. | .geometryMissing | .stepNotOpen _ => true
  | _ => false

namespace Coupling

open FluidStructure.Channel FluidStructure.Journal

/-! ## Requests and faults -/

namespace Request

/-- Is this the receiving of a field? -/
def isIntake : Request → Bool
  | receiveField .. => true
  | _ => false

/-- The session that a request shows to the fluid solver. -/
def shown? : Request → Option Session
  | computeForces session _ _ | imposeDisplacement session _ | peerConvergence session _ =>
    some session
  | _ => none

/-- The fault that comes back. -/
def fault? : (request : Request) → request.Reply → Option Fault
  | sumReals _, reply | broadcastReals _, reply => faultOf reply
  | sumCounts _, reply => faultOf reply
  | broadcastInts _, reply => faultOf reply
  | sendField .., reply => faultOf reply
  | receiveField .., reply => faultOf reply
  | computeForces .., reply => faultOf reply.1
  | imposeDisplacement .., reply => faultOf reply
  | peerConvergence .., reply => faultOf reply
  | _, _ => none

end Request

/-- The fault has come from the surroundings. -/
def Told (log : Log Coupling) (fault : Fault) : Prop :=
  ∃ e ∈ log, e.request.fault? e.reply = some fault

theorem Told.single {request : Request} {reply : request.Reply} {fault : Fault}
    (h : request.fault? reply = some fault) : Told [⟨request, reply⟩] fault :=
  ⟨_, List.mem_cons_self, h⟩

/-- A check on the buffers or on the reference length that fails. -/
inductive Session.Unfit (s : Session) (fault : Fault) : Prop
  | forces (h : Prediction.forces s = .error fault)
  | displacement (h : Prediction.displacement s = .error fault)
  | residual (h : Convergence.checkOperands s.displacement s.predictedDisplacement
      s.referenceLength = .error fault)

/-! ## Changes aside -/

/-- The session without what a step may change when no motion comes. -/
def Session.bare (s : Session) : Session :=
  { s with
    predictedDisplacement := []
    previousVelocity := []
    force := []
    previousForce := []
    predictedForce := []
    iteration := 0
    subIteration := 0
    dt := 0.0
    previousDt := 0.0
    localConvergence := false
    globalConvergence := false }

namespace Controller

variable {c d e : Controller}

/-- The geometry and the motion, received and taken, are as they were, and so are the sizes. -/
structure Aside (c d : Controller) : Prop where
  place : d.place = c.place
  session : d.session.bare = c.session.bare
  force : d.session.force.length = c.session.force.length
  sized : c.session.Sized → d.session.Sized
  displacementStaging : d.displacementStaging = c.displacementStaging
  velocityStaging : d.velocityStaging = c.velocityStaging

theorem aside_lost (c : Controller) :
    c.Aside { c with session := c.session.terminate, run := c.run.windDown } :=
  ⟨rfl, rfl, rfl, fun sized => { sized with }, rfl, rfl⟩

/-- Predicted forces have the size of the forces. -/
theorem aside_forces {s : Session} (h : Prediction.forces c.session = .ok s) :
    c.Aside { c with session := s } := by
  have predicted : ∃ values, s = { c.session with predictedForce := values } := by
    unfold Prediction.forces Except.map at h
    split at h
    · cases h
    · injection h with h
      exact ⟨_, h.symm⟩
  obtain ⟨values, rfl⟩ := predicted
  refine ⟨rfl, rfl, rfl, fun sized => ?_, rfl, rfl⟩
  obtain ⟨_, sized', same⟩ := Prediction.forces_ok sized
  exact Except.ok.inj (same.symm.trans h) ▸ sized'

/-- A predicted displacement has the size of the displacement. -/
theorem aside_displacement {s : Session} (h : Prediction.displacement c.session = .ok s) :
    c.Aside { c with session := s } := by
  have predicted : ∃ values, s = { c.session with predictedDisplacement := values } := by
    unfold Prediction.displacement Except.map at h
    dsimp only at h
    split at h
    · cases h
    · injection h with h
      exact ⟨_, h.symm⟩
  obtain ⟨values, rfl⟩ := predicted
  refine ⟨rfl, rfl, rfl, fun sized => ?_, rfl, rfl⟩
  obtain ⟨_, sized', same⟩ := Prediction.displacement_ok sized
  exact Except.ok.inj (same.symm.trans h) ▸ sized'

theorem aside_saved (c : Controller) :
    c.Aside { c with
      session := if c.session.isImplicit then c.session else c.session.savePrevious } := by
  split
  · exact ⟨rfl, rfl, rfl, id, rfl, rfl⟩
  · exact ⟨rfl, rfl, rfl, Session.Sized.savePrevious, rfl, rfl⟩

end Controller

/-! ## Relations that heed the surroundings -/

/-- Relations along acts on any state that take note of the exchanges and of a fault that comes
from one of them. -/
structure Heeds {σ : Type} (R : σ → Log Coupling → Option Fault → σ → Prop) : Prop
    extends Act.Chained R where
  plain : ∀ s request reply, request.isIntake = false → request.shown? = none →
    R s [⟨request, reply⟩] none s
  told : ∀ s log t fault, R s log none t → Told log fault → R s log (some fault) t

section Heeds

variable {σ τ α : Type} {R : σ → Log Coupling → Option Fault → σ → Prop}

theorem Heeds.perform (heeds : Heeds R) {request : Request} (plain : request.isIntake = false)
    (hides : request.shown? = none) : (Act.perform (I := Coupling) request).Within R :=
  Act.within_perform fun s reply => heeds.plain s request reply plain hides

theorem Heeds.noteIf (heeds : Heeds R) (condition : Bool) (notice : Notice) :
    (Coupling.noteIf condition notice).Within R := by
  unfold Coupling.noteIf
  split
  · exact heeds.perform rfl rfl
  · exact heeds.pure ()

/-- A run that has told its fault, if it ends with one. -/
theorem Heeds.passed (heeds : Heeds R) {s t : σ} {log : Log Coupling} {result : Except Fault α}
    (h : R s log none t) (told : ∀ fault, faultOf result = some fault → Told log fault) :
    R s log (faultOf result) t := by
  cases result with
  | ok value => exact h
  | error fault => exact heeds.told _ _ _ _ h (told fault rfl)

/-- A request whose fault is passed on and whose value is used. -/
theorem Heeds.ofReply (heeds : Heeds R) {β : Type} (request : Request)
    {outcome : request.Reply → Except Fault β} (plain : request.isIntake = false)
    (hides : request.shown? = none)
    (same : ∀ reply, request.fault? reply = faultOf (outcome reply)) (use : β → α) :
    (Act.perform (I := Coupling) request >>= fun reply =>
      Act.ofExcept (outcome reply) >>= fun value => pure (use value) : Act Coupling σ α).Within R := by
  intro s log result t run
  rcases Act.runs_bind.1 run with ⟨first, reply, u, rest, rfl, asked, on⟩ | ⟨_, -, asked⟩
  · obtain ⟨_, rfl, answer, rfl⟩ := Act.runs_perform.1 asked
    obtain rfl := Except.ok.inj answer
    obtain ⟨outcome', opened, rfl⟩ := Act.runs_bind_pure.1 on
    obtain ⟨rfl, rfl, rfl⟩ := Act.runs_ofExcept.1 opened
    refine heeds.passed (heeds.plain _ _ _ plain hides) fun fault failed => Told.single ?_
    rw [same, ← faultOf_map use]
    exact failed
  · obtain ⟨_, -, wrong, -⟩ := Act.runs_perform.1 asked
    cases wrong

theorem Heeds.shareReal (heeds : Heeds R) (own : Float) :
    (Coupling.shareReal own : Act Coupling σ Float).Within R :=
  heeds.ofReply (.broadcastReals [own]) rfl rfl (fun _ => rfl) _

theorem Heeds.shareInt (heeds : Heeds R) (own : Int32) :
    (Coupling.shareInt own : Act Coupling σ Int32).Within R :=
  heeds.ofReply (.broadcastInts [own]) rfl rfl (fun _ => rfl) _

theorem Heeds.sharePair (heeds : Heeds R) (first second : Int32) :
    (Coupling.sharePair first second : Act Coupling σ (Int32 × Int32)).Within R :=
  heeds.ofReply (.broadcastInts [first, second]) rfl rfl (fun _ => rfl) _

theorem Heeds.sendField (heeds : Heeds R) (peer : Int32) (name : String) (values : List Float) :
    (Coupling.sendField peer name values : Act Coupling σ Status).Within R := by
  have sent := heeds.ofReply (.sendField peer name values) rfl rfl (fun _ => rfl) id
  unfold Coupling.sendField
  simpa only [id_eq, bind_pure] using sent

/-- The relation, seen from a part of the state. -/
def Through (part : τ → σ) (store : σ → τ → τ) (R : τ → Log Coupling → Option Fault → τ → Prop)
    (s : σ) (log : Log Coupling) (fault : Option Fault) (t : σ) : Prop :=
  ∀ c, part c = s → R c log fault (store t c)

theorem within_zoom {part : τ → σ} {store : σ → τ → τ}
    {R : τ → Log Coupling → Option Fault → τ → Prop} {act : Act Coupling σ α}
    (h : act.Within (Through part store R)) : (Act.zoom part store act).Within R := by
  intro c log result d run
  obtain ⟨t, inner, rfl⟩ := Act.runs_zoom.1 run
  exact h _ _ _ _ inner c rfl

theorem Heeds.through {R : τ → Log Coupling → Option Fault → τ → Prop} (heeds : Heeds R)
    (part : τ → σ) (store : σ → τ → τ) (same : ∀ c, store (part c) c = c) (back : ∀ s c, part (store s c) = s)
    (twice : ∀ s t c, store t (store s c) = store t c) : Heeds (Through part store R) where
  refl := by
    rintro _ c rfl
    rw [same]
    exact heeds.refl c
  trans := by
    intro s first t second fault u h k c here
    have rest := k (store t c) (back t c)
    rw [twice] at rest
    exact heeds.trans _ _ _ _ _ _ (h c here) rest
  plain := by
    rintro _ request reply plain hides c rfl
    rw [same]
    exact heeds.plain c request reply plain hides
  told := fun _ _ _ _ h told c here => heeds.told _ _ _ _ (h c here) told

end Heeds

/-! ## Negotiation -/

namespace TimeStep

variable {σ : Type} {R : σ → Log Coupling → Option Fault → σ → Prop}

theorem within_exchange (heeds : Heeds R) (s : Session) (iteration : Int32) (own : Float) :
    (exchange s iteration own : Act Coupling σ (Option Float)).Within R := by
  refine heeds.bind (heeds.bind (heeds.perform rfl rfl) fun _ => heeds.pure _) fun received => ?_
  dsimp only
  split
  · exact heeds.bind (heeds.perform rfl rfl) fun _ => heeds.pure _
  · refine heeds.bind (heeds.perform rfl rfl) fun sent => ?_
    split
    · exact heeds.bind (heeds.perform rfl rfl) fun _ => heeds.pure _
    · exact heeds.bind (heeds.noteIf _ _) fun _ => heeds.pure _

theorem within_propose (heeds : Heeds R) (place : Parallel.Place) (s : Session) (own : Float) :
    (propose place s own : Act Coupling σ (Int32 × Float)).Within R := by
  unfold propose
  dsimp only
  split
  · refine heeds.bind (within_exchange heeds s _ own) fun chosen => ?_
    cases chosen with
    | some dt => exact heeds.pure _
    | none => exact heeds.bind (heeds.perform rfl rfl) fun _ => heeds.pure _
  · exact heeds.pure _

theorem within_negotiate {R : Schedule → Log Coupling → Option Fault → Schedule → Prop}
    (heeds : Heeds R) (agreed : ∀ t iteration dt, R t [] none (t.agree iteration dt))
    (place : Parallel.Place) (own : Float) : (negotiate place own).Within R := by
  refine heeds.bind heeds.get fun t => ?_
  dsimp only
  split
  · exact heeds.pure _
  · exact heeds.bind (within_propose heeds place _ own) fun proposed =>
      heeds.bind (heeds.shareReal _) fun dt => heeds.bind (heeds.shareInt _) fun iteration =>
      heeds.bind (Act.within_modify fun t => agreed t iteration dt) fun _ =>
      heeds.bind (heeds.noteIf _ _) fun _ => heeds.pure _

end TimeStep

namespace Controller

variable {c d e : Controller}

/-! ## Receiving motion -/

/-- What becomes of the two fields: the first or the second does not come, or both come and are
taken, unless the buffers do not fit. -/
inductive Receipt (peer : Int32) (c : Controller) :
    Log Coupling → Option Fault → Controller → Prop
  | noFirst (fault : Fault) :
    Receipt peer c
      [⟨.receiveField peer Variable.meshDisplacement c.displacementStaging, .error fault⟩]
      (some fault) c
  | badFirst (first : Status × List Float) (failed : Status.failed first.1 = true) :
    Receipt peer c
      [⟨.receiveField peer Variable.meshDisplacement c.displacementStaging, .ok first⟩] none
      (c.stageDisplacement first.2)
  | noSecond (first : Status × List Float) (fault : Fault) :
    Receipt peer c
      [⟨.receiveField peer Variable.meshDisplacement c.displacementStaging, .ok first⟩,
        ⟨.receiveField peer Variable.meshVelocity c.velocityStaging, .error fault⟩]
      (some fault) (c.stageDisplacement first.2)
  | badSecond (first second : Status × List Float) (failed : Status.failed second.1 = true) :
    Receipt peer c
      [⟨.receiveField peer Variable.meshDisplacement c.displacementStaging, .ok first⟩,
        ⟨.receiveField peer Variable.meshVelocity c.velocityStaging, .ok second⟩] none
      ((c.stageDisplacement first.2).stageVelocity second.2)
  | unfit (first second : Status × List Float) (fault : Fault)
      (check : ((c.stageDisplacement first.2).stageVelocity second.2).stagingCheck = .error fault) :
    Receipt peer c
      [⟨.receiveField peer Variable.meshDisplacement c.displacementStaging, .ok first⟩,
        ⟨.receiveField peer Variable.meshVelocity c.velocityStaging, .ok second⟩] (some fault)
      ((c.stageDisplacement first.2).stageVelocity second.2)
  | taken (first second : Status × List Float) (come : Status.failed first.1 = false)
      (come' : Status.failed second.1 = false) :
    Receipt peer c
      [⟨.receiveField peer Variable.meshDisplacement c.displacementStaging, .ok first⟩,
        ⟨.receiveField peer Variable.meshVelocity c.velocityStaging, .ok second⟩] none
      ((c.stageDisplacement first.2).stageVelocity second.2).taken

/-- After a receipt without a fault the peer may be given up. -/
theorem runs_receiving {peer : Int32} {log : Log Coupling} {result : Except Fault Unit}
    (run : (receiveStaged peer >>= acceptStaged).Runs c log result d) :
    ∃ first fault e rest, log = first ++ rest ∧ Receipt peer c first fault e ∧
      (rest = [] ∧ faultOf result = fault ∧ d = e ∨
        fault = none ∧ (disconnect "displacement exchange").Runs e rest result d) := by
  unfold Act.Runs at run
  rw [receiveStaged_bind_apply] at run
  obtain ⟨reply, _, rfl, opened⟩ := Program.runs_ask.1 run
  rcases runs_opening.1 opened with ⟨first, rfl, onward⟩ | ⟨fault, rfl, rfl, rfl, rfl⟩
  case inr => exact ⟨_, _, _, [], rfl, .noFirst fault, .inl ⟨rfl, rfl, rfl⟩⟩
  dsimp only at onward
  split at onward
  · rename_i failed
    rw [acceptStaged_apply, if_pos failed] at onward
    exact ⟨_, _, _, _, rfl, .badFirst first failed, .inr ⟨rfl, onward⟩⟩
  rename_i come
  obtain ⟨reply, _, rfl, answered⟩ := Program.runs_ask.1 onward
  rcases runs_opening.1 answered with ⟨second, rfl, accepting⟩ | ⟨fault, rfl, rfl, rfl, rfl⟩
  case inr => exact ⟨_, _, _, [], rfl, .noSecond first fault, .inl ⟨rfl, rfl, rfl⟩⟩
  rw [acceptStaged_apply] at accepting
  split at accepting
  · rename_i failed
    exact ⟨_, _, _, _, rfl, .badSecond first second failed, .inr ⟨rfl, accepting⟩⟩
  rename_i come'
  rcases runs_opening.1 accepting with ⟨_, -, ends⟩ | ⟨fault, check, rfl, rfl, rfl⟩
  · obtain ⟨rfl, same⟩ := Program.runs_done.1 ends
    obtain ⟨rfl, rfl⟩ := Prod.mk.inj same
    exact ⟨_, _, _, [], rfl,
      .taken first second (Bool.eq_false_iff.2 come) (Bool.eq_false_iff.2 come'),
      .inl ⟨rfl, rfl, rfl⟩⟩
  · exact ⟨_, _, _, [], rfl, .unfit first second fault check, .inl ⟨rfl, rfl, rfl⟩⟩

/-! ## The rules -/

/-- What a relation has to allow for every operation to keep it. -/
structure Rules (R : Controller → Log Coupling → Option Fault → Controller → Prop) : Prop
    extends Act.Chained R where
  aside : ∀ c d, c.Aside d → R c [] none d
  /-- The solver is shown the session as it is. -/
  asked : ∀ c request reply, request.isIntake = false →
    (∀ s, request.shown? = some s → s = c.session) → R c [⟨request, reply⟩] none c
  told : ∀ c log d fault, R c log none d → Told log fault → R c log (some fault) d
  refused : ∀ c fault, fault.isRefusal = true → R c [] (some fault) c
  checked : ∀ c fault, c.session.Unfit fault → R c [] (some fault) c
  staged : sizeStaging.Within R
  received : ∀ peer c log fault d, Receipt peer c log fault d → R c log fault d
  rested : ∀ c, c.session.isDryRun = true → R c [] none { c with session := rest c.session }

namespace Rules

variable {R : Controller → Log Coupling → Option Fault → Controller → Prop} {α : Type}

theorem heeds (rules : Rules R) : Heeds R where
  refl := rules.refl
  trans := rules.trans
  plain := fun c request reply plain hides => rules.asked c request reply plain fun s shown => by
    rw [hides] at shown
    cases shown
  told := rules.told

/-! ### Parts -/

/-- A change between exchanges. -/
theorem modify (rules : Rules R) {change : Controller → Controller}
    (aside : ∀ c : Controller, c.Aside (change c)) : (Act.modify change).Within R :=
  Act.within_modify fun c => rules.aside _ _ (aside c)

theorem setPhase (rules : Rules R) (phase : Phase) : (Controller.setPhase phase).Within R :=
  rules.modify fun _ => ⟨rfl, rfl, rfl, id, rfl, rfl⟩

theorem requirePhase (rules : Rules R) (expected : Phase) (operation : String) :
    (Controller.requirePhase expected operation).Within R := by
  refine Act.within_get_bind fun c log result d run => ?_
  dsimp only at run
  split at run
  · exact rules.pure () _ _ _ _ run
  · obtain ⟨rfl, rfl, rfl⟩ := Act.runs_fail.1 run
    exact rules.refused _ _ rfl

theorem unlessTerminated (rules : Rules R) {act : Act Coupling Controller Unit}
    (h : act.Within R) : (Controller.unlessTerminated act).Within R := by
  refine rules.bind rules.get fun c => ?_
  split
  · exact rules.pure ()
  · exact h

theorem onRoot (rules : Rules R) {exchange : Act Coupling Controller Status}
    (h : exchange.Within R) : (Controller.onRoot exchange).Within R := by
  refine rules.bind rules.get fun c => ?_
  split
  · exact h
  · exact rules.pure _

theorem sendInTurn (rules : Rules R) (first : Act Coupling Controller Status)
    (later : List (Act Coupling Controller Status)) (h : ∀ act ∈ first :: later, act.Within R) :
    (Controller.sendInTurn first later).Within R := by
  induction later generalizing first with
  | nil => exact h first List.mem_cons_self
  | cons second later ih =>
    refine rules.bind (h first List.mem_cons_self) fun status => ?_
    split
    · exact rules.pure _
    · exact ih second fun act member => h act (List.mem_cons_of_mem _ member)

theorem disconnect (rules : Rules R) (during : String) : (Controller.disconnect during).Within R :=
  rules.unlessTerminated <| rules.bind (rules.modify aside_lost) fun _ =>
    rules.bind rules.get fun _ => rules.heeds.noteIf _ _

theorem heed (rules : Rules R) (status : Status) (during : String) :
    (Controller.heed status during).Within R := by
  unfold Controller.heed
  split
  · exact rules.disconnect during
  · exact rules.pure ()

theorem announce (rules : Rules R) : Controller.announce.Within R := by
  refine rules.bind rules.get fun c => ?_
  split
  · exact rules.heeds.noteIf _ _
  · refine rules.bind (rules.onRoot ?_) fun own => rules.bind (rules.heeds.shareInt own) fun _ =>
      rules.heed _ _
    refine rules.bind (rules.heeds.noteIf _ _) fun _ => rules.sendInTurn _ _ fun act member => ?_
    simp only [List.mem_cons, List.not_mem_nil, or_false] at member
    rcases member with rfl | rfl | rfl | rfl | rfl <;> exact rules.heeds.perform rfl rfl

theorem negotiate (rules : Rules R) (place : Parallel.Place) (own : Float) :
    (onSchedule (TimeStep.negotiate place own)).Within R := by
  refine within_zoom (TimeStep.within_negotiate ?_ ?_ place own)
  · exact rules.heeds.through _ _ (fun _ => rfl) (fun _ _ => rfl) fun _ _ _ => rfl
  rintro _ iteration dt c rfl
  exact rules.aside _ _ ⟨rfl, rfl, rfl, fun sized => { sized with }, rfl, rfl⟩

/-- What has come is taken or left, and a failure is the loss of the peer. -/
theorem receiving (rules : Rules R) (peer : Int32) :
    (receiveStaged peer >>= acceptStaged).Within R := by
  intro c log result d run
  obtain ⟨first, fault, e, rest, rfl, receipt, ⟨rfl, rfl, rfl⟩ | ⟨rfl, parting⟩⟩ :=
    runs_receiving run
  · rw [List.append_nil]
    exact rules.received _ _ _ _ _ receipt
  · exact rules.trans _ _ _ _ _ _ (rules.received _ _ _ _ _ receipt)
      (rules.disconnect _ _ _ _ _ parting)

theorem predictForces (rules : Rules R) : (onSession Prediction.predictForces).Within R := by
  have inner := rules.heeds.through Controller.session (fun s c => { c with session := s })
    (fun _ => rfl) (fun _ _ => rfl) fun _ _ _ => rfl
  refine within_zoom fun s log result t run => ?_
  unfold Act.Runs Prediction.predictForces at run
  rw [Act.get_bind_apply, ofExcept_bind_apply] at run
  rcases runs_opening.1 run with ⟨after, fine, onward⟩ | ⟨fault, bad, rfl, rfl, rfl⟩
  · have noted := inner.bind (inner.noteIf _ _) (fun _ => inner.pure _) _ _ _ _ onward
    rintro c rfl
    exact rules.trans _ [] _ log _ _ (rules.aside _ _ (aside_forces fine)) (noted _ rfl)
  · rintro c rfl
    exact rules.checked c fault (.forces bad)

theorem predictMotion (rules : Rules R) :
    (onSession Prediction.predictDisplacement).Within R := by
  have inner := rules.heeds.through Controller.session (fun s c => { c with session := s })
    (fun _ => rfl) (fun _ _ => rfl) fun _ _ _ => rfl
  refine within_zoom fun s log result t run => ?_
  unfold Act.Runs Prediction.predictDisplacement at run
  rw [Act.get_bind_apply, ofExcept_bind_apply] at run
  rcases runs_opening.1 run with ⟨after, fine, onward⟩ | ⟨fault, bad, rfl, rfl, rfl⟩
  · have noted := inner.bind (inner.noteIf _ _) (fun _ => inner.pure _) _ _ _ _ onward
    rintro c rfl
    exact rules.trans _ [] _ log _ _ (rules.aside _ _ (aside_displacement fine)) (noted _ rfl)
  · rintro c rfl
    exact rules.checked c fault (.displacement bad)

theorem evaluate (rules : Rules R) (place : Parallel.Place) :
    (onEvaluation (Convergence.evaluate place)).Within R := by
  have assessed (c : Controller) (converged : Bool) (residual : Float) :
      c.Aside (c.assessed converged residual) :=
    ⟨rfl, rfl, rfl, fun sized => { sized with }, rfl, rfl⟩
  intro c log result d run
  unfold Act.Runs at run
  rw [← bind_pure (onEvaluation _), onEvaluation_evaluate_bind_apply] at run
  split at run
  · rcases runs_opening.1 run with ⟨_, -, asking⟩ | ⟨fault, bad, rfl, rfl, rfl⟩
    · obtain ⟨reply, rest, rfl, opened⟩ := Program.runs_ask.1 asking
      rcases runs_opening.1 opened with ⟨sums, rfl, noted⟩ | ⟨fault, rfl, rfl, rfl, rfl⟩
      · rw [← noteIf_bind_apply _ _ fun _ => pure _] at noted
        have after := rules.bind (rules.heeds.noteIf _ _) (fun _ => rules.pure _) _ _ _ _ noted
        refine rules.trans _ [_] _ rest _ _ ?_
          (rules.trans _ [] _ _ _ _ (rules.aside _ _ (assessed _ _ _)) after)
        exact rules.heeds.plain _ _ _ rfl rfl
      · exact rules.told _ _ _ _ (rules.heeds.plain _ _ _ rfl rfl) (Told.single rfl)
    · exact rules.checked _ fault (.residual bad)
  · obtain ⟨rfl, rfl, rfl⟩ := Act.runs_pure.1 run
    exact rules.aside _ _ (assessed _ _ _)

theorem askPeerConvergence (rules : Rules R) (own : Bool) :
    (Controller.askPeerConvergence own).Within R := by
  intro c log result d run
  unfold Act.Runs at run
  rw [← bind_pure (Controller.askPeerConvergence own), askPeerConvergence_bind_apply] at run
  obtain ⟨reply, rest, rfl, opened⟩ := Program.runs_ask.1 run
  have asked := rules.asked c (.peerConvergence c.session own) reply rfl fun s shown =>
    (Option.some.inj shown).symm
  rcases runs_opening.1 opened with ⟨peer, rfl, last⟩ | ⟨fault, rfl, rfl, rfl, rfl⟩
  · obtain ⟨rfl, rfl, rfl⟩ := Act.runs_pure.1 last
    exact rules.trans _ [_] _ [] _ _ asked
      (rules.aside _ _ ⟨rfl, rfl, rfl, fun sized => { sized with }, rfl, rfl⟩)
  · exact rules.told _ _ _ _ asked (Told.single rfl)

theorem sendConvergence (rules : Rules R) (own : Bool) :
    (Controller.sendConvergence own).Within R := by
  refine rules.bind rules.get fun c => ?_
  dsimp only
  split
  · exact rules.onRoot (rules.heeds.perform rfl rfl)
  · exact rules.pure _

theorem computeForces (rules : Rules R) : Controller.computeForces.Within R := by
  intro c log result d run
  obtain ⟨reply, rfl, rfl, rfl⟩ := runs_computeForces run
  have asked := rules.asked c (.computeForces c.session c.run c.session.force) reply rfl
    fun s shown => (Option.some.inj shown).symm
  have written : c.Aside { c with
      session := { c.session with force := overwrite c.session.force reply.2 } } :=
    ⟨rfl, rfl, length_overwrite _ _, fun sized => sized.overwriteForce _, rfl, rfl⟩
  exact rules.heeds.passed (rules.trans _ [_] _ [] _ _ asked (rules.aside _ _ written))
    fun fault failed => Told.single failed

theorem imposeDisplacement (rules : Rules R) : Controller.imposeDisplacement.Within R := by
  intro c log result d run
  obtain ⟨rfl, rfl⟩ := runs_imposeDisplacement run
  have asked := rules.asked d
    (.imposeDisplacement d.session d.session.predictedDisplacement) result rfl
    fun s shown => (Option.some.inj shown).symm
  exact rules.heeds.passed asked fun fault failed => Told.single failed

/-! ### Stages -/

theorem sendForces (rules : Rules R) : Controller.sendForces.Within R := by
  refine rules.bind (rules.requirePhase _ _) fun _ => rules.unlessTerminated <|
    rules.bind rules.predictForces fun _ => rules.bind rules.get fun c => ?_
  dsimp only
  split
  · exact rules.pure _
  · exact rules.bind (rules.heeds.sendField _ _ _) fun _ => rules.heed _ _

theorem receiveDisplacement (rules : Rules R) : Controller.receiveDisplacement.Within R := by
  refine rules.bind (rules.requirePhase _ _) fun _ =>
    Act.within_get_bind fun c log result d run => ?_
  split at run
  · rename_i alone
    obtain ⟨rfl, rfl, rfl⟩ := Act.runs_modify.1 run
    exact rules.rested c alone
  · exact rules.unlessTerminated (rules.bind (rules.heeds.noteIf _ _) fun _ =>
      rules.receiving _) _ _ _ _ run

theorem predictDisplacement (rules : Rules R) : Controller.predictDisplacement.Within R := by
  refine rules.bind (rules.requirePhase _ _) fun _ => rules.bind rules.get fun c => ?_
  split
  · exact rules.pure _
  · exact rules.predictMotion

theorem predictDisplacementOnto (rules : Rules R) (parent : List Float) :
    (Controller.predictDisplacementOnto parent).Within R := by
  refine rules.bind rules.get fun _ => rules.bind rules.predictDisplacement fun _ =>
    rules.bind rules.get fun c => ?_
  dsimp only
  split
  · exact rules.pure _
  · split
    · exact rules.pure _
    · exact rules.pure _

theorem exchangeConvergence (rules : Rules R) : Controller.exchangeConvergence.Within R :=
  rules.bind (rules.requirePhase _ _) fun _ => rules.bind rules.get fun c =>
    rules.bind (rules.evaluate c.place) fun own => rules.bind (rules.askPeerConvergence own) fun _ =>
    rules.bind (rules.sendConvergence own) fun _ => rules.bind (rules.heeds.sharePair _ _) fun _ =>
    rules.bind (rules.heed _ _) fun _ => rules.pure _

theorem saveValues (rules : Rules R) : Controller.saveValues.Within R :=
  rules.modify aside_saved

/-! ### Steps -/

theorem subIterate (rules : Rules R) : Controller.subIterate.Within R :=
  rules.bind rules.computeForces fun _ => rules.bind rules.sendForces fun _ =>
    rules.bind rules.receiveDisplacement fun _ => rules.bind rules.predictDisplacement fun _ =>
    rules.bind (rules.unlessTerminated rules.imposeDisplacement) fun _ =>
    rules.bind rules.exchangeConvergence fun _ => rules.bind rules.saveValues fun _ =>
    rules.bind (rules.modify fun _ => ⟨rfl, rfl, rfl, fun sized => { sized with }, rfl, rfl⟩) fun _ =>
    rules.bind rules.get fun _ => rules.pure _

theorem subIterateAtMost (rules : Rules R) (n : Nat) :
    (Controller.subIterateAtMost n).Within R := by
  induction n with
  | zero => exact rules.pure ()
  | succ n ih =>
    refine rules.bind rules.subIterate fun last => ?_
    cases last with
    | true => exact rules.pure ()
    | false => exact ih

theorem beginStep (rules : Rules R) (own : Float) : (Controller.beginStep own).Within R :=
  rules.bind (rules.requirePhase _ _) fun _ => rules.bind (rules.setPhase _) fun _ =>
    rules.bind (rules.modify fun _ => ⟨rfl, rfl, rfl, id, rfl, rfl⟩) fun _ =>
    rules.bind rules.get fun c => rules.bind (rules.negotiate c.place own) fun _ =>
    rules.bind (rules.modify fun _ => ⟨rfl, rfl, rfl, id, rfl, rfl⟩) fun _ =>
    rules.bind (rules.modify fun _ => ⟨rfl, rfl, rfl, fun sized => { sized with }, rfl, rfl⟩) fun _ =>
    rules.bind (rules.setPhase _) fun _ => rules.pure _

theorem runStep (rules : Rules R) (own : Float) : (Controller.runStep own).Within R :=
  rules.bind (rules.beginStep own) fun _ => rules.bind rules.get fun _ =>
    rules.bind (rules.subIterateAtMost _) fun _ => rules.bind (rules.setPhase _) fun _ =>
    rules.bind rules.get fun _ => rules.bind (rules.heeds.noteIf _ _) fun _ => rules.pure _

theorem endStep (rules : Rules R) : Controller.endStep.Within R := by
  refine Act.within_get_bind fun c log result d run => ?_
  dsimp only at run
  split at run
  · obtain ⟨rfl, rfl, rfl⟩ := Act.runs_fail.1 run
    exact rules.refused _ _ rfl
  · obtain ⟨rfl, rfl, rfl⟩ := Act.runs_set.1 run
    exact rules.aside _ _ ⟨rfl, rfl, rfl, id, rfl, rfl⟩

/-- The beginning once the staging buffers have their sizes. -/
theorem opening (rules : Rules R) :
    (Controller.announce >>= fun _ => Controller.setPhase .active).Within R :=
  rules.bind rules.announce fun _ => rules.setPhase _

theorem begin (rules : Rules R) : Controller.begin.Within R := by
  refine rules.bind (rules.requirePhase _ _) fun _ =>
    Act.within_get_bind fun c log result d run => ?_
  split at run
  · obtain ⟨rfl, rfl, rfl⟩ := Act.runs_fail.1 run
    exact rules.refused _ _ rfl
  · exact rules.bind rules.staged (fun _ => rules.opening) _ _ _ _ run

/-- Every operation but the last passes what the rules pass. -/
theorem operation (rules : Rules R) {operation : Operation} (going : operation ≠ .finish) :
    operation.perform.Within R := by
  cases operation with
  | finish => exact absurd rfl going
  | begin => exact rules.bind rules.begin fun _ => rules.pure _
  | beginStep own => exact rules.bind (rules.beginStep own) fun _ => rules.pure _
  | runStep own => exact rules.bind (rules.runStep own) fun _ => rules.pure _
  | endStep => exact rules.bind rules.endStep fun _ => rules.pure _
  | sendForces => exact rules.bind rules.sendForces fun _ => rules.pure _
  | receiveDisplacement => exact rules.bind rules.receiveDisplacement fun _ => rules.pure _
  | predictDisplacement parent =>
    exact rules.bind (rules.predictDisplacementOnto parent) fun _ => rules.pure _
  | exchangeConvergence => exact rules.bind rules.exchangeConvergence fun _ => rules.pure _
  | saveValues => exact rules.bind rules.saveValues fun _ => rules.pure _

end Rules

end Controller

end Coupling

end FluidStructure
