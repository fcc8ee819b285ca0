import FluidStructure.Proofs.Coupling.Effects
import FluidStructure.Proofs.Coupling.Operation
import FluidStructure.Proofs.Coupling.Sizes

/-!
# What a stage comes to

In an orderly run neither the local group nor the fluid solver faults.  Then a stage always comes
to its end, and what it comes to depends on the exchanges alone: on the interface values that they
carry, and on whether one of them has failed.
-/

namespace FluidStructure.Coupling

open FluidStructure.Channel FluidStructure.Journal

/-! ## Orderly exchanges -/

/-- What a rank hears if nothing goes wrong in its own application.  No operation of the group
faults, nor does the solver.  A broadcast fills the buffer, on the root with the values that are
there; a positive iteration comes as it is or as the mark of a lost peer. -/
structure Orderly (root : Bool) (e : Exchange Coupling) : Prop where
  sound : e.request.faults e.reply = false
  shared : ∀ own values, e = ⟨.broadcastInts own, .ok values⟩ →
    values.length = own.length ∧ (root = true → values = own) ∧
      ∀ iteration, own = [iteration] → 0 < iteration → values = own ∨ values = [-1]
  computed : ∀ session run buffer reply, e = ⟨.computeForces session run buffer, reply⟩ →
    reply.1 = .ok ()
  imposed : ∀ session values reply, e = ⟨.imposeDisplacement session values, reply⟩ → reply = .ok ()
  asked : ∀ session own reply, e = ⟨.peerConvergence session own, reply⟩ → ∃ peer, reply = .ok peer

/-- Nothing goes wrong in the own application: no operation of the group faults, nor does the
solver. -/
structure Benign (e : Exchange Coupling) : Prop where
  sound : e.request.faults e.reply = false
  computed : ∀ session run buffer reply, e = ⟨.computeForces session run buffer, reply⟩ →
    reply.1 = .ok ()
  imposed : ∀ session values reply, e = ⟨.imposeDisplacement session values, reply⟩ → reply = .ok ()
  asked : ∀ session own reply, e = ⟨.peerConvergence session own, reply⟩ → ∃ peer, reply = .ok peer

theorem Orderly.benign {root : Bool} {e : Exchange Coupling} (h : Orderly root e) : Benign e :=
  ⟨h.sound, h.computed, h.imposed, h.asked⟩

/-- Does the exchange show that one with the peer has failed?  Either it is the one, or it hands
the bad news to the group. -/
def reveals : Exchange Coupling → Bool
  | ⟨.broadcastInts _, .ok values⟩ => values.getLast?.any fun news => news < 0
  | ⟨request, reply⟩ => !request.succeeds reply

/-- Has an exchange with the peer failed? -/
def lossy (log : Log Coupling) : Bool := log.any reveals

@[simp] theorem lossy_nil : lossy [] = false := rfl

@[simp] theorem lossy_append (first second : Log Coupling) :
    lossy (first ++ second) = (lossy first || lossy second) := List.any_append

theorem lossy_cons (e : Exchange Coupling) (log : Log Coupling) :
    lossy (e :: log) = (reveals e || lossy log) := rfl

/-- A pair with a status tells the status. -/
theorem reveals_pair {root : Bool} {decision status : Int32} {values : List Int32}
    (orderly : Orderly root ⟨.broadcastInts [decision, status], .ok values⟩) :
    reveals ⟨.broadcastInts [decision, status], .ok values⟩ =
      Status.failed (values[1]?.getD status) := by
  have two : values.length = 2 := (orderly.shared _ _ rfl).1
  match values, two with
  | [_, _], _ => rfl

/-- A single number tells whether it is negative. -/
theorem reveals_single {root : Bool} {own : Int32} {values : List Int32}
    (orderly : Orderly root ⟨.broadcastInts [own], .ok values⟩) :
    reveals ⟨.broadcastInts [own], .ok values⟩ = Status.failed (values.headD own) := by
  have one : values.length = 1 := (orderly.shared _ _ rfl).1
  match values, one with
  | [_], _ => rfl

/-! ## Interface values -/

/-- Does a request carry values of the interface? -/
def Request.carries : Request → Bool
  | sendField .. | receiveField .. | computeForces .. | imposeDisplacement .. => true
  | _ => false

/-- The exchanges that carry values of the interface. -/
def carried (log : Log Coupling) : Log Coupling := log.filter fun e => e.request.carries

@[simp] theorem carried_nil : carried [] = [] := rfl

@[simp] theorem carried_append (first second : Log Coupling) :
    carried (first ++ second) = carried first ++ carried second := List.filter_append ..

theorem carried_cons (e : Exchange Coupling) (log : Log Coupling) :
    carried (e :: log) = (if e.request.carries then [e] else []) ++ carried log := by
  unfold carried
  rw [List.filter_cons]
  split <;> rfl

/-- Nothing is carried, and nothing bad is heard. -/
structure Mute (log : Log Coupling) : Prop where
  carried : carried log = []
  lossy : lossy log = false

theorem Mute.nil : Mute [] := ⟨rfl, rfl⟩

theorem mute_notes (condition : Bool) (notice : Notice) :
    Mute (if condition then [⟨.note notice, ()⟩] else []) := by
  cases condition with
  | false => exact Mute.nil
  | true => exact ⟨rfl, rfl⟩

variable {α : Type} {log : Log Coupling}

/-- A notice ahead of a program matters to nobody. -/
theorem runs_noting_mute {condition : Bool} {notice : Notice} {p : Program Coupling α} {value : α}
    (run : (noting condition notice p).Runs log value) :
    ∃ rest, p.Runs rest value ∧ carried log = carried rest ∧ lossy log = lossy rest ∧
      ∀ e ∈ rest, e ∈ log := by
  obtain ⟨rest, rfl, onward⟩ := runs_noting.1 run
  have mute := mute_notes condition notice
  refine ⟨rest, onward, ?_, ?_, fun e member => List.mem_append_right _ member⟩
  · rw [carried_append, mute.carried]
    rfl
  · rw [lossy_append, mute.lossy]
    rfl

namespace Controller

variable {c d : Controller} {root : Bool}

/-! ## What stages leave alone -/

/-- All buffers have their sizes. -/
structure Sound (c : Controller) : Prop extends c.Sized where
  velocity : c.velocityStaging.length = c.session.velocity.length

/-- The residual, which only implicit coupling asks for, can be computed. -/
def Assessable (c : Controller) : Prop :=
  c.session.isImplicit = true → (0.0 : Float) < c.session.referenceLength

/-- What no part of a run changes. -/
structure Kin (c d : Controller) : Prop where
  place : d.place = c.place
  parameters : d.session.parameters = c.session.parameters
  peer : d.session.peer = c.session.peer
  length : d.session.referenceLength = c.session.referenceLength
  sound : c.Sound → d.Sound

theorem Kin.trans {e : Controller} (h : c.Kin d) (k : d.Kin e) : c.Kin e where
  place := k.place.trans h.place
  parameters := k.parameters.trans h.parameters
  peer := k.peer.trans h.peer
  length := k.length.trans h.length
  sound := fun sound => k.sound (h.sound sound)

theorem Kin.isImplicit (h : c.Kin d) : d.session.isImplicit = c.session.isImplicit := by
  unfold Session.isImplicit
  rw [h.parameters]

theorem Kin.isDryRun (h : c.Kin d) : d.session.isDryRun = c.session.isDryRun := by
  unfold Session.isDryRun
  rw [h.peer]

theorem Kin.assessable (h : c.Kin d) : d.Assessable ↔ c.Assessable := by
  unfold Assessable
  rw [h.isImplicit, h.length]

/-- What no stage of a sub-iteration changes. -/
structure Akin (c d : Controller) : Prop extends Kin c d where
  phase : d.phase = c.phase
  stepDt : d.stepDt = c.stepDt

theorem Akin.refl (c : Controller) : c.Akin c := ⟨⟨rfl, rfl, rfl, rfl, id⟩, rfl, rfl⟩

theorem Akin.trans {e : Controller} (h : c.Akin d) (k : d.Akin e) : c.Akin e where
  toKin := h.toKin.trans k.toKin
  phase := k.phase.trans h.phase
  stepDt := k.stepDt.trans h.stepDt

theorem akin_lost (c : Controller) : c.Akin c.lost := by
  unfold lost
  split
  · exact Akin.refl c
  · exact ⟨⟨rfl, rfl, rfl, rfl, fun sound => ⟨⟨{ sound.buffers with }, sound.staging⟩,
      sound.velocity⟩⟩, rfl, rfl⟩

/-! ## Stages -/

theorem runs_heed_mute {status : Status} {during : String} {result : Except Fault Unit}
    (run : (heed status during).Runs c log result d) :
    Mute log ∧ result = .ok () ∧ d = if Status.failed status then c.lost else c := by
  unfold Act.Runs at run
  rw [heed_apply] at run
  obtain ⟨rest, rfl, last⟩ := runs_noting.1 run
  obtain ⟨rfl, h⟩ := Program.runs_done.1 last
  obtain ⟨rfl, rfl⟩ := Prod.mk.inj h
  rw [List.append_nil]
  exact ⟨mute_notes _ _, rfl, rfl⟩

/-- The controller with predicted forces. -/
def forecast (c : Controller) : Controller :=
  { c with session := { c.session with predictedForce := Prediction.nextForces c.session } }

theorem akin_forecast (c : Controller) : c.Akin c.forecast := by
  refine ⟨⟨rfl, rfl, rfl, rfl, fun sound => ⟨⟨{ sound.buffers with predictedForce := ?_ },
    sound.staging⟩, sound.velocity⟩⟩, rfl, rfl⟩
  exact Prediction.length_nextForces sound.buffers

/-- What becomes of the forces. -/
inductive ForcesSent (c : Controller) : Log Coupling → Controller → Prop
  | gone (gone : c.session.isTerminated = true) : ForcesSent c [] c
  | dry (live : c.session.isTerminated = false) (alone : c.session.isDryRun = true) :
    ForcesSent c [] c.forecast
  | sent (live : c.session.isTerminated = false) (found : c.session.isDryRun = false)
      (status : Status) :
    ForcesSent c
      [⟨.sendField c.session.peer.root Variable.fluidForces (Prediction.nextForces c.session),
        .ok status⟩]
      (if Status.failed status then c.forecast.lost else c.forecast)

theorem ForcesSent.akin (h : ForcesSent c log d) : c.Akin d := by
  cases h with
  | gone => exact Akin.refl c
  | dry => exact akin_forecast c
  | sent _ _ status =>
    split
    · exact (akin_forecast c).trans (akin_lost _)
    · exact akin_forecast c

theorem runs_sendForces {result : Except Fault Unit} (turn : c.phase = .subIterating)
    (sized : c.session.Sized) (run : sendForces.Runs c log result d)
    (benign : ∀ e ∈ log, Benign e) :
    result = .ok () ∧ ForcesSent c (carried log) d ∧ lossy log = lossy (carried log) := by
  unfold Act.Runs at run
  rw [sendForces_apply c turn] at run
  cases live : c.session.isTerminated with
  | true =>
    rw [live, if_pos rfl] at run
    obtain ⟨rfl, h⟩ := Program.runs_done.1 run
    obtain ⟨rfl, rfl⟩ := Prod.mk.inj h
    exact ⟨rfl, .gone live, rfl⟩
  | false =>
    rw [live, if_neg (by decide), Prediction.forces_eq sized, opening_ok] at run
    obtain ⟨rest, onward, same, bad, within⟩ := runs_noting_mute run
    rw [same, bad]
    dsimp only at onward
    split at onward
    · rename_i alone
      obtain ⟨rfl, h⟩ := Program.runs_done.1 onward
      obtain ⟨rfl, rfl⟩ := Prod.mk.inj h
      exact ⟨rfl, .dry live alone, rfl⟩
    · rename_i found
      obtain ⟨reply, rest, rfl, replied⟩ := Program.runs_ask.1 onward
      have fine := (benign _ (within _ List.mem_cons_self)).sound
      cases reply with
      | error fault => cases fine
      | ok status =>
        obtain ⟨mute, rfl, rfl⟩ := runs_heed_mute replied
        rw [carried_cons, lossy_cons, mute.carried, mute.lossy, Bool.or_false]
        exact ⟨rfl, .sent live (Bool.eq_false_iff.2 found) status, (Bool.or_false _).symm⟩

/-- The controller with a displacement in its staging buffer. -/
def stageDisplacement (c : Controller) (values : List Float) : Controller :=
  { c with displacementStaging := overwrite c.displacementStaging values }

/-- The controller with a velocity in its staging buffer. -/
def stageVelocity (c : Controller) (values : List Float) : Controller :=
  { c with velocityStaging := overwrite c.velocityStaging values }

theorem runs_acceptStaged_mute {status : Status} {result : Except Fault Unit}
    (staging : c.displacementStaging.length = c.session.displacement.length)
    (run : (acceptStaged status).Runs c log result d) :
    Mute log ∧ result = .ok () ∧ d = if Status.failed status then c.lost else c.taken := by
  unfold Act.Runs at run
  rw [acceptStaged_apply] at run
  split at run
  · rename_i failed
    rw [disconnect_apply] at run
    obtain ⟨rest, rfl, last⟩ := runs_noting.1 run
    obtain ⟨rfl, h⟩ := Program.runs_done.1 last
    obtain ⟨rfl, rfl⟩ := Prod.mk.inj h
    rw [List.append_nil, if_pos failed]
    exact ⟨mute_notes _ _, rfl, rfl⟩
  · rename_i fine
    have check : c.stagingCheck = .ok () := by
      unfold stagingCheck Fault.assert
      rw [staging]
      simp
    rw [check, opening_ok] at run
    obtain ⟨rfl, h⟩ := Program.runs_done.1 run
    obtain ⟨rfl, rfl⟩ := Prod.mk.inj h
    rw [if_neg fine]
    exact ⟨Mute.nil, rfl, rfl⟩

/-- What becomes of the motion. -/
inductive MotionReceived (c : Controller) : Log Coupling → Controller → Prop
  | dry (alone : c.session.isDryRun = true) : MotionReceived c [] { c with session := rest c.session }
  | gone (found : c.session.isDryRun = false) (gone : c.session.isTerminated = true) :
    MotionReceived c [] c
  | first (found : c.session.isDryRun = false) (live : c.session.isTerminated = false)
      (received : Status × List Float) (failed : Status.failed received.1 = true) :
    MotionReceived c
      [⟨.receiveField c.session.peer.root Variable.meshDisplacement c.displacementStaging,
        .ok received⟩]
      (c.stageDisplacement received.2).lost
  | both (found : c.session.isDryRun = false) (live : c.session.isTerminated = false)
      (first second : Status × List Float) (fine : Status.failed first.1 = false) :
    MotionReceived c
      [⟨.receiveField c.session.peer.root Variable.meshDisplacement c.displacementStaging,
        .ok first⟩,
        ⟨.receiveField c.session.peer.root Variable.meshVelocity c.velocityStaging, .ok second⟩]
      (if Status.failed second.1 then ((c.stageDisplacement first.2).stageVelocity second.2).lost
      else ((c.stageDisplacement first.2).stageVelocity second.2).taken)

theorem akin_rest (c : Controller) : c.Akin { c with session := rest c.session } := by
  refine ⟨⟨rfl, rfl, rfl, rfl, fun sound => ⟨⟨?_, ?_⟩, ?_⟩⟩, rfl, rfl⟩
  · have sized := sound.buffers
    unfold rest
    exact { sized with
      predictedDisplacement := sized.predictedDisplacement.trans List.length_replicate.symm
      velocity := List.length_replicate.trans (sized.velocity.trans List.length_replicate.symm)
      previousVelocity := sized.previousVelocity.trans List.length_replicate.symm }
  · exact sound.staging.trans List.length_replicate.symm
  · exact sound.velocity.trans List.length_replicate.symm

theorem akin_stage (c : Controller) (displacement : List Float) :
    c.Akin (c.stageDisplacement displacement) :=
  ⟨⟨rfl, rfl, rfl, rfl, fun sound => ⟨⟨{ sound.buffers with },
    (length_overwrite _ _).trans sound.staging⟩, sound.velocity⟩⟩, rfl, rfl⟩

theorem akin_stageVelocity (c : Controller) (velocity : List Float) :
    c.Akin (c.stageVelocity velocity) :=
  ⟨⟨rfl, rfl, rfl, rfl, fun sound => ⟨⟨{ sound.buffers with }, sound.staging⟩,
    (length_overwrite _ _).trans sound.velocity⟩⟩, rfl, rfl⟩

theorem akin_taken (c : Controller) : c.Akin c.taken := by
  refine ⟨⟨rfl, rfl, rfl, rfl, fun sound => ⟨⟨?_, ?_⟩, ?_⟩⟩, rfl, rfl⟩
  · exact sound.buffers.overwriteMotion _ _
  · exact sound.staging.trans (length_overwrite _ _).symm
  · exact sound.velocity.trans (length_overwrite _ _).symm

theorem MotionReceived.akin (h : MotionReceived c log d) : c.Akin d := by
  cases h with
  | dry => exact akin_rest c
  | gone => exact Akin.refl c
  | first _ _ received => exact (akin_stage c received.2).trans (akin_lost _)
  | both _ _ first second =>
    have staged := (akin_stage c first.2).trans (akin_stageVelocity _ second.2)
    split
    · exact staged.trans (akin_lost _)
    · exact staged.trans (akin_taken _)

theorem runs_receiveDisplacement {result : Except Fault Unit} (turn : c.phase = .subIterating)
    (sized : c.Sized) (run : receiveDisplacement.Runs c log result d)
    (benign : ∀ e ∈ log, Benign e) :
    result = .ok () ∧ MotionReceived c (carried log) d ∧ lossy log = lossy (carried log) := by
  unfold Act.Runs at run
  rw [receiveDisplacement_apply c turn] at run
  cases alone : c.session.isDryRun with
  | true =>
    rw [alone, if_pos rfl] at run
    obtain ⟨rfl, h⟩ := Program.runs_done.1 run
    obtain ⟨rfl, rfl⟩ := Prod.mk.inj h
    exact ⟨rfl, .dry alone, rfl⟩
  | false =>
  rw [alone, if_neg (by decide)] at run
  cases live : c.session.isTerminated with
  | true =>
    rw [live, if_pos rfl] at run
    obtain ⟨rfl, h⟩ := Program.runs_done.1 run
    obtain ⟨rfl, rfl⟩ := Prod.mk.inj h
    exact ⟨rfl, .gone alone live, rfl⟩
  | false =>
  rw [live, if_neg (by decide), receiveStaged_bind_apply] at run
  obtain ⟨rest, asking, same, bad, within⟩ := runs_noting_mute run
  rw [same, bad]
  obtain ⟨reply, rest, rfl, replied⟩ := Program.runs_ask.1 asking
  have fine := (benign _ (within _ List.mem_cons_self)).sound
  cases reply with
  | error fault => cases fine
  | ok first =>
  rw [opening_ok] at replied
  dsimp only at replied
  cases came : Status.failed first.1 with
  | true =>
    rw [came, if_pos rfl] at replied
    have staging : (c.stageDisplacement first.2).displacementStaging.length =
        c.session.displacement.length := (length_overwrite _ _).trans sized.staging
    obtain ⟨mute, rfl, rfl⟩ := @runs_acceptStaged_mute _ (c.stageDisplacement first.2) _ _ _ staging
      replied
    rw [came, if_pos rfl, carried_cons, lossy_cons, mute.carried, mute.lossy]
    exact ⟨rfl, .first alone live first came, rfl⟩
  | false =>
  rw [came, if_neg (by decide)] at replied
  obtain ⟨reply, rest, rfl, ending⟩ := Program.runs_ask.1 replied
  have fine := (benign _ (within _ (List.mem_cons_of_mem _ List.mem_cons_self))).sound
  cases reply with
  | error fault => cases fine
  | ok second =>
  let e := (c.stageDisplacement first.2).stageVelocity second.2
  have staging : e.displacementStaging.length = e.session.displacement.length :=
    (length_overwrite _ _).trans sized.staging
  obtain ⟨mute, rfl, rfl⟩ := @runs_acceptStaged_mute _ e _ _ _ staging ending
  rw [carried_cons, carried_cons, lossy_cons, lossy_cons, mute.carried, mute.lossy]
  exact ⟨rfl, .both alone live first second came, rfl⟩

/-- The controller with a predicted displacement, unless the peer is gone. -/
def projected (c : Controller) : Controller :=
  if c.session.isTerminated then c
  else { c with
    session := { c.session with predictedDisplacement := Prediction.nextDisplacement c.session } }

theorem akin_projected (c : Controller) : c.Akin c.projected := by
  unfold projected
  split
  · exact Akin.refl c
  · refine ⟨⟨rfl, rfl, rfl, rfl, fun sound =>
      ⟨⟨{ sound.buffers with predictedDisplacement := ?_ }, sound.staging⟩,
        sound.velocity⟩⟩, rfl, rfl⟩
    exact Prediction.length_nextDisplacement sound.buffers

theorem runs_predictDisplacement {result : Except Fault Coefficients}
    (turn : c.phase = .subIterating) (sized : c.session.Sized)
    (run : predictDisplacement.Runs c log result d) :
    (∃ used, result = .ok used) ∧ Mute log ∧ d = c.projected := by
  unfold Act.Runs at run
  unfold projected
  rw [predictDisplacement_apply c turn] at run
  split at run
  · rename_i gone
    obtain ⟨rfl, h⟩ := Program.runs_done.1 run
    obtain ⟨rfl, rfl⟩ := Prod.mk.inj h
    rw [if_pos gone]
    exact ⟨⟨_, rfl⟩, Mute.nil, rfl⟩
  · rename_i live
    dsimp only at run
    rw [Prediction.displacement_eq sized, opening_ok] at run
    obtain ⟨rest, rfl, last⟩ := runs_noting.1 run
    obtain ⟨rfl, h⟩ := Program.runs_done.1 last
    obtain ⟨rfl, rfl⟩ := Prod.mk.inj h
    rw [List.append_nil, if_neg live]
    exact ⟨⟨_, rfl⟩, mute_notes _ _, rfl⟩

/-- The displacement is imposed, unless the peer is gone. -/
def imposition (c : Controller) : Log Coupling :=
  if c.session.isTerminated then []
  else [⟨.imposeDisplacement c.session c.session.predictedDisplacement, .ok ()⟩]

theorem runs_impose {result : Except Fault Unit}
    (run : (unlessTerminated imposeDisplacement).Runs c log result d)
    (benign : ∀ e ∈ log, Benign e) :
    result = .ok () ∧ carried log = c.imposition ∧ lossy log = false ∧ d = c := by
  unfold Act.Runs at run
  unfold imposition
  rw [unlessTerminated_apply] at run
  split at run
  · rename_i gone
    obtain ⟨rfl, h⟩ := Program.runs_done.1 run
    obtain ⟨rfl, rfl⟩ := Prod.mk.inj h
    rw [if_pos gone]
    exact ⟨rfl, rfl, rfl, rfl⟩
  · rename_i live
    obtain ⟨rfl, rfl⟩ := runs_imposeDisplacement run
    have fine := (benign _ List.mem_cons_self).imposed _ _ _ rfl
    rw [if_neg live, fine]
    exact ⟨rfl, rfl, rfl, rfl⟩

/-- The exchange of the flag once the own one is known.  In an orderly run the status that the group
heeds tells of a failed exchange. -/
theorem runs_flag {own : Bool} {result : Except Fault Bool}
    (run : (askPeerConvergence own >>= fun peer => sendConvergence own >>= agree own peer).Runs c
      log result d) (benign : ∀ e ∈ log, Benign e) :
    (∃ converged, result = .ok converged) ∧ carried log = [] ∧ ∃ peer bad,
      d = (if bad then (c.heard peer).lost else c.heard peer) ∧
      ((∀ e ∈ log, Orderly c.place.isRoot e) → bad = lossy log) := by
  unfold Act.Runs at run
  rw [askPeerConvergence_bind_apply] at run
  obtain ⟨reply, rest, rfl, answered⟩ := Program.runs_ask.1 run
  obtain ⟨peer, rfl⟩ := (benign _ List.mem_cons_self).asked _ _ _ rfl
  rw [opening_ok, sendConvergence_bind_apply] at answered
  have later : ∀ e ∈ rest, Benign e := fun e member => benign e (List.mem_cons_of_mem _ member)
  -- the status of the root goes to the group, and is heeded
  have sharing (status : Status) (tail : Log Coupling)
      (run : (agree own peer status).Runs (c.heard peer) tail result d)
      (benign : ∀ e ∈ tail, Benign e) :
      (∃ converged, result = .ok converged) ∧ carried tail = [] ∧ ∃ bad,
        d = (if bad then (c.heard peer).lost else c.heard peer) ∧
        ((∀ e ∈ tail, Orderly c.place.isRoot e) → bad = lossy tail ∧
          (c.place.isRoot = true → lossy tail = Status.failed status)) := by
    obtain ⟨reply, rest, rfl, shared⟩ := Program.runs_ask.1 run
    have here := benign _ List.mem_cons_self
    cases reply with
    | error fault => cases here.sound
    | ok values =>
      rcases Act.runs_bind.1 shared with ⟨heeding, _, e, _, rfl, heeded, last⟩ | ⟨fault, -, heeded⟩
      · obtain ⟨mute, -, rfl⟩ := runs_heed_mute heeded
        obtain ⟨rfl, rfl, rfl⟩ := Act.runs_pure.1 last
        rw [carried_cons, lossy_cons, List.append_nil, mute.carried, mute.lossy, Bool.or_false]
        refine ⟨⟨_, rfl⟩, rfl, _, rfl, fun orderly => ?_⟩
        have here := orderly _ List.mem_cons_self
        rw [reveals_pair here]
        refine ⟨rfl, fun onRoot => ?_⟩
        rw [(here.shared _ _ rfl).2.1 onRoot]
        rfl
      · cases (runs_heed_mute heeded).2.1
  split at answered
  · rename_i sends
    have onRoot : c.place.isRoot = true := (Bool.and_eq_true _ _ ▸ sends).2
    obtain ⟨status, tail, rfl, agreed⟩ := Program.runs_ask.1 answered
    obtain ⟨value, none, bad, after, told⟩ := sharing status tail agreed fun e member =>
      later e (List.mem_cons_of_mem _ member)
    refine ⟨value, ?_, peer, bad, after, fun orderly => ?_⟩
    · rw [carried_cons, carried_cons, none]
      rfl
    · obtain ⟨same, news⟩ := told fun e member =>
        orderly e (List.mem_cons_of_mem _ (List.mem_cons_of_mem _ member))
      rw [same, lossy_cons, lossy_cons, news onRoot]
      show Status.failed status = (!true || (!!Status.failed status || Status.failed status))
      cases Status.failed status <;> rfl
  · obtain ⟨value, none, bad, after, told⟩ := sharing Status.ok rest answered later
    refine ⟨value, ?_, peer, bad, after, fun orderly => ?_⟩
    · rw [carried_cons, none]
      rfl
    · rw [lossy_cons]
      exact (told fun e member => orderly e (List.mem_cons_of_mem _ member)).1

/-- What becomes of the flag. -/
inductive FlagExchanged (c : Controller) : Bool → Controller → Prop
  | kept (flag : Bool) (residual : Float) (peer : Bool) :
    FlagExchanged c false ((c.assessed flag residual).heard peer)
  | lost (flag : Bool) (residual : Float) (peer : Bool) :
    FlagExchanged c true ((c.assessed flag residual).heard peer).lost

theorem FlagExchanged.akin {bad : Bool} (h : FlagExchanged c bad d) : c.Akin d := by
  have same (flag : Bool) (residual : Float) (peer : Bool) :
      c.Akin ((c.assessed flag residual).heard peer) :=
    ⟨⟨rfl, rfl, rfl, rfl, fun sound => ⟨⟨{ sound.buffers with }, sound.staging⟩,
      sound.velocity⟩⟩, rfl, rfl⟩
  cases h with
  | kept flag residual peer => exact same flag residual peer
  | lost flag residual peer => exact (same flag residual peer).trans (akin_lost _)

theorem runs_exchangeConvergence {result : Except Fault Bool} (turn : c.phase = .subIterating)
    (sound : c.Sound) (fair : c.Assessable) (run : exchangeConvergence.Runs c log result d)
    (benign : ∀ e ∈ log, Benign e) :
    (∃ converged, result = .ok converged) ∧ carried log = [] ∧ ∃ bad, FlagExchanged c bad d ∧
      ((∀ e ∈ log, Orderly c.place.isRoot e) → bad = lossy log) := by
  have exchanged (flag : Bool) (residual : Float) (peer bad : Bool)
      (after : d = if bad then ((c.assessed flag residual).heard peer).lost
        else (c.assessed flag residual).heard peer) : FlagExchanged c bad d := by
    cases bad with
    | true => exact after ▸ .lost flag residual peer
    | false => exact after ▸ .kept flag residual peer
  unfold Act.Runs at run
  rw [exchangeConvergence_apply c turn, onEvaluation_evaluate_bind_apply] at run
  split at run
  · rename_i implicit
    have fine : Convergence.checkOperands c.session.displacement c.session.predictedDisplacement
        c.session.referenceLength = .ok () := by
      rw [Convergence.checkOperands_of_sized sound.buffers]
      unfold Fault.require
      rw [decide_eq_true (fair implicit)]
      rfl
    rw [fine, opening_ok] at run
    obtain ⟨reply, rest, rfl, summed⟩ := Program.runs_ask.1 run
    have here := benign _ List.mem_cons_self
    cases reply with
    | error fault => cases here.sound
    | ok sums =>
      let residual := Convergence.residualOf (sums.headD 0.0) (sums[1]?.getD 0.0)
        c.session.referenceLength
      let flag := decide (residual ≤ c.session.parameters.tolerance)
      obtain ⟨tail, flagged, same, losses, within⟩ := runs_noting_mute summed
      obtain ⟨value, none, peer, bad, after, told⟩ :=
        @runs_flag _ (c.assessed flag residual) _ _ _ flagged
          fun e member => benign e (List.mem_cons_of_mem _ (within e member))
      refine ⟨value, ?_, bad, exchanged flag residual peer bad after, fun orderly => ?_⟩
      · rw [carried_cons, same, none]
        rfl
      · rw [lossy_cons, losses]
        exact told fun e member => orderly e (List.mem_cons_of_mem _ (within e member))
  · obtain ⟨value, none, peer, bad, after, told⟩ :=
      @runs_flag _ (c.assessed true c.lastResidual) _ _ _ run benign
    exact ⟨value, none, bad, exchanged true c.lastResidual peer bad after, told⟩

/-- Without a positive length the residual cannot be computed. -/
theorem runs_exchangeConvergence_unfair {result : Except Fault Bool}
    (turn : c.phase = .subIterating) (sound : c.Sound) (unfair : ¬ c.Assessable) (run : exchangeConvergence.Runs c log result d) :
    log = [] ∧ (∃ fault, result = .error fault) ∧ d = c := by
  unfold Assessable at unfair
  rw [Classical.not_imp] at unfair
  obtain ⟨implicit, short⟩ := unfair
  unfold Act.Runs at run
  rw [exchangeConvergence_apply c turn, onEvaluation_evaluate_bind_apply, if_pos implicit,
    Convergence.checkOperands_of_sized sound.buffers] at run
  unfold Fault.require at run
  rw [decide_eq_false short] at run
  obtain ⟨rfl, h⟩ := Program.runs_done.1 run
  exact ⟨rfl, ⟨_, congrArg Prod.fst h⟩, congrArg Prod.snd h⟩

/-- The controller at the end of a sub-iteration. -/
def concluded (c : Controller) : Controller :=
  { c with
    session := (if c.session.isImplicit then c.session else c.session.savePrevious).nextSubIteration }

theorem akin_concluded (c : Controller) : c.Akin c.concluded := by
  unfold concluded
  split
  · exact ⟨⟨rfl, rfl, rfl, rfl, fun sound => ⟨⟨{ sound.buffers with }, sound.staging⟩,
      sound.velocity⟩⟩, rfl, rfl⟩
  · exact ⟨⟨rfl, rfl, rfl, rfl, fun sound =>
      ⟨⟨{ sound.buffers.savePrevious with }, sound.staging⟩, sound.velocity⟩⟩, rfl, rfl⟩

theorem runs_conclude {converged : Bool} {result : Except Fault Bool}
    (run : (conclude converged).Runs c log result d) :
    result = .ok (isDone c.concluded.session converged) ∧ log = [] ∧ d = c.concluded := by
  obtain ⟨rfl, h⟩ := Program.runs_done.1 run
  obtain ⟨rfl, rfl⟩ := Prod.mk.inj h
  exact ⟨rfl, rfl, rfl⟩

/-! ## Sub-iterations -/

/-- The controller with the forces that the solver has written. -/
def loaded (c : Controller) (values : List Float) : Controller :=
  { c with session := { c.session with force := overwrite c.session.force values } }

theorem akin_loaded (c : Controller) (values : List Float) : c.Akin (c.loaded values) :=
  ⟨⟨rfl, rfl, rfl, rfl, fun sound => ⟨⟨sound.buffers.overwriteForce values,
    sound.staging⟩, sound.velocity⟩⟩, rfl, rfl⟩

/-- A sub-iteration, stage by stage: the interface values that are carried, whether an exchange
fails, whether the sub-iteration is the last, and the controller afterwards. -/
inductive SubIterated (c : Controller) : Log Coupling → Bool → Bool → Controller → Prop
  | stages {reply : Except Fault Unit × List Float} {sent received : Log Coupling} {bad : Bool}
      {d e f : Controller} (forces : ForcesSent (c.loaded reply.2) sent d)
      (motion : MotionReceived d received e) (flag : FlagExchanged e.projected bad f)
      (converged : Bool) :
    SubIterated c
      (⟨.computeForces c.session c.run c.session.force, reply⟩ ::
        (sent ++ received ++ e.projected.imposition))
      (lossy sent || lossy received || bad) (isDone f.concluded.session converged) f.concluded

theorem SubIterated.akin {bad last : Bool} (h : SubIterated c log bad last d) : c.Akin d := by
  cases h with
  | stages forces motion flag =>
    exact (akin_loaded c _).trans <| forces.akin.trans <| motion.akin.trans <|
      (akin_projected _).trans <| flag.akin.trans (akin_concluded _)

/-- A part that cannot fault in a calm run passes on to the next one. -/
theorem runs_calm_bind {β : Type} {calm : Exchange Coupling → Prop}
    {act : Act Coupling Controller α} {f : α → Act Coupling Controller β} {result : Except Fault β}
    (run : (act >>= f).Runs c log result d) (all : ∀ e ∈ log, calm e)
    (fine : ∀ first outcome e, act.Runs c first outcome e → (∀ x ∈ first, calm x) →
      ∃ value, outcome = .ok value) :
    ∃ first value e second, log = first ++ second ∧ act.Runs c first (.ok value) e ∧
      (∀ x ∈ first, calm x) ∧ (f value).Runs e second result d ∧ ∀ x ∈ second, calm x := by
  rcases Act.runs_bind.1 run with ⟨first, value, e, second, rfl, h, k⟩ | ⟨fault, rfl, h⟩
  · exact ⟨first, value, e, second, rfl, h, fun x member =>
      all x (List.mem_append_left _ member), k, fun x member =>
      all x (List.mem_append_right _ member)⟩
  · obtain ⟨value, wrong⟩ := fine _ _ _ h all
    cases wrong

theorem runs_loaded {result : Except Fault Unit} (run : computeForces.Runs c log result d)
    (benign : ∀ e ∈ log, Benign e) :
    result = .ok () ∧ ∃ reply,
      log = [⟨.computeForces c.session c.run c.session.force, reply⟩] ∧ d = c.loaded reply.2 := by
  obtain ⟨reply, rfl, rfl, rfl⟩ := runs_computeForces run
  exact ⟨(benign _ List.mem_cons_self).computed _ _ _ _ rfl, reply, rfl, rfl⟩

/-- A sub-iteration up to the exchange of the flag. -/
def move : Act Coupling Controller Unit := do
  computeForces
  sendForces
  receiveDisplacement
  let _ ← predictDisplacement
  unlessTerminated imposeDisplacement

theorem subIterate_eq : subIterate = move >>= fun _ => exchangeConvergence >>= conclude := by
  unfold move
  simp only [bind_assoc]
  rfl

/-- The motion of a sub-iteration, stage by stage. -/
theorem runs_move {result : Except Fault Unit} (turn : c.phase = .subIterating) (sound : c.Sound)
    (run : move.Runs c log result d) (benign : ∀ e ∈ log, Benign e) :
    result = .ok () ∧ ∃ reply sent received e f,
      ForcesSent (c.loaded reply.2) sent e ∧ MotionReceived e received f ∧ d = f.projected ∧
      carried log = ⟨.computeForces c.session c.run c.session.force, reply⟩ ::
        (sent ++ received ++ f.projected.imposition) ∧
      lossy log = (lossy sent || lossy received) := by
  obtain ⟨_, _, c₁, _, rfl, computing, calm₁, onward₁, later₁⟩ := runs_calm_bind run benign
    fun _ _ _ h k => ⟨(), (runs_loaded h k).1⟩
  obtain ⟨-, reply, rfl, rfl⟩ := runs_loaded computing calm₁
  have turn₁ : (c.loaded reply.2).phase = .subIterating := turn
  have sound₁ := (akin_loaded c reply.2).sound sound
  obtain ⟨sent, _, c₂, _, rfl, sending, calm₂, onward₂, later₂⟩ := runs_calm_bind onward₁ later₁
    fun _ _ _ h k => ⟨(), (runs_sendForces turn₁ sound₁.buffers h k).1⟩
  obtain ⟨-, forces, bad₂⟩ := runs_sendForces turn₁ sound₁.buffers sending calm₂
  have turn₂ := forces.akin.phase.trans turn₁
  have sound₂ := forces.akin.sound sound₁
  obtain ⟨received, _, c₃, _, rfl, receiving, calm₃, onward₃, later₃⟩ :=
    runs_calm_bind onward₂ later₂
      fun _ _ _ h k => ⟨(), (runs_receiveDisplacement turn₂ sound₂.toSized h k).1⟩
  obtain ⟨-, motion, bad₃⟩ := runs_receiveDisplacement turn₂ sound₂.toSized receiving calm₃
  have turn₃ := motion.akin.phase.trans turn₂
  have sound₃ := motion.akin.sound sound₂
  obtain ⟨predicted, used, _, _, rfl, predicting, -, imposing, later₄⟩ :=
    runs_calm_bind onward₃ later₃
      fun _ _ _ h _ => (runs_predictDisplacement turn₃ sound₃.buffers h).1
  obtain ⟨-, mute, rfl⟩ := runs_predictDisplacement turn₃ sound₃.buffers predicting
  obtain ⟨rfl, gives, bad₅, rfl⟩ := runs_impose imposing later₄
  refine ⟨rfl, reply, carried sent, carried received, c₂, c₃, forces, motion, rfl, ?_, ?_⟩
  · rw [← List.singleton_append, carried_append]
    simp only [carried_append, mute.carried, gives, List.nil_append, List.append_assoc]
    rfl
  · rw [← List.singleton_append, lossy_append]
    simp only [lossy_append, mute.lossy, bad₅, Bool.or_false, bad₂, bad₃]
    rfl

/-- A sub-iteration up to the exchange of the flag, and from there. -/
theorem runs_subIterate_moving {result : Except Fault Bool} (turn : c.phase = .subIterating)
    (sound : c.Sound) (run : subIterate.Runs c log result d)
    (benign : ∀ e ∈ log, Benign e) :
    ∃ reply sent received e f first second, log = first ++ second ∧
      ForcesSent (c.loaded reply.2) sent e ∧ MotionReceived e received f ∧
      carried first = ⟨.computeForces c.session c.run c.session.force, reply⟩ ::
        (sent ++ received ++ f.projected.imposition) ∧
      lossy first = (lossy sent || lossy received) ∧
      (exchangeConvergence >>= conclude).Runs f.projected second result d := by
  rw [subIterate_eq] at run
  obtain ⟨first, _, _, second, rfl, moving, calm, onward, -⟩ := runs_calm_bind run benign
    fun _ _ _ h k => ⟨(), (runs_move turn sound h k).1⟩
  obtain ⟨-, reply, sent, received, e, f, forces, motion, rfl, values, losses⟩ :=
    runs_move turn sound moving calm
  exact ⟨reply, sent, received, e, f, first, second, rfl, forces, motion, values, losses, onward⟩

/-- A sub-iteration comes to its end.  In an orderly run it tells whether an exchange has failed. -/
theorem runs_subIterate_benign {result : Except Fault Bool} (turn : c.phase = .subIterating)
    (sound : c.Sound) (fair : c.Assessable) (run : subIterate.Runs c log result d)
    (benign : ∀ e ∈ log, Benign e) :
    ∃ last bad, result = .ok last ∧ SubIterated c (carried log) bad last d ∧
      ((∀ e ∈ log, Orderly c.place.isRoot e) → bad = lossy log) := by
  obtain ⟨reply, sent, received, e, f, first, second, rfl, forces, motion, values, losses, onward⟩ :=
    runs_subIterate_moving turn sound run benign
  have akin : c.Akin f.projected := (akin_loaded c _).trans <| forces.akin.trans <|
    motion.akin.trans (akin_projected f)
  have turn' := akin.phase.trans turn
  have sound' := akin.sound sound
  have fair' := akin.assessable.2 fair
  obtain ⟨flags, converged, g, _, rfl, exchanging, calm, concluding, -⟩ :=
    runs_calm_bind onward (fun e member => benign e (List.mem_append_right _ member))
      fun _ _ _ h k => (runs_exchangeConvergence turn' sound' fair' h k).1
  obtain ⟨-, none, bad, flag, told⟩ := runs_exchangeConvergence turn' sound' fair' exchanging calm
  obtain ⟨rfl, rfl, rfl⟩ := runs_conclude concluding
  rw [List.append_nil, carried_append, lossy_append, values, losses, none, List.append_nil]
  refine ⟨_, _, rfl, .stages forces motion flag converged, fun orderly => ?_⟩
  rw [told fun e member => by
    rw [show f.projected.place = c.place from akin.place]
    exact orderly e (List.mem_append_right _ member)]

theorem runs_subIterate {result : Except Fault Bool} (turn : c.phase = .subIterating)
    (sound : c.Sound) (fair : c.Assessable) (run : subIterate.Runs c log result d)
    (orderly : ∀ e ∈ log, Orderly c.place.isRoot e) :
    ∃ last, result = .ok last ∧ SubIterated c (carried log) (lossy log) last d := by
  obtain ⟨last, _, value, sub, told⟩ := runs_subIterate_benign turn sound fair run
    fun e member => (orderly e member).benign
  rw [told orderly] at sub
  exact ⟨last, value, sub⟩

/-- Without a positive length no sub-iteration of implicit coupling comes to its end.  Up to there
it exchanges what a last one would. -/
theorem runs_subIterate_unfair {result : Except Fault Bool} (turn : c.phase = .subIterating)
    (sound : c.Sound) (unfair : ¬ c.Assessable) (run : subIterate.Runs c log result d)
    (orderly : ∀ e ∈ log, Orderly root e) :
    (∃ fault, result = .error fault) ∧ c.Akin d ∧
      ∃ e, SubIterated c (carried log) (lossy log) true e := by
  obtain ⟨reply, sent, received, e, f, first, second, rfl, forces, motion, values, losses, onward⟩ :=
    runs_subIterate_moving turn sound run fun e member => (orderly e member).benign
  have akin : c.Akin f.projected := (akin_loaded c _).trans <| forces.akin.trans <|
    motion.akin.trans (akin_projected f)
  have never (log outcome g) (run : exchangeConvergence.Runs f.projected log outcome g) :=
    runs_exchangeConvergence_unfair (akin.phase.trans turn) (akin.sound sound)
      (fun fair => unfair (akin.assessable.1 fair)) run
  rcases Act.runs_bind.1 onward with ⟨_, _, _, _, -, exchanging, -⟩ | ⟨fault, rfl, exchanging⟩
  · obtain ⟨-, ⟨_, wrong⟩, -⟩ := never _ _ _ exchanging
    cases wrong
  · obtain ⟨rfl, -, rfl⟩ := never _ _ _ exchanging
    have whole := SubIterated.stages forces motion (.kept true 0.0 true) true
    rw [List.append_nil, values, losses, ← Bool.or_false (lossy sent || lossy received)]
    exact ⟨⟨fault, rfl⟩, akin, _, whole⟩

end Controller

end FluidStructure.Coupling
