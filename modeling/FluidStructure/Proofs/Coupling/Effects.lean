import FluidStructure.Proofs.Coupling.Stages
import FluidStructure.Proofs.Coupling.Transport

/-!
# Effects of the stages

What the runs of a stage have in common: the requests that it can make, and the part of
the state that it can change.
-/

namespace FluidStructure.Coupling

open FluidStructure.Channel FluidStructure.Journal

variable {σ α β : Type} {log : Log Coupling}

theorem runs_noting {condition : Bool} {notice : Notice} {p : Program Coupling α} {value : α} :
    (noting condition notice p).Runs log value ↔
      ∃ rest, log = (if condition then [⟨.note notice, ()⟩] else []) ++ rest ∧
        p.Runs rest value := by
  cases condition with
  | false => simp [noting]
  | true =>
    constructor
    · intro run
      obtain ⟨_, rest, rfl, onward⟩ := Program.runs_ask.1 run
      exact ⟨rest, rfl, onward⟩
    · rintro ⟨rest, rfl, onward⟩
      exact Program.runs_ask.2 ⟨(), rest, rfl, onward⟩

/-- Nothing but notices. -/
def Noted (log : Log Coupling) : Prop := ∀ e ∈ log, ∃ notice, e.request = .note notice

theorem Noted.local (h : Noted log) : Local log := by
  intro e member
  obtain ⟨notice, same⟩ := h e member
  rw [same]
  rfl

theorem noted_notes (condition : Bool) (notice : Notice) :
    Noted (if condition then [⟨.note notice, ()⟩] else []) := by
  cases condition with
  | false => exact List.forall_mem_nil _
  | true => exact List.forall_mem_singleton.2 ⟨notice, rfl⟩

theorem local_notes (condition : Bool) (notice : Notice) :
    Local (if condition then [⟨.note notice, ()⟩] else []) := (noted_notes condition notice).local

/-- A request whose reply may be a fault, and what follows on a value. -/
theorem runs_opening {s t : σ} {f : α → Program Coupling (Except Fault β × σ)}
    {outcome : Except Fault α} {result : Except Fault β} :
    (opening s f outcome).Runs log (result, t) ↔
      (∃ value, outcome = .ok value ∧ (f value).Runs log (result, t)) ∨
      ∃ fault, outcome = .error fault ∧ log = [] ∧ result = .error fault ∧ t = s := by
  cases outcome with
  | ok value => simp [opening]
  | error fault => simp [opening]

theorem runs_noteIf {condition : Bool} {notice : Notice} {s t : σ} {result : Except Fault Unit}
    (run : (noteIf condition notice : Act Coupling σ Unit).Runs s log result t) :
    Local log ∧ result = .ok () ∧ t = s := by
  unfold Act.Runs at run
  rw [noteIf_apply] at run
  obtain ⟨rest, rfl, last⟩ := runs_noting.1 run
  obtain ⟨rfl, h⟩ := Program.runs_done.1 last
  obtain ⟨rfl, rfl⟩ := Prod.mk.inj h
  rw [List.append_nil]
  exact ⟨local_notes _ _, rfl, rfl⟩

namespace Prediction

variable {s t : Session} {result : Except Fault Coefficients}

/-- Predicting the forces changes nothing but these. -/
theorem runs_predictForces (run : predictForces.Runs s log result t) :
    Noted log ∧ ∃ predicted, t = { s with predictedForce := predicted } := by
  unfold Act.Runs predictForces at run
  rw [Act.get_bind_apply, ofExcept_bind_apply] at run
  rcases runs_opening.1 run with ⟨after, h, onward⟩ | ⟨fault, -, rfl, -, rfl⟩
  · rw [Act.set_bind_apply, noteIf_bind_apply] at onward
    obtain ⟨rest, rfl, last⟩ := runs_noting.1 onward
    obtain ⟨rfl, rfl, rfl⟩ := Act.runs_pure.1 last
    rw [List.append_nil]
    refine ⟨noted_notes _ _, ?_⟩
    unfold forces Except.map at h
    split at h
    · cases h
    · injection h with h
      exact ⟨_, h.symm⟩
  · exact ⟨List.forall_mem_nil _, _, rfl⟩

/-- Predicting the displacement changes nothing but this. -/
theorem runs_predictDisplacement (run : predictDisplacement.Runs s log result t) :
    Noted log ∧ ∃ predicted, t = { s with predictedDisplacement := predicted } := by
  unfold Act.Runs predictDisplacement at run
  rw [Act.get_bind_apply, ofExcept_bind_apply] at run
  rcases runs_opening.1 run with ⟨after, h, onward⟩ | ⟨fault, -, rfl, -, rfl⟩
  · rw [Act.set_bind_apply, noteIf_bind_apply] at onward
    obtain ⟨rest, rfl, last⟩ := runs_noting.1 onward
    obtain ⟨rfl, rfl, rfl⟩ := Act.runs_pure.1 last
    rw [List.append_nil]
    refine ⟨noted_notes _ _, ?_⟩
    unfold displacement Except.map at h
    dsimp only at h
    split at h
    · cases h
    · injection h with h
      exact ⟨_, h.symm⟩
  · exact ⟨List.forall_mem_nil _, _, rfl⟩

end Prediction

namespace Convergence

variable {e f : Evaluated} {result : Except Fault Bool}

/-- An evaluation changes nothing but the own flag and the residual. -/
theorem runs_evaluate {place : Parallel.Place} (run : (evaluate place).Runs e log result f) :
    Local log ∧ ∃ flag residual,
      f = ⟨{ e.session with localConvergence := flag }, residual⟩ := by
  unfold Act.Runs at run
  rw [evaluate_apply] at run
  split at run
  · rcases runs_opening.1 run with ⟨_, -, asking⟩ | ⟨fault, -, rfl, -, rfl⟩
    · obtain ⟨reply, rest, rfl, onward⟩ := Program.runs_ask.1 asking
      rcases runs_opening.1 onward with ⟨sums, -, noted⟩ | ⟨fault, -, rfl, -, rfl⟩
      · obtain ⟨rest, rfl, last⟩ := runs_noting.1 noted
        obtain ⟨rfl, h⟩ := Program.runs_done.1 last
        obtain ⟨-, rfl⟩ := Prod.mk.inj h
        rw [List.append_nil]
        exact ⟨(local_notes _ _).cons rfl, _, _, rfl⟩
      · exact ⟨Local.nil.cons rfl, _, _, rfl⟩
    · exact ⟨Local.nil, _, _, rfl⟩
  · obtain ⟨rfl, h⟩ := Program.runs_done.1 run
    obtain ⟨-, rfl⟩ := Prod.mk.inj h
    exact ⟨Local.nil, _, _, rfl⟩

end Convergence

namespace TimeStep

/-- A rank proposes the next iteration.  Only the coordinating rank may propose the mark of a failed
exchange instead. -/
theorem runs_proposal {place : Parallel.Place} {s : Session} {own : Float}
    {proposed : Int32 × Float} (run : (proposal place s own).Runs log proposed) :
    proposed.1 = s.iteration + 1 ∨ place.isRoot = true ∧ proposed.1 = -1 := by
  unfold proposal at run
  split at run
  · rename_i exchanges
    obtain ⟨_, chosen, _, -, -, last⟩ := Program.runs_bind.1 run
    cases chosen with
    | some dt =>
      obtain ⟨-, rfl⟩ := Program.runs_done.1 last
      exact .inl rfl
    | none =>
      obtain ⟨_, _, -, last⟩ := Program.runs_ask.1 last
      obtain ⟨-, rfl⟩ := Program.runs_done.1 last
      exact .inr ⟨(Bool.and_eq_true_iff.1 exchanges).2, rfl⟩
  · obtain ⟨-, rfl⟩ := Program.runs_done.1 run
    exact .inl rfl

/-- How a group settles what the coordinating rank proposes: one of the two broadcasts faults, or the
step and the iteration are entered. -/
inductive Settlement (wanted : Bool) (proposed : Int32 × Float) (t : Schedule) :
    Log Coupling → Except Fault Float → Schedule → Prop
  | unshared (fault : Fault) :
    Settlement wanted proposed t [⟨.broadcastReals [proposed.2], .error fault⟩] (.error fault) t
  | unagreed (dts : List Float) (fault : Fault) :
    Settlement wanted proposed t
      [⟨.broadcastReals [proposed.2], .ok dts⟩, ⟨.broadcastInts [proposed.1], .error fault⟩]
      (.error fault) t
  | agreed (dts : List Float) (iterations : List Int32) :
    Settlement wanted proposed t
      (⟨.broadcastReals [proposed.2], .ok dts⟩ :: ⟨.broadcastInts [proposed.1], .ok iterations⟩ ::
        if wanted && !(iterations.headD proposed.1 < 0) then
          [⟨.note (.stepNegotiated (iterations.headD proposed.1) (dts.headD proposed.2)), ()⟩]
        else [])
      (.ok (dts.headD proposed.2)) (t.agree (iterations.headD proposed.1) (dts.headD proposed.2))

theorem runs_settlement {wanted : Bool} {proposed : Int32 × Float} {t u : Schedule}
    {result : Except Fault Float}
    (run : (settle wanted proposed).Runs t log result u) :
    Settlement wanted proposed t log result u := by
  unfold Act.Runs settle at run
  obtain ⟨_, rest, rfl, sharing⟩ := Program.runs_ask.1 run
  rcases runs_opening.1 sharing with ⟨dts, rfl, asking⟩ | ⟨fault, rfl, rfl, rfl, rfl⟩
  case inr => exact .unshared fault
  obtain ⟨_, rest, rfl, agreeing⟩ := Program.runs_ask.1 asking
  rcases runs_opening.1 agreeing with ⟨iterations, rfl, noted⟩ | ⟨fault, rfl, rfl, rfl, rfl⟩
  case inr => exact .unagreed dts fault
  obtain ⟨tail, rfl, ends⟩ := runs_noting.1 noted
  obtain ⟨rfl, same⟩ := Program.runs_done.1 ends
  obtain ⟨rfl, rfl⟩ := Prod.mk.inj same
  rw [List.append_nil]
  exact .agreed dts iterations

/-- The group agrees on what is broadcast, or a broadcast faults and nothing changes. -/
theorem runs_settle {wanted : Bool} {proposed : Int32 × Float} {t u : Schedule}
    {result : Except Fault Float} (run : (settle wanted proposed).Runs t log result u) :
    Local log ∧ ((u = t ∧ ∃ fault, result = .error fault) ∨
      ∃ (dts : List Float) (iterations : List Int32),
        ⟨.broadcastInts [proposed.1], .ok iterations⟩ ∈ log ∧
        result = .ok (dts.headD proposed.2) ∧
        u = t.agree (iterations.headD proposed.1) (dts.headD proposed.2)) := by
  cases runs_settlement run with
  | unshared fault => exact ⟨Local.nil.cons rfl, .inl ⟨rfl, fault, rfl⟩⟩
  | unagreed dts fault => exact ⟨(Local.nil.cons rfl).cons rfl, .inl ⟨rfl, fault, rfl⟩⟩
  | agreed dts iterations =>
    exact ⟨((local_notes _ _).cons rfl).cons rfl,
      .inr ⟨dts, iterations, List.mem_cons_of_mem _ List.mem_cons_self, rfl, rfl⟩⟩

end TimeStep

namespace Controller

variable {c d : Controller}

/-- Outside its phase an operation asks nothing and changes nothing. -/
theorem refused {α : Type} {expected : Phase} {operation : String}
    {f : Unit → Act Coupling Controller α} {result : Except Fault α} (h : c.phase ≠ expected)
    (run : (requirePhase expected operation >>= f).Runs c log result d) :
    log = [] ∧ d = c ∧ result = .error (.wrongPhase operation c.phase expected) := by
  unfold Act.Runs at run
  rw [requirePhase_bind_apply, if_neg h] at run
  obtain ⟨rfl, h⟩ := Program.runs_done.1 run
  obtain ⟨rfl, rfl⟩ := Prod.mk.inj h
  exact ⟨rfl, rfl, rfl⟩

theorem runs_disconnect {during : String} {result : Except Fault Unit}
    (run : (disconnect during).Runs c log result d) :
    Local log ∧ result = .ok () ∧ d = c.lost := by
  unfold Act.Runs at run
  rw [disconnect_apply] at run
  obtain ⟨rest, rfl, last⟩ := runs_noting.1 run
  obtain ⟨rfl, h⟩ := Program.runs_done.1 last
  obtain ⟨rfl, rfl⟩ := Prod.mk.inj h
  rw [List.append_nil]
  exact ⟨local_notes _ _, rfl, rfl⟩

theorem runs_heed {status : Status} {during : String} {result : Except Fault Unit}
    (run : (heed status during).Runs c log result d) :
    Local log ∧ result = .ok () ∧ d = if Status.failed status then c.lost else c := by
  unfold heed at run
  split at run
  · rename_i failed
    rw [if_pos failed]
    exact runs_disconnect run
  · rename_i failed
    obtain ⟨rfl, rfl, rfl⟩ := Act.runs_pure.1 run
    rw [if_neg failed]
    exact ⟨Local.nil, rfl, rfl⟩

/-- What has come is taken, unless the exchange has failed or the sizes differ. -/
theorem runs_acceptStaged {status : Status} {result : Except Fault Unit}
    (run : (acceptStaged status).Runs c log result d) :
    Local log ∧ if Status.failed status then result = .ok () ∧ d = c.lost
      else (∃ fault, result = .error fault ∧ d = c) ∨ result = .ok () ∧ d = c.taken := by
  unfold Act.Runs at run
  rw [acceptStaged_apply] at run
  split at run
  · rename_i failed
    rw [if_pos failed]
    exact runs_disconnect run
  · rename_i failed
    rw [if_neg failed]
    rcases runs_opening.1 run with ⟨_, -, last⟩ | ⟨fault, -, rfl, rfl, rfl⟩
    · obtain ⟨rfl, h⟩ := Program.runs_done.1 last
      obtain ⟨rfl, rfl⟩ := Prod.mk.inj h
      exact ⟨Local.nil, .inr ⟨rfl, rfl⟩⟩
    · exact ⟨Local.nil, .inl ⟨fault, rfl, rfl⟩⟩

/-- The solver writes the forces, whether it faults or not. -/
theorem runs_computeForces {result : Except Fault Unit}
    (run : computeForces.Runs c log result d) :
    ∃ reply, log = [⟨.computeForces c.session c.run c.session.force, reply⟩] ∧
      result = reply.1 ∧
      d = { c with session := { c.session with force := overwrite c.session.force reply.2 } } := by
  unfold Act.Runs at run
  rw [computeForces_apply] at run
  obtain ⟨reply, rest, rfl, onward⟩ := Program.runs_ask.1 run
  rcases runs_opening.1 onward with ⟨_, value, last⟩ | ⟨fault, failure, rfl, rfl, rfl⟩
  · obtain ⟨rfl, h⟩ := Program.runs_done.1 last
    obtain ⟨rfl, rfl⟩ := Prod.mk.inj h
    exact ⟨reply, rfl, value.symm, rfl⟩
  · exact ⟨reply, rfl, failure.symm, rfl⟩

theorem runs_imposeDisplacement {result : Except Fault Unit}
    (run : imposeDisplacement.Runs c log result d) :
    log = [⟨.imposeDisplacement c.session c.session.predictedDisplacement, result⟩] ∧
      d = c := by
  unfold Act.Runs at run
  rw [imposeDisplacement_apply] at run
  obtain ⟨reply, rest, rfl, onward⟩ := Program.runs_ask.1 run
  rcases runs_opening.1 onward with ⟨_, rfl, last⟩ | ⟨fault, rfl, rfl, rfl, rfl⟩
  · obtain ⟨rfl, h⟩ := Program.runs_done.1 last
    obtain ⟨rfl, rfl⟩ := Prod.mk.inj h
    exact ⟨rfl, rfl⟩
  · exact ⟨rfl, rfl⟩

/-- The last call of a run, which rank 0 makes to a peer that is still there. -/
def goodbye (c : Controller) : Log Coupling :=
  if c.phase ≠ .uninitialized ∧ c.session.isConnected ∧ c.place.isRoot then
    [⟨.close c.session.peer.root, ()⟩]
  else []

/-- The controller with a released session. -/
def shut (c : Controller) : Controller := { c with session := c.session.release, phase := .closed }

theorem runs_takeLeave {result : Except Fault Unit} (run : takeLeave.Runs c log result d) :
    result = .ok () ∧ log = c.goodbye ∧ d = c := by
  unfold takeLeave closeChannel Act.Runs at run
  unfold goodbye
  rw [Act.get_bind_apply] at run
  split at run
  · rename_i leaves
    obtain ⟨_, rfl, rfl, rfl⟩ := Act.runs_perform.1 run
    rw [if_pos leaves]
    exact ⟨rfl, rfl, rfl⟩
  · rename_i stays
    obtain ⟨rfl, rfl, rfl⟩ := Act.runs_pure.1 run
    rw [if_neg stays]
    exact ⟨rfl, rfl, rfl⟩

/-- The end cannot fault.  A second end does nothing. -/
theorem runs_finish {result : Except Fault Unit} (run : finish.Runs c log result d) :
    result = .ok () ∧ (c.phase = .closed → log = [] ∧ d = c) ∧
      (c.phase ≠ .closed → (∃ notes, Local notes ∧ log = c.goodbye ++ notes) ∧ d = c.shut) := by
  unfold finish Act.Runs at run
  rw [Act.get_bind_apply] at run
  split at run
  · rename_i closed
    obtain ⟨rfl, rfl, rfl⟩ := Act.runs_pure.1 run
    exact ⟨rfl, fun _ => ⟨rfl, rfl⟩, fun still => absurd closed still⟩
  · rename_i still
    rcases Act.runs_bind.1 run with ⟨first, _, e, rest, rfl, leaving, ending⟩ | ⟨_, -, leaving⟩
    · obtain ⟨-, rfl, rfl⟩ := runs_takeLeave leaving
      unfold modifySession setPhase Act.Runs at ending
      rw [Act.modify_bind_apply, Act.modify_bind_apply] at ending
      obtain ⟨notes, rfl, rfl⟩ := runs_noteIf ending
      exact ⟨rfl, fun closed => absurd closed still, fun _ => ⟨⟨rest, notes, rfl⟩, rfl⟩⟩
    · cases (runs_takeLeave leaving).1

theorem runs_predictForces {result : Except Fault Coefficients}
    (run : (onSession Prediction.predictForces).Runs c log result d) :
    Noted log ∧ ∃ predicted,
      d = { c with session := { c.session with predictedForce := predicted } } := by
  obtain ⟨s, h, rfl⟩ := Act.runs_zoom.1 run
  obtain ⟨silent, predicted, rfl⟩ := Prediction.runs_predictForces h
  exact ⟨silent, predicted, rfl⟩

theorem runs_predictMotion {result : Except Fault Coefficients}
    (run : (onSession Prediction.predictDisplacement).Runs c log result d) :
    Noted log ∧ ∃ predicted,
      d = { c with session := { c.session with predictedDisplacement := predicted } } := by
  obtain ⟨s, h, rfl⟩ := Act.runs_zoom.1 run
  obtain ⟨silent, predicted, rfl⟩ := Prediction.runs_predictDisplacement h
  exact ⟨silent, predicted, rfl⟩

theorem runs_evaluate {place : Parallel.Place} {result : Except Fault Bool}
    (run : (onEvaluation (Convergence.evaluate place)).Runs c log result d) :
    Local log ∧ ∃ flag residual,
      d = { c with
        session := { c.session with localConvergence := flag }, lastResidual := residual } := by
  obtain ⟨e, h, rfl⟩ := Act.runs_zoom.1 run
  obtain ⟨asked, flag, residual, rfl⟩ := Convergence.runs_evaluate h
  exact ⟨asked, flag, residual, rfl⟩

end Controller

end FluidStructure.Coupling

/-! ## Relations along the parts of the controller

A relation that passes along sequences is kept by a part if it is kept by the exchanges and the
changes of that part. -/

namespace FluidStructure.Act

open Coupling Coupling.Controller Channel Journal

variable {R : Controller → Log Coupling → Controller → Prop}

theorem Transitive.requirePhase (along : Transitive R) (expected : Phase) (operation : String) :
    (Controller.requirePhase expected operation).Keeps R := by
  refine along.bind along.get fun c => ?_
  dsimp only
  split
  · exact along.pure _
  · exact along.fail _

theorem Transitive.noteIf (along : Transitive R)
    (notes : ∀ notice, (perform (I := Coupling) (.note notice)).Keeps R) (condition : Bool)
    (notice : Notice) : (Coupling.noteIf condition notice).Keeps R := by
  unfold Coupling.noteIf
  split
  · exact notes _
  · exact along.pure _

theorem Transitive.unlessTerminated (along : Transitive R) {act : Act Coupling Controller Unit}
    (h : act.Keeps R) : (Controller.unlessTerminated act).Keeps R := by
  refine along.bind along.get fun c => ?_
  split
  · exact along.pure _
  · exact h

theorem Transitive.onRoot (along : Transitive R) {exchange : Act Coupling Controller Status}
    (h : exchange.Keeps R) : (Controller.onRoot exchange).Keeps R := by
  refine along.bind along.get fun c => ?_
  split
  · exact h
  · exact along.pure _

theorem Transitive.disconnect (along : Transitive R)
    (notes : ∀ notice, (perform (I := Coupling) (.note notice)).Keeps R)
    (leaves : ∀ c : Controller,
      R c [] { c with session := c.session.terminate, run := c.run.windDown })
    (during : String) : (Controller.disconnect during).Keeps R :=
  along.unlessTerminated <| along.bind (keeps_modify leaves) fun _ => along.bind along.get fun _ =>
    along.noteIf notes _ _

theorem Transitive.heed (along : Transitive R) {during : String}
    (lost : (Controller.disconnect during).Keeps R) (status : Status) :
    (Controller.heed status during).Keeps R := by
  unfold Controller.heed
  split
  · exact lost
  · exact along.pure ()

theorem Transitive.sendInTurn (along : Transitive R) (first : Act Coupling Controller Status)
    (later : List (Act Coupling Controller Status)) (h : ∀ act ∈ first :: later, act.Keeps R) :
    (Controller.sendInTurn first later).Keeps R := by
  induction later generalizing first with
  | nil => exact h first List.mem_cons_self
  | cons second later ih =>
    refine along.bind (h first List.mem_cons_self) fun status => ?_
    split
    · exact along.pure _
    · exact ih second fun act member => h act (List.mem_cons_of_mem _ member)

theorem Transitive.announce (along : Transitive R)
    (notes : ∀ notice, (perform (I := Coupling) (.note notice)).Keeps R)
    (ints : ∀ peer iteration name values,
      (perform (I := Coupling) (.sendInts peer iteration name values)).Keeps R)
    (reals : ∀ peer iteration name values,
      (perform (I := Coupling) (.sendReals peer iteration name values)).Keeps R)
    (shared : ∀ own, (perform (I := Coupling) (.broadcastInts own)).Keeps R)
    (lost : (Controller.disconnect "parameter exchange").Keeps R) :
    Controller.announce.Keeps R := by
  refine along.bind along.get fun c => ?_
  split
  · exact along.noteIf notes _ _
  · refine along.bind (along.onRoot ?_) fun own => along.bind ?_ fun _ => along.heed lost _
    · refine along.bind (along.noteIf notes _ _) fun _ => along.sendInTurn _ _ fun act member => ?_
      simp only [List.mem_cons, List.not_mem_nil, or_false] at member
      rcases member with rfl | rfl | rfl | rfl | rfl
      · exact ints _ _ _ _
      · exact ints _ _ _ _
      · exact reals _ _ _ _
      · exact reals _ _ _ _
      · exact reals _ _ _ _
    · exact along.bind (shared _) fun _ => along.bind (along.ofExcept _) fun _ => along.pure _

theorem Transitive.begin (along : Transitive R) (sized : Controller.sizeStaging.Keeps R)
    (announced : Controller.announce.Keeps R) (entered : (setPhase .active).Keeps R) :
    Controller.begin.Keeps R := by
  refine along.bind (along.requirePhase _ _) fun _ => along.bind along.get fun c => ?_
  split
  · exact along.fail _
  · exact along.bind sized fun _ => along.bind announced fun _ => entered

theorem Transitive.receiveStaged (along : Transitive R) {peer : Int32}
    (received : ∀ name buffer, (perform (I := Coupling) (.receiveField peer name buffer)).Keeps R)
    (displacement : ∀ (c : Controller) values, R c [] { c with displacementStaging := values })
    (velocity : ∀ (c : Controller) values, R c [] { c with velocityStaging := values }) :
    (Controller.receiveStaged peer).Keeps R := by
  have field name buffer :
      (Coupling.receiveField peer name buffer : Act Coupling Controller _).Keeps R :=
    along.bind (received name buffer) fun _ => along.bind (along.ofExcept _) fun _ => along.pure _
  refine along.bind along.get fun _ => along.bind (field _ _) fun _ =>
    along.bind (keeps_modify fun _ => displacement _ _) fun _ => ?_
  split
  · exact along.pure _
  · exact along.bind along.get fun _ => along.bind (field _ _) fun _ =>
      along.bind (keeps_modify fun _ => velocity _ _) fun _ => along.pure _

theorem Transitive.predictDisplacementOnto (along : Transitive R)
    (h : Controller.predictDisplacement.Keeps R) (parent : List Float) :
    (Controller.predictDisplacementOnto parent).Keeps R := by
  refine along.bind along.get fun _ => along.bind h fun _ => along.bind along.get fun c => ?_
  dsimp only
  split
  · exact along.pure _
  · split
    · exact along.pure _
    · exact along.pure _

theorem Transitive.computeForces (along : Transitive R)
    (asked : ∀ session run buffer,
      (perform (I := Coupling) (.computeForces session run buffer)).Keeps R)
    (written : ∀ values,
      (modifySession fun s => { s with force := overwrite s.force values }).Keeps R) :
    Controller.computeForces.Keeps R :=
  along.bind along.get fun _ => along.bind (asked _ _ _) fun _ => along.bind (written _) fun _ =>
    along.ofExcept _

theorem Transitive.imposeDisplacement (along : Transitive R)
    (asked : ∀ session values,
      (perform (I := Coupling) (.imposeDisplacement session values)).Keeps R) :
    Controller.imposeDisplacement.Keeps R :=
  along.bind along.get fun _ => along.bind (asked _ _) fun _ => along.ofExcept _

/-- The sub-iterations keep what each of their stages keeps. -/
theorem Transitive.subIterateAtMost (along : Transitive R)
    (h : Controller.subIterate.Keeps R) (n : Nat) : (Controller.subIterateAtMost n).Keeps R := by
  induction n with
  | zero => exact along.pure ()
  | succ n ih =>
    refine along.bind h fun last => ?_
    cases last with
    | true => exact along.pure ()
    | false => exact ih

end FluidStructure.Act
