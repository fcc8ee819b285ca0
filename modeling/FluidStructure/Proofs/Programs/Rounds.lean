import FluidStructure.Proofs.Programs.Meetings

/-!
# Sub-iterations and steps of both programs

The stages make up a sub-iteration, the sub-iterations a time step.  Both programs count
sub-iterations on their own; they stop at the same one because both know the flag and the cap.
-/

namespace FluidStructure.Programs

open FluidStructure.Channel FluidStructure.Coupling FluidStructure.Journal FluidStructure.Parallel
open Network (Meets Roots Traffic Ahead)

/-- The structure program is set up for this launch. -/
structure Facing (r : Roots) (e : Terms) (ranks : Nat) (l : Structure.Layout) : Prop where
  fluid : l.fluid = r.fluid
  faces : l.faces = ranks * e.surface.faceCount
  vertices : l.vertices = ranks * e.surface.vertexCount

theorem length_uniformField (vertices : Nat) (value : Float) :
    (Structure.uniformField vertices value).length = 3 * vertices := by
  unfold Structure.uniformField
  rw [List.length_flatten, List.map_replicate, List.sum_replicate]
  simp [Nat.mul_comm]

/-- Most sub-iterations of a step. -/
def Terms.cap (e : Terms) : Int32 :=
  if 1 < e.parameters.maxSubIterations then e.parameters.maxSubIterations else 1

theorem ite_failed {δ : Type} {size : Nat} (h : size < 2 ^ 31) (yes no : δ) :
    (if Status.failed (Int32.ofNat size) then yes else no) = no := by
  rw [failed_ofNat h, if_neg Bool.false_ne_true]

/-- The controller at the end of a sub-iteration. -/
def ended (c : Controller) : Controller :=
  { c with
    session :=
      (if c.session.isImplicit then c.session else c.session.savePrevious).nextSubIteration }

theorem At.ended {e : Terms} {place : Place} {w : Point} {c : Controller} (h : At e place w c) :
    At e place { w with subIteration := w.subIteration + 1 } (ended c) := by
  have counted : (c.session.nextSubIteration).subIteration = w.subIteration + 1 :=
    congrArg (· + 1) h.subIteration
  unfold Programs.ended
  cases c.session.isImplicit with
  | true => exact { h with subIteration := counted, buffers := { h.buffers with } }
  | false =>
    exact { h with
      subIteration := counted
      buffers := { h.buffers.savePrevious with } }

theorem At.isDone {e : Terms} {place : Place} {w : Point} {c : Controller} (h : At e place w c)
    (live : ¬ w.iteration < 0) (converged : Bool) :
    Controller.isDone c.session converged = (converged || decide (e.cap ≤ w.subIteration)) := by
  unfold Controller.isDone
  rw [h.live live, h.subIteration, Bool.or_false]
  unfold Controller.cap
  rw [h.parameters]
  rfl

namespace Structure

/-- What follows on the answer to a sub-iteration. -/
def resuming (l : Layout) (o : Oscillator) (step : Int32) (dt : Float) (fuel : Nat) (m : Motion)
    (forces : List Float) : Answered → Act Parallel MessageChannel ((Motion × List Float × Bool) × Nat)
  | .again => do
    let (result, later) ← subIterateRecorded l o step dt fuel m forces
    return (result, later + 1)
  | .converged => return ((m, forces, true), 1)
  | .lost => return ((m, forces, false), 1)

theorem subIterateRecorded_succ (l : Layout) (o : Oscillator) (step : Int32) (dt : Float)
    (fuel : Nat) (m : Motion) (forces : List Float) :
    subIterateRecorded l o step dt (fuel + 1) m forces =
      MessageChannel.receiveField l.fluid Variable.fluidForces forces >>= fun received =>
        if Status.failed received.1 then pure ((m, received.2, false), 0)
        else
          answerMotion l step (o.trial (resultant received.2) dt) >>=
            resuming l o step dt fuel (o.trial (resultant received.2) dt) received.2 := by
  refine congrArg (_ >>= ·) ?_
  funext ⟨status, received⟩
  refine congrArg (ite _ _) (congrArg (_ >>= ·) ?_)
  funext answered
  cases answered <;> rfl

variable {γ : Type}

/-- What follows on displacement and velocity. -/
def hearing (l : Layout) (step : Int32) (f : Answered → Act Parallel MessageChannel γ) :
    Act Parallel MessageChannel γ :=
  Act.lift (MessageChannel.receiveInt l.fluid step Variable.convergence 0) >>= fun received =>
    f (if Status.failed received.1 then .lost else if received.2 = 1 then .converged else .again)

/-- What follows on the displacement. -/
def showing (l : Layout) (step : Int32) (m : Motion) (f : Answered → Act Parallel MessageChannel γ) :
    Act Parallel MessageChannel γ :=
  MessageChannel.sendField l.fluid Variable.meshVelocity (uniformField l.vertices m.v) >>= fun sent =>
    if Status.failed sent then f .lost else hearing l step f

theorem answerMotion_bind (l : Layout) (step : Int32) (m : Motion)
    (f : Answered → Act Parallel MessageChannel γ) :
    answerMotion l step m >>= f =
      MessageChannel.sendField l.fluid Variable.meshDisplacement (uniformField l.vertices m.x) >>=
        fun sent => if Status.failed sent then f .lost else showing l step m f := by
  unfold answerMotion showing hearing
  rw [bind_assoc]
  refine congrArg (_ >>= ·) ?_
  funext sent
  split
  · rfl
  · rw [bind_assoc]
    refine congrArg (_ >>= ·) ?_
    funext sent
    split
    · rfl
    · rw [bind_assoc]
      rfl

end Structure

section Rounds

variable {φ : Type} [FluidSolver φ] {n : Nat} {r : Roots} {e : Terms}
  {place : Fin (n + 1) → Place} {sound : φ → Prop} {w : Point} {α β γ : Type}
  {Q : (Fin (n + 1) → α) → β → Traffic n → Prop} {x : Fin (n + 1) → Rank φ}
  {d : MessageChannel} {l : Structure.Layout} {o : Oscillator} {dt : Float} {motion : Motion}
  {forces : List Float}

/-- One sub-iteration of both programs. -/
theorem meets_subIterate (launch : Launch r e place sound) (facing : Facing r e (n + 1) l)
    {F : Fin (n + 1) → (Except Fault Bool × Controller) × Setting φ → Program Parallel α}
    {g : Except Fault ((Motion × List Float × Bool) × Nat) × MessageChannel → Program Parallel β}
    (h : ∀ i, (x i).Stands e (place i) sound w) (turn : w.phase = .subIterating)
    (live : ¬ w.iteration < 0) (single : d.isLocalRoot = true)
    (size : forces.length = (n + 1) * (3 * e.surface.faceCount)) (fuel : Nat)
    (on : ∀ (x' : Fin (n + 1) → Rank φ) (d' : MessageChannel) (forces' : List Float)
      (motion' : Motion) (converged : Bool),
      (∀ i, (x' i).Stands e (place i) sound { w with subIteration := w.subIteration + 1 }) →
      d'.place = d.place → forces'.length = forces.length →
      Meets r Q
        (fun i => F i ((x' i).gives (place i)
          (converged || decide (e.cap ≤ w.subIteration + 1))))
        ((Structure.resuming l o w.iteration dt fuel motion' forces'
          (if converged then .converged else .again) d').bind g) .empty .empty) :
    Meets r Q (fun i => ((x i).does (place i) Controller.subIterate).bind (F i))
      ((Structure.subIterateRecorded l o w.iteration dt (fuel + 1) motion forces d).bind g)
      .empty .empty := by
  refine Meets.of_eq (fun i => Rank.does_bind _ _ _ _ _) ?_
  refine meets_computeForces launch h fun x₁ h₁ => ?_
  refine Meets.of_eq (fun i => Rank.does_bind (x₁ i) (place i) Controller.sendForces _ _) ?_
  -- the structure receives the forces
  let m (forces : List Float) : Motion := o.trial (Structure.resultant forces) dt
  let resume forces := Structure.resuming l o w.iteration dt fuel (m forces) forces
  rw [Structure.subIterateRecorded_succ, act_bind, facing.fluid]
  refine meets_sendForces launch h₁ turn live single size rfl
    fun x₂ d₂ forces₂ h₂ place₂ size₂ => ?_
  have most := launch.vertices
  have long value : (Structure.uniformField l.vertices value).length =
      (n + 1) * (3 * e.surface.vertexCount) := by
    rw [length_uniformField, facing.vertices, Nat.mul_left_comm]
  -- it answers with displacement and velocity
  have answers : follows (fun received => if Status.failed received.1 then
        pure ((motion, received.2, false), 0)
      else Structure.answerMotion l w.iteration (m received.2) >>= resume received.2) g
        (.ok (Int32.ofNat forces.length, forces₂), d₂) =
      (MessageChannel.sendField r.fluid Variable.meshDisplacement
        (Structure.uniformField l.vertices (m forces₂).x) d₂).bind
          (follows (fun sent => if Status.failed sent then resume forces₂ .lost
            else Structure.showing l w.iteration (m forces₂) (resume forces₂)) g) := by
    rw [← act_bind, ← facing.fluid, ← Structure.answerMotion_bind]
    exact congrArg (Program.bind · g) (congrFun (ite_failed (size ▸ launch.faces) _ _) d₂)
  have shows d' (_ : d'.place = d₂.place) :
      follows (fun sent => if Status.failed sent then resume forces₂ .lost
        else Structure.showing l w.iteration (m forces₂) (resume forces₂)) g
        (.ok (Int32.ofNat (Structure.uniformField l.vertices (m forces₂).x).length), d') =
      (MessageChannel.sendField r.fluid Variable.meshVelocity
        (Structure.uniformField l.vertices (m forces₂).v) d').bind
          (follows (fun sent => if Status.failed sent then resume forces₂ .lost
            else Structure.hearing l w.iteration (resume forces₂)) g) := by
    rw [← act_bind, ← facing.fluid]
    exact congrArg (Program.bind · g) (congrFun (ite_failed (long (m forces₂).x ▸ most) _ _) d')
  refine Meets.of_eq (fun i => Rank.does_bind (x₂ i) (place i) Controller.receiveDisplacement _ _) ?_
  refine meets_receiveDisplacement launch h₂ turn live (single_of_place place₂ single)
    (long (m forces₂).x) (long (m forces₂).v) answers shows fun x₃ d₃ h₃ place₃ => ?_
  -- the ranks work on, while the structure waits for the flag
  refine Meets.of_eq (fun i => Rank.does_bind (x₃ i) (place i) Controller.predictDisplacement _ _) ?_
  refine meets_predictDisplacement h₃ turn live fun x₄ used h₄ => ?_
  refine Meets.of_eq (fun i => Rank.does_bind (x₄ i) (place i)
    (Controller.unlessTerminated Controller.imposeDisplacement) _ _) ?_
  refine meets_imposeDisplacement launch h₄ live fun x₅ h₅ => ?_
  have hears : follows (fun sent => if Status.failed sent then resume forces₂ .lost
        else Structure.hearing l w.iteration (resume forces₂)) g
        (.ok (Int32.ofNat (Structure.uniformField l.vertices (m forces₂).v).length), d₃) =
      (MessageChannel.receiveInt r.fluid w.iteration Variable.convergence 0).bind fun received =>
        (resume forces₂ (if Status.failed received.1 then .lost
          else if received.2 = 1 then .converged else .again) d₃).bind g := by
    rw [← Program.bind_assoc, ← Act.lift_bind_apply, ← facing.fluid]
    exact congrArg (Program.bind · g) (congrFun (ite_failed (long (m forces₂).v ▸ most) _ _) d₃)
  refine Meets.of_eq (fun i => Rank.does_bind (x₅ i) (place i) Controller.exchangeConvergence _ _) ?_
  refine meets_exchangeConvergence launch h₅ turn live hears fun x₆ converged h₆ => ?_
  have goesOn := on (fun i => { x₆ i with controller := ended (x₆ i).controller }) d₃ forces₂
    (m forces₂) converged (fun i => { h₆ i with controller := (h₆ i).controller.ended })
    (place₃.trans place₂) size₂
  have heard : (if Status.failed 1 then Structure.Answered.lost
      else if (if converged then (1 : Int32) else 0) = 1 then .converged else .again) =
        if converged then .converged else .again := by
    cases converged <;> rfl
  rw [← heard] at goesOn
  refine Meets.of_eq (fun i => ?_) goesOn
  rw [← (h₆ i).controller.ended.isDone live converged]
  rfl

theorem Terms.cap_eq (e : Terms) :
    e.cap = Int32.ofNat e.cap.toNatClampNeg ∧ e.cap.toNatClampNeg < 2 ^ 31 := by
  have positive : 0 ≤ e.cap.toInt := by
    unfold Terms.cap
    split
    · have := Int32.lt_iff_toInt_lt.1 ‹_›
      have one : (1 : Int32).toInt = 1 := rfl
      omega
    · decide
  have most := e.cap.toInt_lt
  unfold Int32.toNatClampNeg
  refine ⟨Int32.toInt_inj.1 ?_, by omega⟩
  rw [Int32.toInt_ofNat_of_lt (by omega)]
  omega

/-- The sub-iterations of both programs are as many. -/
theorem meets_subIterations (launch : Launch r e place sound) (facing : Facing r e (n + 1) l)
    {F : Fin (n + 1) → (Except Fault Unit × Controller) × Setting φ → Program Parallel α}
    {g : Except Fault ((Motion × List Float × Bool) × Nat) × MessageChannel → Program Parallel β}
    (fuel before : Nat) (left : before + fuel = e.cap.toNatClampNeg)
    (h : ∀ i, (x i).Stands e (place i) sound { w with subIteration := Int32.ofNat before })
    (turn : w.phase = .subIterating) (live : ¬ w.iteration < 0) (single : d.isLocalRoot = true)
    (size : forces.length = (n + 1) * (3 * e.surface.faceCount))
    (on : ∀ (x' : Fin (n + 1) → Rank φ) (d' : MessageChannel) (forces' : List Float)
      (motion' : Motion) (count : Nat), before + count < 2 ^ 31 →
      (∀ i, (x' i).Stands e (place i) sound
        { w with subIteration := Int32.ofNat (before + count) }) →
      d'.place = d.place → forces'.length = forces.length →
      Meets r Q (fun i => F i ((x' i).gives (place i) ()))
        (g (.ok ((motion', forces', true), count), d')) .empty .empty) :
    Meets r Q (fun i => ((x i).does (place i) (Controller.subIterateAtMost fuel)).bind (F i))
      ((Structure.subIterateRecorded l o w.iteration dt fuel motion forces d).bind g)
      .empty .empty := by
  obtain ⟨whole, small⟩ := e.cap_eq
  induction fuel generalizing x d forces motion before g with
  | zero => exact on x d forces motion 0 (by omega) h rfl rfl
  | succ fuel ih =>
    refine Meets.of_eq (fun i => Rank.does_bind _ _ _ _ _) ?_
    refine meets_subIterate launch facing h turn live single size fuel
      fun x' d' forces' motion' converged h' place' size' => ?_
    have next : Int32.ofNat before + 1 = Int32.ofNat (before + 1) := (Int32.ofNat_add before 1).symm
    dsimp only at h' ⊢
    rw [next] at h' ⊢
    have last : e.cap ≤ Int32.ofNat (before + 1) ↔ fuel = 0 := by
      rw [whole, Int32.ofNat_le_iff_le small (by omega)]
      omega
    by_cases again : converged = false ∧ fuel ≠ 0
    · obtain ⟨rfl, more⟩ := again
      rw [decide_eq_false (mt last.1 more)]
      refine Meets.of_eq (fun i => show _ = ((x' i).does (place i)
        (Controller.subIterateAtMost fuel)).bind (F i) from rfl) ?_
      rw [show (if false then Structure.Answered.converged else .again) = .again from rfl]
      unfold Structure.resuming
      rw [act_bind]
      refine ih (before + 1) (by omega) h' (single_of_place place' single) (size'.trans size)
        fun x'' d'' forces'' motion'' count most h'' place'' size'' => ?_
      rw [Nat.add_assoc, Nat.add_comm 1] at most h''
      exact on x'' d'' forces'' motion'' (count + 1) most h'' (place''.trans place')
        (size''.trans size')
    · have stops : (converged || decide (e.cap ≤ Int32.ofNat (before + 1))) = true := by
        cases converged with
        | true => rfl
        | false => exact decide_eq_true (last.2 (by simpa using again))
      rw [stops]
      have counted : (Structure.resuming l o w.iteration dt fuel motion' forces'
          (if converged then .converged else .again) d').bind g =
            g (.ok ((motion', forces', true), 1), d') := by
        cases converged with
        | true => rfl
        | false =>
          obtain rfl : fuel = 0 := by simpa using again
          rfl
      rw [counted]
      exact on x' d' forces' motion' 1 (by omega) h' place' size'

end Rounds

end FluidStructure.Programs
