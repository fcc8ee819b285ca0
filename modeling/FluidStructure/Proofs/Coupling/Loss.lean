import FluidStructure.Proofs.Coupling.Steady

/-!
# Losing the peer

A failed exchange makes the iteration negative.  From that stage on nothing is exchanged
with the peer any more, the movement of the interface stays as it is until the buffers are
released, and only the forces are still computed, once in each step.

Each stage has two facts, from which the rest follows along the course of an operation and
along operations: entered without the peer it is quiet, and if it loses the peer it is
silent itself.
-/

namespace FluidStructure.Coupling

open FluidStructure.Channel FluidStructure.Journal

/-- The buffers in which the movement of the interface is passed on. -/
structure Session.Movement where
  displacement : List Float
  velocity : List Float
  predictedDisplacement : List Float
  predictedForce : List Float

def Session.movement (s : Session) : Session.Movement :=
  ⟨s.displacement, s.velocity, s.predictedDisplacement, s.predictedForce⟩

namespace Controller

/-- The peer was found and is gone. -/
structure Orphaned (c : Controller) : Prop where
  found : c.session.isDryRun = false
  gone : c.session.isTerminated = true

theorem Orphaned.alone {c : Controller} (h : c.Orphaned) : c.session.isConnected = false := by
  unfold Session.isConnected
  rw [h.gone, Bool.not_true, Bool.and_false]

/-- Nothing is exchanged with the peer, and the fluid solver gets no displacement. -/
def Silent (log : Log Coupling) : Prop :=
  ∀ e ∈ log, e.request.call? = none ∧ e.request.imposesDisplacement = false

theorem Silent.append {first second : Log Coupling} (h : Silent first) (k : Silent second) :
    Silent (first ++ second) := by
  intro e member
  rcases List.mem_append.1 member with member | member
  · exact h e member
  · exact k e member

theorem Silent.of_local {log : Log Coupling} (h : Local log) : Silent log := fun e member =>
  ⟨Request.call?_of_isLocal (h e member), Request.imposesDisplacement_of_isLocal (h e member)⟩

/-- The movement stays until the release, and a release is for good. -/
structure Frozen (c d : Controller) : Prop where
  movement : d.session.released = true ∨ d.session.movement = c.session.movement
  released : c.session.released = true → d.session.released = true

theorem Frozen.of_eq {c d : Controller} (movement : d.session.movement = c.session.movement)
    (released : d.session.released = c.session.released) : c.Frozen d :=
  ⟨.inr movement, released.trans⟩

theorem Frozen.trans {c d e : Controller} (h : c.Frozen d) (k : d.Frozen e) : c.Frozen e where
  movement := by
    rcases k.movement with released | kept
    · exact .inl released
    · rcases h.movement with released | before
      · exact .inl (k.released released)
      · exact .inr (kept.trans before)
  released := fun released => k.released (h.released released)

/-- Once the peer is gone, nothing about it changes any more. -/
structure Still (c d : Controller) : Prop extends Frozen c d where
  orphaned : d.Orphaned
  iteration : d.session.iteration = c.session.iteration

theorem Still.trans {c d e : Controller} (h : c.Still d) (k : d.Still e) : c.Still e :=
  ⟨h.toFrozen.trans k.toFrozen, k.orphaned, k.iteration.trans h.iteration⟩

theorem Still.refl {c : Controller} (orphaned : c.Orphaned) : c.Still c :=
  ⟨.of_eq rfl rfl, orphaned, rfl⟩

/-! ## Relations between the ends of a stretch -/

/-- Without the peer nothing happens, apart from local requests. -/
def Hushed (c : Controller) (log : Log Coupling) (d : Controller) : Prop :=
  c.Orphaned → Local log ∧ c.Still d

/-- Without the peer nothing is passed on. -/
def Quiet (c : Controller) (log : Log Coupling) (d : Controller) : Prop :=
  c.Orphaned → Silent log ∧ c.Still d

/-- The loss of the peer itself takes nothing but local requests. -/
def Falls (c : Controller) (log : Log Coupling) (d : Controller) : Prop :=
  c.session.isTerminated = false → d.session.isTerminated = true → Local log ∧ c.Frozen d

theorem hushed : Act.Transitive Hushed where
  refl := fun _ orphaned => ⟨Local.nil, Still.refl orphaned⟩
  trans := by
    intro c first d second e h k orphaned
    obtain ⟨asked, still⟩ := h orphaned
    obtain ⟨later, again⟩ := k still.orphaned
    exact ⟨asked.append later, still.trans again⟩

theorem quiet : Act.Transitive Quiet where
  refl := fun _ orphaned => ⟨Silent.of_local Local.nil, Still.refl orphaned⟩
  trans := by
    intro c first d second e h k orphaned
    obtain ⟨silent, still⟩ := h orphaned
    obtain ⟨later, again⟩ := k still.orphaned
    exact ⟨silent.append later, still.trans again⟩

theorem quiet_of_hushed {α : Type} {act : Act Coupling Controller α} (h : act.Keeps Hushed) :
    act.Keeps Quiet := by
  intro c log result d run orphaned
  obtain ⟨asked, still⟩ := h _ _ _ _ run orphaned
  exact ⟨Silent.of_local asked, still⟩

theorem falls_of_steady {α : Type} {act : Act Coupling Controller α} (h : act.Keeps Steady) :
    act.Keeps Falls := by
  intro c log result d run live lost
  rw [isTerminated_eq (h _ _ _ _ run).iteration, live] at lost
  cases lost

/-! ## Stages without the peer -/

/-- A change of the state without exchanges. -/
theorem hushed_modify {change : Controller → Controller}
    (iteration : ∀ c, (change c).session.iteration = c.session.iteration)
    (peer : ∀ c, (change c).session.peer = c.session.peer)
    (movement : ∀ c, (change c).session.movement = c.session.movement)
    (released : ∀ c, (change c).session.released = c.session.released) :
    (Act.modify change).Keeps Hushed := by
  refine Act.keeps_modify fun c orphaned => ?_
  refine ⟨Local.nil, .of_eq (movement c) (released c), ⟨?_, ?_⟩, iteration c⟩
  · unfold Session.isDryRun
    rw [peer c]
    exact orphaned.found
  · exact (isTerminated_eq (iteration c)).trans orphaned.gone

theorem hushed_modifySession {change : Session → Session}
    (iteration : ∀ s, (change s).iteration = s.iteration) (peer : ∀ s, (change s).peer = s.peer)
    (movement : ∀ s, (change s).movement = s.movement)
    (released : ∀ s, (change s).released = s.released) :
    (modifySession change).Keeps Hushed :=
  hushed_modify (fun _ => iteration _) (fun _ => peer _) (fun _ => movement _)
    fun _ => released _

theorem hushed_setPhase (phase : Phase) : (setPhase phase).Keeps Hushed :=
  hushed_modify (fun _ => rfl) (fun _ => rfl) (fun _ => rfl) fun _ => rfl

theorem hushed_perform {request : Request} (h : request.isLocal = true) :
    (Act.perform (I := Coupling) request).Keeps Hushed :=
  Act.keeps_perform fun _ _ orphaned =>
    ⟨Local.nil.cons h, Still.refl orphaned⟩

theorem hushed_noteIf (condition : Bool) (notice : Notice) :
    (noteIf condition notice).Keeps Hushed := hushed.noteIf (fun _ => hushed_perform rfl) _ _

/-- After a look at the state, what matters is only what is done without the peer. -/
theorem hushed_get_bind {α : Type} {f : Controller → Act Coupling Controller α}
    (h : ∀ c, c.Orphaned → (f c).Keeps Hushed) : (Act.get >>= f).Keeps Hushed :=
  Act.keeps_get_bind fun c _ _ _ run orphaned => h c orphaned _ _ _ _ run orphaned

theorem hushed_unlessTerminated (act : Act Coupling Controller Unit) :
    (unlessTerminated act).Keeps Hushed := by
  refine hushed_get_bind fun c orphaned => ?_
  rw [if_pos orphaned.gone]
  exact hushed.pure ()

theorem hushed_heed (status : Status) (during : String) : (heed status during).Keeps Hushed := by
  unfold heed
  split
  · exact hushed_unlessTerminated _
  · exact hushed.pure ()

theorem hushed_acceptMotion (collected : Option Status) :
    (acceptMotion collected).Keeps Hushed := by
  cases collected with
  | none => exact hushed.pure ()
  | some status => exact hushed_unlessTerminated _

theorem hushed_proposeStep (own : Float) : (proposeStep own).Keeps Hushed := by
  refine hushed.bind (hushed.requirePhase _ _) fun _ => hushed.bind (hushed_setPhase _) fun _ =>
    hushed.bind (hushed_modify (fun _ => rfl) (fun _ => rfl) (fun _ => rfl) fun _ => rfl) fun _ =>
    hushed_get_bind fun c orphaned => ?_
  rw [if_pos orphaned.gone]
  exact hushed.pure _

theorem hushed_settleStep (own : Float) (proposed : Int32 × Float) :
    (settleStep own proposed).Keeps Hushed := by
  refine hushed_get_bind fun c orphaned => ?_
  rw [if_pos orphaned.gone]
  exact hushed.pure _

theorem hushed_enterStep (dt : Float) : (enterStep dt).Keeps Hushed :=
  hushed.bind (hushed_modify (fun _ => rfl) (fun _ => rfl) (fun _ => rfl) fun _ => rfl) fun _ =>
    hushed.bind (hushed_modifySession (fun _ => rfl) (fun _ => rfl) (fun _ => rfl) fun _ => rfl)
      fun _ => hushed.bind (hushed_setPhase _) fun _ => hushed.pure _

theorem quiet_computeForces : computeForces.Keeps Quiet := by
  intro c log result d run orphaned
  obtain ⟨reply, rfl, -, rfl⟩ := runs_computeForces run
  refine ⟨fun e member => ?_, .of_eq rfl rfl, ⟨orphaned.found, orphaned.gone⟩, rfl⟩
  obtain rfl := List.mem_singleton.1 member
  exact ⟨rfl, rfl⟩

theorem hushed_offerForces : offerForces.Keeps Hushed := by
  refine hushed.bind (hushed.requirePhase _ _) fun _ => hushed_get_bind fun c orphaned => ?_
  rw [if_pos orphaned.gone]
  exact hushed.pure _

theorem hushed_collectMotion : collectMotion.Keeps Hushed := by
  refine hushed.bind (hushed.requirePhase _ _) fun _ => hushed_get_bind fun c orphaned => ?_
  rw [orphaned.found, if_neg (by decide), if_pos orphaned.gone]
  exact hushed.pure _

theorem hushed_predictDisplacement : predictDisplacement.Keeps Hushed := by
  refine hushed.bind (hushed.requirePhase _ _) fun _ => hushed_get_bind fun c orphaned => ?_
  rw [if_pos orphaned.gone]
  exact hushed.pure _

theorem hushed_predictDisplacementOnto (parent : List Float) :
    (predictDisplacementOnto parent).Keeps Hushed := by
  refine hushed_get_bind fun c orphaned => hushed.bind hushed_predictDisplacement fun _ =>
    hushed.bind hushed.get fun d => ?_
  rw [orphaned.gone, Bool.true_or, if_pos rfl]
  exact hushed.pure _

theorem hushed_evaluate (place : Parallel.Place) :
    (onEvaluation (Convergence.evaluate place)).Keeps Hushed := by
  intro c log result d run orphaned
  obtain ⟨asked, flag, residual, rfl⟩ := runs_evaluate run
  exact ⟨asked, .of_eq rfl rfl, ⟨orphaned.found, orphaned.gone⟩, rfl⟩

theorem hushed_askPeerConvergence (own : Bool) : (askPeerConvergence own).Keeps Hushed :=
  hushed.bind hushed.get fun _ => hushed.bind (hushed_perform rfl) fun _ =>
    hushed.bind (hushed.ofExcept _) fun _ =>
    hushed.bind (hushed_modifySession (fun _ => rfl) (fun _ => rfl) (fun _ => rfl) fun _ => rfl)
      fun _ => hushed.pure _

theorem hushed_sendConvergence (own : Bool) : (sendConvergence own).Keeps Hushed := by
  refine hushed_get_bind fun c orphaned => ?_
  dsimp only
  rw [orphaned.alone, if_neg (by decide)]
  exact hushed.pure _

theorem hushed_shareDecision : shareDecision.Keeps Hushed :=
  hushed.bind (hushed.requirePhase _ _) fun _ => hushed.bind hushed.get fun _ =>
    hushed.bind (hushed_evaluate _) fun _ => hushed.bind (hushed_askPeerConvergence _) fun _ =>
    hushed.bind (hushed_sendConvergence _) fun _ =>
    hushed.bind (hushed_perform rfl) fun _ => hushed.bind (hushed.ofExcept _) fun _ => hushed.pure _

theorem hushed_saveValues : saveValues.Keeps Hushed := by
  refine hushed_modifySession (fun s => ?_) (fun s => ?_) (fun s => ?_) fun s => ?_ <;>
    (split <;> rfl)

theorem hushed_conclude (converged : Bool) : (conclude converged).Keeps Hushed :=
  hushed.bind hushed_saveValues fun _ =>
    hushed.bind (hushed_modifySession (fun _ => rfl) (fun _ => rfl) (fun _ => rfl) fun _ => rfl)
      fun _ => hushed.bind hushed.get fun _ => hushed.pure _

theorem hushed_leaveStep : leaveStep.Keeps Hushed :=
  hushed.bind (hushed_setPhase _) fun _ => hushed.bind hushed.get fun _ =>
    hushed.bind (hushed_noteIf _ _) fun _ => hushed.pure _

theorem hushed_endStep : endStep.Keeps Hushed := by
  refine Act.keeps_get_bind fun c log result d run orphaned => ?_
  dsimp only at run
  split at run
  · exact hushed.fail _ _ _ _ _ run orphaned
  · obtain ⟨rfl, -, rfl⟩ := Act.runs_set.1 run
    exact ⟨Local.nil, .of_eq rfl rfl, ⟨orphaned.found, orphaned.gone⟩, rfl⟩

theorem hushed_release : (modifySession Session.release).Keeps Hushed := by
  refine Act.keeps_modify fun c orphaned => ⟨Local.nil, ⟨?_, ?_⟩, ⟨?_, ?_⟩, ?_⟩
  · exact .inl (Session.released_release _)
  · exact fun _ => Session.released_release _
  · unfold Session.isDryRun
    rw [Session.peer_release]
    exact orphaned.found
  · exact (isTerminated_eq (d := { c with session := c.session.release })
      (Session.iteration_release _)).trans orphaned.gone
  · exact Session.iteration_release _

theorem hushed_takeLeave : takeLeave.Keeps Hushed := by
  refine hushed_get_bind fun c orphaned => ?_
  rw [if_neg (by rw [orphaned.alone]; rintro ⟨-, h, -⟩; cases h)]
  exact hushed.pure _

theorem hushed_finish : finish.Keeps Hushed := by
  refine hushed.bind hushed.get fun c => ?_
  split
  · exact hushed.pure _
  · exact hushed.bind hushed_takeLeave fun _ => hushed.bind hushed_release fun _ =>
      hushed.bind (hushed_setPhase _) fun _ => hushed_noteIf _ _

/-! ## Stages that can lose the peer -/

/-- Without the peer before, without it after; a run stays begun; and the last step is another
one only after the loss of the peer. -/
structure Stays (c : Controller) (log : Log Coupling) (d : Controller) : Prop
    extends Onward c log d where
  gone : c.session.isTerminated = true → d.session.isTerminated = true
  lastStep : d.session.isTerminated = c.session.isTerminated → d.run.lastStep = c.run.lastStep

theorem Stays.of_same {c d : Controller} {log : Log Coupling} (onward : c.Onward log d)
    (iteration : d.session.iteration = c.session.iteration)
    (lastStep : d.run.lastStep = c.run.lastStep) : c.Stays log d :=
  ⟨onward, (isTerminated_eq iteration).trans, fun _ => lastStep⟩

theorem stays : Act.Transitive Stays where
  refl := fun _ => .of_same ⟨id, rfl, rfl⟩ rfl rfl
  trans := by
    intro c first d second e h k
    refine ⟨onward.trans _ _ _ _ _ h.toOnward k.toOnward, fun gone => k.gone (h.gone gone),
      fun same => ?_⟩
    -- between two states of one kind lie only states of that kind
    have between : d.session.isTerminated = c.session.isTerminated := by
      cases gone : d.session.isTerminated with
      | true => rw [← same, k.gone gone]
      | false =>
        cases before : c.session.isTerminated with
        | true => rw [h.gone before] at gone; cases gone
        | false => rfl
    exact (k.lastStep (same.trans between.symm)).trans (h.lastStep between)

/-- While the peer is there, it has been there, and the last step stays. -/
theorem Stays.lastStep_of_live {c d : Controller} {log : Log Coupling} (h : c.Stays log d)
    (live : d.session.isTerminated = false) :
    c.session.isTerminated = false ∧ d.run.lastStep = c.run.lastStep := by
  have there : c.session.isTerminated = false :=
    Bool.eq_false_iff.2 fun gone => Bool.false_ne_true (live.symm.trans (h.gone gone))
  exact ⟨there, h.lastStep (live.trans there.symm)⟩

theorem stays_of_steady {α : Type} {act : Act Coupling Controller α} (h : act.Keeps Steady) :
    act.Keeps Stays := by
  intro c log result d run
  have same := h _ _ _ _ run
  exact .of_same same.toOnward same.iteration same.lastStep

theorem stays_lost (c : Controller) (log : Log Coupling) : c.Stays log c.lost := by
  unfold lost
  split
  · exact .of_same ⟨id, rfl, rfl⟩ rfl rfl
  · rename_i live
    exact ⟨⟨id, rfl, rfl⟩, fun _ => rfl, fun same => absurd same.symm live⟩

theorem frozen_lost (c : Controller) : c.Frozen c.lost := by
  unfold lost
  split
  · exact .of_eq rfl rfl
  · exact .of_eq rfl rfl

theorem stays_heed (status : Status) (during : String) : (heed status during).Keeps Stays := by
  intro c log result d run
  obtain ⟨-, -, rfl⟩ := runs_heed run
  split
  · exact stays_lost c log
  · exact .of_same ⟨id, rfl, rfl⟩ rfl rfl

theorem falls_heed (status : Status) (during : String) : (heed status during).Keeps Falls := by
  intro c log result d run live lost
  obtain ⟨asked, -, rfl⟩ := runs_heed run
  refine ⟨asked, ?_⟩
  split
  · exact frozen_lost c
  · exact .of_eq rfl rfl

theorem stays_acceptMotion (collected : Option Status) : (acceptMotion collected).Keeps Stays := by
  cases collected with
  | none => exact stays.pure ()
  | some status =>
    refine stays.bind stays.get fun c => ?_
    split
    · exact stays.pure ()
    · intro c log result d run
      have taken := (runs_acceptStaged run).2
      split at taken
      · rw [taken.2]
        exact stays_lost c log
      · rcases taken with ⟨fault, -, rfl⟩ | ⟨-, rfl⟩
        · exact .of_same ⟨id, rfl, rfl⟩ rfl rfl
        · exact .of_same ⟨id, rfl, rfl⟩ rfl rfl

theorem falls_acceptMotion (collected : Option Status) : (acceptMotion collected).Keeps Falls := by
  intro c log result d run live gone
  cases collected with
  | none =>
    obtain ⟨rfl, -, rfl⟩ := Act.runs_pure.1 run
    exact ⟨Local.nil, .of_eq rfl rfl⟩
  | some status =>
    replace run : (unlessTerminated (acceptStaged status) c).Runs log (result, d) := run
    rw [unlessTerminated_apply, live, if_neg (by decide)] at run
    obtain ⟨asked, taken⟩ := runs_acceptStaged run
    refine ⟨asked, ?_⟩
    split at taken
    · rw [taken.2]
      exact frozen_lost c
    · rcases taken with ⟨fault, -, rfl⟩ | ⟨-, rfl⟩
      · exact .of_eq rfl rfl
      · rw [isTerminated_eq (d := c.taken) (c := c) rfl, live] at gone
        cases gone

theorem stays_settleStep (own : Float) (proposed : Int32 × Float) :
    (settleStep own proposed).Keeps Stays := by
  refine Act.keeps_get_bind fun c log result d run => ?_
  split at run
  · exact stays.pure _ _ _ _ _ run
  · rename_i live
    obtain ⟨t, h, rfl⟩ := Act.runs_zoom.1 run
    rcases (TimeStep.runs_settle h).2 with ⟨rfl, -⟩ | ⟨dts, iterations, -, -, rfl⟩
    · exact .of_same ⟨id, rfl, rfl⟩ rfl rfl
    · refine ⟨⟨id, rfl, rfl⟩, fun gone => absurd gone live, fun same => ?_⟩
      rw [Bool.eq_false_iff.2 live] at same
      have positive : ¬ iterations.headD proposed.1 < 0 := of_decide_eq_false same
      exact congrArg RunControl.lastStep (if_neg positive)

theorem falls_settleStep (own : Float) (proposed : Int32 × Float) :
    (settleStep own proposed).Keeps Falls := by
  refine Act.keeps_get_bind fun c log result d run live gone => ?_
  rw [live, if_neg (by decide)] at run
  obtain ⟨t, h, rfl⟩ := Act.runs_zoom.1 run
  obtain ⟨asked, agreed⟩ := TimeStep.runs_settle h
  refine ⟨asked, ?_⟩
  rcases agreed with ⟨rfl, -⟩ | ⟨dts, iterations, -, -, rfl⟩
  · exact .of_eq rfl rfl
  · exact .of_eq rfl rfl

end Controller

end FluidStructure.Coupling
