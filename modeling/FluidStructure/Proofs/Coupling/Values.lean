import FluidStructure.Proofs.Coupling.Standing

/-!
# The values of a sub-iteration

With a peer, a sub-iteration sends forces that are predicted from those just computed, and imposes
a displacement that is predicted from the motion that has come.  A prediction is a combination
with values of an earlier generation, which the session keeps.
-/

namespace FluidStructure.Coupling

open FluidStructure.Channel FluidStructure.Journal

/-! ## Values in a log -/

/-- The forces as the solver has left them. -/
def computedForces : Exchange Coupling → Option (List Float)
  | ⟨.computeForces _ _ buffer, reply⟩ => some (overwrite buffer reply.2)
  | _ => none

/-- The forces that are sent to the peer. -/
def sentForces : Exchange Coupling → Option (List Float)
  | ⟨.sendField _ name values, _⟩ => if name = Variable.fluidForces then some values else none
  | _ => none

/-- The values of a field that has come. -/
def receivedField (wanted : String) : Exchange Coupling → Option (List Float)
  | ⟨.receiveField _ name buffer, .ok received⟩ =>
    if name = wanted ∧ Status.failed received.1 = false then some (overwrite buffer received.2)
    else none
  | _ => none

/-- The displacement that is handed to the solver. -/
def imposedDisplacement : Exchange Coupling → Option (List Float)
  | ⟨.imposeDisplacement _ values, _⟩ => some values
  | _ => none

/-- The values of one kind in a log, in order. -/
def picked (kind : Exchange Coupling → Option (List Float)) (log : Log Coupling) :
    List (List Float) := log.filterMap kind

/-- Displacements and velocities that have come, as they belong together. -/
def receivedMotion (log : Log Coupling) : List (List Float × List Float) :=
  (picked (receivedField Variable.meshDisplacement) log).zip
    (picked (receivedField Variable.meshVelocity) log)

/-- As many velocities as displacements have come. -/
def InPairs (log : Log Coupling) : Prop :=
  (picked (receivedField Variable.meshDisplacement) log).length =
    (picked (receivedField Variable.meshVelocity) log).length

section Picked

variable {kind : Exchange Coupling → Option (List Float)}

theorem picked_append (first second : Log Coupling) :
    picked kind (first ++ second) = picked kind first ++ picked kind second :=
  List.filterMap_append ..

theorem picked_carried (h : ∀ e, e.request.carries = false → kind e = none) (log : Log Coupling) :
    picked kind (carried log) = picked kind log := by
  induction log with
  | nil => rfl
  | cons e log ih =>
    rw [carried_cons, picked_append, ih]
    cases carries : e.request.carries with
    | true => exact (picked_append [e] log).symm
    | false =>
      unfold picked
      rw [List.filterMap_cons, h e carries]
      rfl

/-- Exchanges that carry no values have none of any kind. -/
theorem none_of_not_carries (e : Exchange Coupling) (h : e.request.carries = false) :
    computedForces e = none ∧ sentForces e = none ∧ (∀ wanted, receivedField wanted e = none) ∧
      imposedDisplacement e = none := by
  obtain ⟨request, reply⟩ := e
  cases request <;> first | exact ⟨rfl, rfl, fun _ => rfl, rfl⟩ | cases h

theorem computedForces_carried (log : Log Coupling) :
    picked computedForces (carried log) = picked computedForces log :=
  picked_carried (fun e h => (none_of_not_carries e h).1) log

theorem sentForces_carried (log : Log Coupling) :
    picked sentForces (carried log) = picked sentForces log :=
  picked_carried (fun e h => (none_of_not_carries e h).2.1) log

theorem receivedField_carried (wanted : String) (log : Log Coupling) :
    picked (receivedField wanted) (carried log) = picked (receivedField wanted) log :=
  picked_carried (fun e h => (none_of_not_carries e h).2.2.1 wanted) log

theorem imposedDisplacement_carried (log : Log Coupling) :
    picked imposedDisplacement (carried log) = picked imposedDisplacement log :=
  picked_carried (fun e h => (none_of_not_carries e h).2.2.2) log

theorem receivedMotion_congr {first second : Log Coupling}
    (h : ∀ wanted, picked (receivedField wanted) first = picked (receivedField wanted) second) :
    receivedMotion first = receivedMotion second := by
  unfold receivedMotion
  rw [h, h]

theorem InPairs.congr {first second : Log Coupling} (paired : InPairs second)
    (h : ∀ wanted, picked (receivedField wanted) first = picked (receivedField wanted) second) :
    InPairs first := by
  unfold InPairs at *
  rw [h, h, paired]

theorem receivedMotion_carried (log : Log Coupling) :
    receivedMotion (carried log) = receivedMotion log :=
  receivedMotion_congr fun wanted => receivedField_carried wanted log

theorem receivedMotion_append {first : Log Coupling} (paired : InPairs first)
    (second : Log Coupling) :
    receivedMotion (first ++ second) = receivedMotion first ++ receivedMotion second := by
  unfold receivedMotion
  rw [picked_append, picked_append]
  exact List.zip_append paired

theorem InPairs.append {first second : Log Coupling} (h : InPairs first) (k : InPairs second) :
    InPairs (first ++ second) := by
  unfold InPairs at *
  rw [picked_append, picked_append, List.length_append, List.length_append, h, k]

end Picked

/-! ## Predictions as combinations -/

/-- The forces that are sent: twice the current ones less those of an earlier generation. -/
def predictedForces (previous current : List Float) : List Float :=
  List.zipWith (fun f p => 2.0 * f + (1.0 - 2.0) * p) current previous

/-- The first displacement of a step, extrapolated along the velocities. -/
def extrapolated (dt previousDt : Float) (previousVelocity displacement velocity : List Float) :
    List Float :=
  List.zipWith (fun f w => f w)
    (List.zipWith (fun d v w => 1.0 * d + ((0.5 + 0.0) * dt) * v + (-0.0 * previousDt) * w)
      displacement velocity) previousVelocity

/-- A later displacement of a step, half-way from the one before. -/
def relaxed (former displacement : List Float) : List Float :=
  List.zipWith (fun d x => 0.5 * d + (1.0 - 0.5) * x) displacement former

/-- The displacements after a former one, as motion comes. -/
def relaxations : List Float → List (List Float × List Float) → List (List Float)
  | _, [] => []
  | former, (displacement, _) :: later =>
    relaxed former displacement :: relaxations (relaxed former displacement) later

/-- The displacements of a step, as motion comes. -/
def motions (dt previousDt : Float) (previousVelocity : List Float) :
    List (List Float × List Float) → List (List Float)
  | [] => []
  | (displacement, velocity) :: later =>
    let first := extrapolated dt previousDt previousVelocity displacement velocity
    first :: relaxations first later

namespace Controller

variable {c d e : Controller} {log : Log Coupling} {bad : Bool}

/-- The displacement that comes next, from the motion that has come. -/
def nextMotion (c : Controller) (displacement velocity : List Float) : List Float :=
  if c.session.subIteration = 0 then
    extrapolated c.session.dt c.session.previousDt c.session.previousVelocity displacement velocity
  else relaxed c.session.predictedDisplacement displacement

theorem nextDisplacement_eq (c : Controller) :
    Prediction.nextDisplacement c.session =
      c.nextMotion c.session.displacement c.session.velocity := by
  unfold Prediction.nextDisplacement nextMotion
  split <;> rfl

/-! ## Sub-iterations -/

/-- What is left in the session after a sub-iteration with these forces and this motion. -/
structure Followed (c : Controller) (force displacement velocity : List Float) (d : Controller) :
    Prop where
  previousForce : d.session.previousForce =
    if c.session.isImplicit then c.session.previousForce else force
  previousVelocity : d.session.previousVelocity =
    if c.session.isImplicit then c.session.previousVelocity else velocity
  predicted : d.session.predictedDisplacement = c.nextMotion displacement velocity
  dt : d.session.dt = c.session.dt
  subIteration : d.session.subIteration = c.session.subIteration + 1

/-- The values of a sub-iteration with a peer.  Forces are sent; if motion comes, a displacement is
imposed; and if nothing fails, the session keeps what the next sub-iteration needs. -/
inductive Exchanged (c : Controller) : Log Coupling → Bool → Controller → Prop
  | whole {log : Log Coupling} {bad : Bool} {d : Controller}
      (force displacement velocity : List Float)
      (computed : picked computedForces log = [force])
      (sent : picked sentForces log = [predictedForces c.session.previousForce force])
      (paired : InPairs log) (received : receivedMotion log = [(displacement, velocity)])
      (imposed : picked imposedDisplacement log = [c.nextMotion displacement velocity])
      (sizes : force.length = c.session.previousForce.length ∧
        displacement.length = c.session.previousVelocity.length ∧
        velocity.length = c.session.previousVelocity.length)
      (followed : bad = false → c.Followed force displacement velocity d) : Exchanged c log bad d
  | broken {log : Log Coupling} {d : Controller} (force : List Float)
      (computed : picked computedForces log = [force])
      (sent : picked sentForces log = [predictedForces c.session.previousForce force])
      (received : receivedMotion log = [])
      (imposed : picked imposedDisplacement log = [])
      (size : force.length = c.session.previousForce.length) : Exchanged c log true d

theorem imposition_of_gone (gone : c.session.isTerminated = true) :
    c.projected.imposition = [] := by
  unfold projected imposition
  rw [if_pos gone, if_pos gone]

theorem isTerminated_lost (c : Controller) : c.lost.session.isTerminated = true := by
  unfold lost
  split
  · assumption
  · rfl

theorem session_projected (live : c.session.isTerminated = false) :
    c.projected.session = { c.session with
      predictedDisplacement := c.nextMotion c.session.displacement c.session.velocity } := by
  unfold projected
  rw [live, if_neg (by decide), ← nextDisplacement_eq]

theorem imposition_of_live (live : c.session.isTerminated = false) :
    c.projected.imposition = [⟨.imposeDisplacement c.projected.session
      (c.nextMotion c.session.displacement c.session.velocity), .ok ()⟩] := by
  have session := session_projected live
  have there : c.projected.session.isTerminated = false := by
    rw [session]
    exact live
  unfold imposition
  rw [there, if_neg (by decide), session]

theorem ForcesSent.outcome (h : ForcesSent c log d) (live : c.session.isTerminated = false)
    (found : c.session.isDryRun = false) :
    ∃ status, log = [⟨.sendField c.session.peer.root Variable.fluidForces
        (predictedForces c.session.previousForce c.session.force), .ok status⟩] ∧
      d = if Status.failed status then c.forecast.lost else c.forecast := by
  cases h with
  | gone gone => rw [live] at gone; cases gone
  | dry _ alone => rw [found] at alone; cases alone
  | sent _ _ status => exact ⟨status, rfl, rfl⟩

theorem ForcesSent.outcome_of_gone (h : ForcesSent c log d) (gone : c.session.isTerminated = true) :
    log = [] ∧ d = c := by
  cases h with
  | gone => exact ⟨rfl, rfl⟩
  | dry live => rw [gone] at live; cases live
  | sent live => rw [gone] at live; cases live

theorem MotionReceived.outcome_of_gone (h : MotionReceived c log d)
    (gone : c.session.isTerminated = true) (found : c.session.isDryRun = false) :
    log = [] ∧ d = c := by
  cases h with
  | dry alone => rw [found] at alone; cases alone
  | gone => exact ⟨rfl, rfl⟩
  | first _ live => rw [gone] at live; cases live
  | both _ live => rw [gone] at live; cases live

/-- Receiving motion carries no other values. -/
theorem MotionReceived.silent (h : MotionReceived c log d) :
    picked computedForces log = [] ∧ picked sentForces log = [] ∧
      picked imposedDisplacement log = [] := by
  cases h <;> exact ⟨rfl, rfl, rfl⟩

theorem receivedMotion_first {peer : Int32} {buffer : List Float} {received : Status × List Float}
    (failed : Status.failed received.1 = true) :
    receivedMotion [⟨.receiveField peer Variable.meshDisplacement buffer, .ok received⟩] = [] := by
  simp [receivedMotion, picked, receivedField, failed]

theorem paired_both {peer : Int32} {buffer buffer' : List Float}
    {first second : Status × List Float}
    (fine : Status.failed first.1 = false) (fine' : Status.failed second.1 = false) :
    InPairs [⟨.receiveField peer Variable.meshDisplacement buffer, .ok first⟩,
      ⟨.receiveField peer Variable.meshVelocity buffer', .ok second⟩] := by
  have differs : Variable.meshDisplacement ≠ Variable.meshVelocity := by decide
  simp [InPairs, picked, receivedField, fine, fine', differs, differs.symm]

theorem receivedMotion_both {peer : Int32} {buffer buffer' : List Float}
    {first second : Status × List Float} (fine : Status.failed first.1 = false) :
    receivedMotion [⟨.receiveField peer Variable.meshDisplacement buffer, .ok first⟩,
        ⟨.receiveField peer Variable.meshVelocity buffer', .ok second⟩] =
      if Status.failed second.1 then []
      else [(overwrite buffer first.2, overwrite buffer' second.2)] := by
  have differs : Variable.meshDisplacement ≠ Variable.meshVelocity := by decide
  cases failed : Status.failed second.1 with
  | true => simp [receivedMotion, picked, receivedField, fine, failed, differs]
  | false => simp [receivedMotion, picked, receivedField, fine, failed, differs, differs.symm]

/-- Either motion comes and is taken as it has come, or the peer is lost. -/
theorem MotionReceived.outcome (h : MotionReceived c log d)
    (live : c.session.isTerminated = false) (found : c.session.isDryRun = false)
    (sound : c.Sound) :
    receivedMotion log = [] ∧ lossy log = true ∧ d.session.isTerminated = true ∨
      ∃ displacement velocity, InPairs log ∧ receivedMotion log = [(displacement, velocity)] ∧
        displacement.length = c.session.displacement.length ∧
        velocity.length = c.session.velocity.length ∧
        d.session = { c.session with displacement, velocity } := by
  cases h with
  | dry alone => rw [found] at alone; cases alone
  | gone _ gone => rw [live] at gone; cases gone
  | first _ _ received failed =>
    refine .inl ⟨receivedMotion_first failed, ?_, isTerminated_lost _⟩
    rw [lossy_cons, reveals_receiveField, failed]
    rfl
  | both _ _ first second fine =>
    rw [receivedMotion_both fine]
    cases failed : Status.failed second.1 with
    | true =>
      refine .inl ⟨rfl, ?_, isTerminated_lost _⟩
      rw [lossy_cons, lossy_cons, reveals_receiveField, reveals_receiveField, failed, Bool.true_or,
        Bool.or_true]
    | false =>
      have displacement : (overwrite c.displacementStaging first.2).length =
          c.session.displacement.length := (length_overwrite _ _).trans sound.staging
      have velocity : (overwrite c.velocityStaging second.2).length = c.session.velocity.length :=
        (length_overwrite _ _).trans sound.velocity
      refine .inr ⟨_, _, paired_both fine failed, rfl, displacement, velocity, ?_⟩
      rw [if_neg (by decide)]
      unfold taken stageVelocity stageDisplacement
      dsimp only
      rw [overwrite_of_eq displacement, overwrite_of_eq velocity]

theorem picked_sendField (peer : Int32) (values : List Float) (sending : Except Fault Status) :
    picked sentForces [⟨.sendField peer Variable.fluidForces values, sending⟩] = [values] := by
  simp [picked, sentForces]

/-- The values of a sub-iteration in which forces are sent, from those of its parts. -/
theorem picked_subIteration {s : Session} {r : RunControl} {buffer values : List Float}
    {reply : Except Fault Unit × List Float} {peer : Int32} {sending : Except Fault Status}
    {received : Log Coupling} (silent : picked computedForces received = [] ∧
      picked sentForces received = [] ∧ picked imposedDisplacement received = []) :
    let whole : Log Coupling := ⟨.computeForces s r buffer, reply⟩ ::
      ([⟨.sendField peer Variable.fluidForces values, sending⟩] ++ received ++ c.imposition)
    picked computedForces whole = [overwrite buffer reply.2] ∧ picked sentForces whole = [values] ∧
      (∀ wanted, picked (receivedField wanted) whole = picked (receivedField wanted) received) ∧
      picked imposedDisplacement whole = picked imposedDisplacement c.imposition := by
  obtain ⟨computed, sent, imposed⟩ := silent
  have ending : picked computedForces c.imposition = [] ∧ picked sentForces c.imposition = [] ∧
      ∀ wanted, picked (receivedField wanted) c.imposition = [] := by
    unfold imposition
    split <;> exact ⟨rfl, rfl, fun _ => rfl⟩
  obtain ⟨computed', sent', received'⟩ := ending
  refine ⟨?_, ?_, ?_, ?_⟩
  · rw [← List.singleton_append, picked_append, picked_append, picked_append, computed, computed']
    rfl
  · rw [← List.singleton_append, picked_append, picked_append, picked_append, sent, sent',
      picked_sendField]
    rfl
  · intro wanted
    rw [← List.singleton_append, picked_append, picked_append, picked_append, received' wanted,
      List.append_nil]
    rfl
  · rw [← List.singleton_append, picked_append, picked_append, picked_append, imposed]
    rfl

theorem FlagExchanged.session (h : FlagExchanged c false d) :
    ∃ localConvergence globalConvergence,
      d.session = { c.session with localConvergence, globalConvergence } := by
  cases h with
  | kept flag _ peer => exact ⟨flag, peer, rfl⟩

/-- What is kept at the end of a sub-iteration depends on the scheme. -/
theorem followed_concluded {force displacement velocity : List Float}
    (implicit : d.session.isImplicit = c.session.isImplicit) (forces : d.session.force = force)
    (previousForce : d.session.previousForce = c.session.previousForce)
    (velocities : d.session.velocity = velocity)
    (previousVelocity : d.session.previousVelocity = c.session.previousVelocity)
    (predicted : d.session.predictedDisplacement = c.nextMotion displacement velocity)
    (dt : d.session.dt = c.session.dt)
    (subIteration : d.session.subIteration = c.session.subIteration) :
    c.Followed force displacement velocity d.concluded := by
  unfold concluded
  cases scheme : c.session.isImplicit with
  | true =>
    rw [implicit.trans scheme, if_pos rfl]
    refine ⟨?_, ?_, predicted, dt, congrArg (· + 1) subIteration⟩
    · rw [scheme, if_pos rfl]
      exact previousForce
    · rw [scheme, if_pos rfl]
      exact previousVelocity
  | false =>
    rw [implicit.trans scheme, if_neg (by decide)]
    refine ⟨?_, ?_, predicted, dt, congrArg (· + 1) subIteration⟩
    · rw [scheme, if_neg (by decide)]
      exact forces
    · rw [scheme, if_neg (by decide)]
      exact velocities

theorem SubIterated.exchanged {last : Bool} (h : SubIterated c log bad last d)
    (live : c.session.isTerminated = false) (found : c.session.isDryRun = false) (sound : c.Sound) :
    Exchanged c log bad d := by
  cases h with
  | @stages reply sent received bad d e f forces motion flag converged =>
    have size : (overwrite c.session.force reply.2).length = c.session.previousForce.length :=
      (length_overwrite _ _).trans sound.buffers.previousForce.symm
    have found' : d.session.isDryRun = false := forces.akin.isDryRun.trans found
    have sound' : d.Sound := forces.akin.sound ((akin_loaded c reply.2).sound sound)
    obtain ⟨status, rfl, after⟩ := forces.outcome live found
    obtain ⟨computed, sent, fields, imposed⟩ := picked_subIteration (c := e.projected)
      (s := c.session) (r := c.run) motion.silent
    have motions := receivedMotion_congr fields
    cases failed : Status.failed status with
    | true =>
      rw [failed, if_pos rfl] at after
      have gone : d.session.isTerminated = true := by
        rw [after]
        exact isTerminated_lost _
      obtain ⟨rfl, rfl⟩ := motion.outcome_of_gone gone found'
      rw [lossy_sendField, failed]
      have nothing := congrArg (picked imposedDisplacement) (imposition_of_gone gone)
      exact .broken _ computed sent motions (imposed.trans nothing) size
    | false =>
      rw [failed, if_neg (by decide)] at after
      subst after
      rw [lossy_sendField, failed]
      rcases motion.outcome live found' sound' with ⟨none, bad, gone⟩ |
        ⟨displacement, velocity, paired, came, long, long', session⟩
      · rw [bad]
        have nothing := congrArg (picked imposedDisplacement) (imposition_of_gone gone)
        exact .broken _ computed sent (motions.trans none) (imposed.trans nothing) size
      · have live' : e.session.isTerminated = false := by
          rw [session]
          exact live
        have next : e.nextMotion e.session.displacement e.session.velocity =
            c.nextMotion displacement velocity := by
          unfold nextMotion
          rw [session]
          rfl
        have imposed' : picked imposedDisplacement e.projected.imposition =
            [c.nextMotion displacement velocity] := by
          rw [imposition_of_live live', next]
          rfl
        refine .whole _ displacement velocity computed sent (paired.congr fields)
          (motions.trans came) (imposed.trans imposed') ⟨size, ?_, ?_⟩ fun fine => ?_
        · exact long.trans sound.buffers.previousVelocity.symm
        · exact long'.trans (sound.buffers.velocity.trans sound.buffers.previousVelocity.symm)
        · have calm : bad = false := (Bool.or_eq_false_iff.1 fine).2
          subst calm
          obtain ⟨_, _, flagged⟩ := flag.session
          rw [session_projected live', next, session] at flagged
          refine followed_concluded ?_ ?_ ?_ ?_ ?_ ?_ ?_ ?_ <;> rw [flagged] <;> rfl

end Controller

end FluidStructure.Coupling
