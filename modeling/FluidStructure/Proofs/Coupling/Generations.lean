import FluidStructure.Proofs.Coupling.Values
import FluidStructure.Proofs.Coupling.WindDown

/-!
# Which values a prediction uses

Each prediction combines what the sub-iteration has computed or received with values of an earlier
generation: of the step before, of the sub-iteration before, or with the zeros from the
registration.  The generations are read off the exchanges alone, without the buffers in which the
session keeps them.
-/

namespace FluidStructure.Coupling

open FluidStructure.Channel FluidStructure.Journal

namespace Controller

variable {c d e : Controller} {log : Log Coupling} {bad : Bool}

/-! ## All sub-iterations of a step -/

/-- The displacements that come next, as motion comes. -/
def motionsFrom (c : Controller) (fields : List (List Float × List Float)) : List (List Float) :=
  if c.session.subIteration = 0 then
    motions c.session.dt c.session.previousDt c.session.previousVelocity fields
  else relaxations c.session.predictedDisplacement fields

theorem motionsFrom_nil (c : Controller) : c.motionsFrom [] = [] := by
  unfold motionsFrom
  split <;> rfl

theorem motionsFrom_cons (c : Controller) (displacement velocity : List Float)
    (later : List (List Float × List Float)) :
    c.motionsFrom ((displacement, velocity) :: later) =
      c.nextMotion displacement velocity ::
        relaxations (c.nextMotion displacement velocity) later := by
  unfold motionsFrom nextMotion
  split <;> rfl

theorem SubIterated.silent {last : Bool} (h : SubIterated c log bad last d)
    (gone : c.session.isTerminated = true) (found : c.session.isDryRun = false) :
    picked sentForces log = [] ∧ picked imposedDisplacement log = [] ∧
      ∀ wanted, picked (receivedField wanted) log = [] := by
  cases h with
  | stages forces motion =>
    obtain ⟨rfl, rfl⟩ := forces.outcome_of_gone gone
    obtain ⟨rfl, rfl⟩ := motion.outcome_of_gone gone found
    rw [imposition_of_gone (c := c.loaded _) gone]
    exact ⟨rfl, rfl, fun _ => rfl⟩

theorem SubIterated.last_of_gone {last : Bool} (h : SubIterated c log bad last d)
    (gone : d.session.isTerminated = true) : last = true := by
  cases h with
  | stages =>
    unfold isDone
    rw [gone, Bool.or_true, Bool.true_or]

/-- The values of sub-iterations in which nothing fails, and what is left of them. -/
structure Whole (c : Controller) (log : Log Coupling) (d : Controller) : Prop where
  sent : picked sentForces log =
    (picked computedForces log).map (predictedForces c.session.previousForce)
  imposed : picked imposedDisplacement log = c.motionsFrom (receivedMotion log)
  paired : InPairs log
  counts : (receivedMotion log).length = (picked computedForces log).length
  previousForce : d.session.previousForce =
    if c.session.isImplicit then c.session.previousForce
    else (picked computedForces log).getLast?.getD c.session.previousForce
  previousVelocity : d.session.previousVelocity =
    if c.session.isImplicit then c.session.previousVelocity
    else ((receivedMotion log).map Prod.snd).getLast?.getD c.session.previousVelocity
  dt : d.session.dt = c.session.dt

/-- The values of the sub-iterations of a step from here on.  Up to a failure they are those that
the generations give; if nothing fails, they are all of them. -/
structure Generated (c : Controller) (log : Log Coupling) (bad : Bool) (d : Controller) : Prop where
  forces : picked sentForces log <+:
    (picked computedForces log).map (predictedForces c.session.previousForce)
  motion : picked imposedDisplacement log <+: c.motionsFrom (receivedMotion log)
  forceSizes : ∀ force ∈ picked computedForces log, force.length = c.session.previousForce.length
  motionSizes : ∀ motion ∈ receivedMotion log,
    motion.1.length = c.session.previousVelocity.length ∧
      motion.2.length = c.session.previousVelocity.length
  whole : bad = false → c.Whole log d

theorem Exchanged.generated (h : Exchanged c log bad d) : Generated c log bad d := by
  cases h with
  | whole force displacement velocity computed sent paired received imposed sizes followed =>
    have forces : picked sentForces log =
        (picked computedForces log).map (predictedForces c.session.previousForce) := by
      rw [sent, computed]
      rfl
    have motion : picked imposedDisplacement log = c.motionsFrom (receivedMotion log) := by
      rw [imposed, received]
      exact (motionsFrom_cons c displacement velocity []).symm
    refine ⟨forces ▸ List.prefix_rfl, motion ▸ List.prefix_rfl, ?_, ?_,
      fun fine => ⟨forces, motion, paired, ?_, ?_, ?_, (followed fine).dt⟩⟩
    · rw [computed]
      exact List.forall_mem_singleton.2 sizes.1
    · rw [received]
      exact List.forall_mem_singleton.2 sizes.2
    · rw [received, computed]
      rfl
    · rw [(followed fine).previousForce, computed]
      rfl
    · rw [(followed fine).previousVelocity, received]
      rfl
  | broken force computed sent received imposed size =>
    have forces : picked sentForces log =
        (picked computedForces log).map (predictedForces c.session.previousForce) := by
      rw [sent, computed]
      rfl
    refine ⟨forces ▸ List.prefix_rfl, ?_, ?_, ?_, fun fine => by cases fine⟩
    · rw [imposed]
      exact List.nil_prefix
    · rw [computed]
      exact List.forall_mem_singleton.2 size
    · rw [received]
      exact List.forall_mem_nil _

theorem generated_nil (c : Controller) : Generated c [] false c := by
  refine ⟨List.prefix_rfl, List.nil_prefix, List.forall_mem_nil _, List.forall_mem_nil _,
    fun _ => ⟨rfl, (motionsFrom_nil c).symm, rfl, rfl, ?_, ?_, rfl⟩⟩
  · split <;> rfl
  · split <;> rfl

/-- In implicit coupling the generations from outside the step stay the same. -/
theorem Exchanged.append {later : Log Coupling} (h : Exchanged c log false d)
    (implicit : c.session.isImplicit = true) (implicit' : d.session.isImplicit = true)
    (onward : d.session.subIteration ≠ 0) (k : Generated d later bad e) :
    Generated c (log ++ later) bad e := by
  cases h with
  | whole force displacement velocity computed sent paired received imposed sizes followed =>
    have kept := followed rfl
    have forces : d.session.previousForce = c.session.previousForce :=
      kept.previousForce.trans (if_pos implicit)
    have velocities : d.session.previousVelocity = c.session.previousVelocity :=
      kept.previousVelocity.trans (if_pos implicit)
    -- only the displacement of this sub-iteration matters for the later ones
    have next : d.motionsFrom (receivedMotion later) =
        relaxations (c.nextMotion displacement velocity) (receivedMotion later) := by
      unfold motionsFrom
      rw [if_neg onward, kept.predicted]
    have computing : picked computedForces (log ++ later) =
        force :: picked computedForces later := by
      rw [picked_append, computed]
      rfl
    have sending : picked sentForces (log ++ later) =
        predictedForces c.session.previousForce force :: picked sentForces later := by
      rw [picked_append, sent]
      rfl
    have coming : receivedMotion (log ++ later) =
        (displacement, velocity) :: receivedMotion later := by
      rw [receivedMotion_append paired, received]
      rfl
    have imposing : picked imposedDisplacement (log ++ later) =
        c.nextMotion displacement velocity :: picked imposedDisplacement later := by
      rw [picked_append, imposed]
      rfl
    refine ⟨?_, ?_, ?_, ?_, fun fine => ?_⟩
    · rw [sending, computing, List.map_cons, ← forces]
      exact List.cons_prefix_cons.2 ⟨rfl, k.forces⟩
    · rw [imposing, coming, motionsFrom_cons, ← next]
      exact List.cons_prefix_cons.2 ⟨rfl, k.motion⟩
    · rw [computing, ← forces]
      exact List.forall_mem_cons.2 ⟨sizes.1.trans (congrArg List.length forces.symm), k.forceSizes⟩
    · rw [coming, ← velocities]
      rw [← velocities] at sizes
      exact List.forall_mem_cons.2 ⟨sizes.2, k.motionSizes⟩
    · have rest := k.whole fine
      refine ⟨?_, ?_, paired.append rest.paired, ?_, ?_, ?_, rest.dt.trans kept.dt⟩
      · rw [sending, computing, List.map_cons, ← forces, rest.sent]
      · rw [imposing, coming, motionsFrom_cons, ← next, rest.imposed]
      · rw [coming, computing, List.length_cons, List.length_cons, rest.counts]
      · rw [rest.previousForce, if_pos implicit', if_pos implicit, forces]
      · rw [rest.previousVelocity, if_pos implicit', if_pos implicit, velocities]

theorem SubIterations.generated {n : Nat} (h : SubIterations n c log bad d)
    (live : c.session.isTerminated = false) (found : c.session.isDryRun = false) (sound : c.Sound)
    (single : c.session.isImplicit = true ∨ n ≤ 1) (start : 0 ≤ c.session.subIteration.toInt)
    (room : c.session.subIteration.toInt + n ≤ Int32.maxValue.toInt) : Generated c log bad d := by
  induction h with
  | spent c => exact generated_nil c
  | last sub => exact (sub.exchanged live found sound).generated
  | @again n c d e first later bad worse sub on ih =>
    have there : c.standing.isGone = false := live
    have gone : d.session.isTerminated = bad :=
      (congrArg Standing.isGone sub.standing).trans
        ((Standing.isGone_after _ _).trans (by rw [there, Bool.false_or]))
    have exchanged := sub.exchanged live found sound
    cases bad with
    | true => cases sub.last_of_gone gone
    | false =>
      rw [Bool.false_or]
      -- explicit coupling has no later sub-iteration, and in implicit coupling a counter that can
      -- still be raised does not return to zero
      cases implicit : c.session.isImplicit with
      | false =>
        rw [implicit] at single
        obtain rfl : n = 0 := by
          rcases single with wrong | few
          · cases wrong
          · omega
        cases on
        rw [List.append_nil]
        exact exchanged.generated
      | true =>
        have notFull : c.session.subIteration ≠ Int32.maxValue := by
          intro full
          rw [full] at room
          omega
        have counted : d.session.subIteration.toInt = c.session.subIteration.toInt + 1 := by
          cases exchanged with
          | whole _ _ _ _ _ _ _ _ _ followed =>
            rw [(followed rfl).subIteration, toInt_add_one notFull]
        have onward : d.session.subIteration ≠ 0 := by
          intro zero
          rw [zero] at counted
          have none : (0 : Int32).toInt = 0 := rfl
          omega
        have implicit' := sub.akin.isImplicit.trans implicit
        exact exchanged.append implicit implicit' onward
          (ih gone (sub.akin.isDryRun.trans found) (sub.akin.sound sound) (.inl implicit')
            (by omega) (by omega))

/-! ## Laps -/

theorem picked_computedForces_of_none (h : ∀ x ∈ log, x.request.computesForces = false) :
    picked computedForces log = [] := by
  refine List.filterMap_eq_nil_iff.2 fun x member => ?_
  obtain ⟨request, reply⟩ := x
  have other := h _ member
  cases request <;> first | rfl | cases other

/-- Each sub-iteration computes the forces once, with or without the peer. -/
theorem SubIterated.computed {last : Bool} (h : SubIterated c log bad last d) :
    ∃ force, picked computedForces log = [force] ∧ force.length = c.session.force.length := by
  cases h with
  | @stages reply _ _ _ _ _ _ forces motion flag =>
    refine ⟨overwrite c.session.force reply.2, ?_, length_overwrite _ _⟩
    rw [← List.singleton_append, picked_append, picked_append, picked_append,
      picked_computedForces_of_none fun _ => forces.computesForces,
      picked_computedForces_of_none fun _ => motion.computesForces,
      picked_computedForces_of_none fun _ => computesForces_imposition]
    rfl

theorem SubIterations.length_computed {n : Nat} (h : SubIterations n c log bad d) :
    (picked computedForces log).length ≤ n := by
  induction h with
  | spent => exact Nat.le_refl 0
  | last sub =>
    obtain ⟨force, computed, -⟩ := sub.computed
    rw [computed]
    exact Nat.succ_le_succ (Nat.zero_le _)
  | again sub _ ih =>
    obtain ⟨force, computed, -⟩ := sub.computed
    rw [picked_append, computed, List.length_append, List.length_singleton]
    omega

theorem SubIterations.computed_pos {n : Nat} (h : SubIterations n c log bad d) (some : 0 < n) :
    0 < (picked computedForces log).length := by
  cases h with
  | spent => cases some
  | last sub =>
    obtain ⟨force, computed, -⟩ := sub.computed
    rw [computed]
    exact Nat.succ_pos 0
  | again sub =>
    obtain ⟨force, computed, -⟩ := sub.computed
    rw [picked_append, computed]
    exact Nat.succ_pos _

theorem SubIterated.isTerminated {last : Bool} (h : SubIterated c log bad last d)
    (gone : c.session.isTerminated = true) : d.session.isTerminated = true := by
  have there : c.standing.isGone = true := gone
  exact (congrArg Standing.isGone h.standing).trans
    ((congrArg Standing.isGone (Standing.after_of_isGone there _)).trans there)

/-- Without the peer nothing is passed on. -/
theorem SubIterations.silent {n : Nat} (h : SubIterations n c log bad d)
    (gone : c.session.isTerminated = true) (found : c.session.isDryRun = false) :
    picked sentForces log = [] ∧ picked imposedDisplacement log = [] ∧
      ∀ wanted, picked (receivedField wanted) log = [] := by
  cases h with
  | spent => exact ⟨rfl, rfl, fun _ => rfl⟩
  | last sub => exact sub.silent gone found
  | again sub => cases sub.last_of_gone (sub.isTerminated gone)

theorem SubIterations.sizes_of_gone {n : Nat} (h : SubIterations n c log bad d)
    (gone : c.session.isTerminated = true) :
    ∀ force ∈ picked computedForces log, force.length = c.session.force.length := by
  cases h with
  | spent => exact List.forall_mem_nil _
  | last sub =>
    obtain ⟨force, computed, long⟩ := sub.computed
    rw [computed]
    exact List.forall_mem_singleton.2 long
  | again sub => cases sub.last_of_gone (sub.isTerminated gone)

/-- A step that has lost its peer computes the forces once more, and passes nothing on. -/
theorem SubIterations.generated_of_gone {n : Nat} {b : Controller} (h : SubIterations n c log bad d)
    (gone : c.session.isTerminated = true) (found : c.session.isDryRun = false)
    (size : c.session.force.length = b.session.previousForce.length) :
    Generated b log true e := by
  obtain ⟨sent, imposed, received⟩ := h.silent gone found
  refine ⟨?_, ?_, ?_, ?_, fun fine => by cases fine⟩
  · rw [sent]
    exact List.nil_prefix
  · rw [imposed]
    exact List.nil_prefix
  · exact fun force member => (h.sizes_of_gone gone force member).trans size
  · unfold receivedMotion
    rw [received, received]
    exact List.forall_mem_nil _

/-- A step has at most as many sub-iterations as a counter can hold, and just one in explicit
coupling. -/
theorem cap_le (s : Session) : (cap s).toNatClampNeg ≤ Int32.maxValue.toInt ∧
    (s.isImplicit = true ∨ (cap s).toNatClampNeg ≤ 1) := by
  have below : (cap s).toNatClampNeg ≤ Int32.maxValue.toInt := by
    have top := Int32.toInt_le (cap s)
    have high : Int32.maxValue.toInt = 2147483647 := rfl
    unfold Int32.toNatClampNeg
    omega
  refine ⟨below, ?_⟩
  unfold Session.isImplicit Parameters.isImplicit Parameters.scheme cap
  split
  · exact .inl rfl
  · exact .inr (Nat.le_refl 1)

section Entered

variable (c : Controller) (iteration : Int32) (dt : Float)

/-- Entering a step moves the lengths on and starts to count; all values are kept. -/
theorem session_entered : (c.entered iteration dt).session =
    { c.session with iteration, dt, previousDt := c.session.dt, subIteration := 0 } := rfl

theorem previousForce_entered :
    (c.entered iteration dt).session.previousForce = c.session.previousForce := by
  rw [session_entered]

theorem previousVelocity_entered :
    (c.entered iteration dt).session.previousVelocity = c.session.previousVelocity := by
  rw [session_entered]

theorem motionsFrom_entered : (c.entered iteration dt).motionsFrom =
    motions dt c.session.dt c.session.previousVelocity := by
  funext fields
  unfold motionsFrom
  rw [session_entered]
  exact if_pos rfl

end Entered

/-- The values of a lap that begins with a peer. -/
theorem Lapped.generated {dt : Float} (h : Lapped c log bad dt d) (room : c.standing.Room)
    (live : c.session.isTerminated = false) (found : c.session.isDryRun = false) (sound : c.Sound) :
    Generated (c.entered (c.session.iteration + 1) dt) log bad d := by
  cases h with
  | @stages bad worse _ d e begun subs =>
    have found' : d.session.isDryRun = false := begun.kin.isDryRun.trans found
    have sound' := begun.kin.sound sound
    cases begun with
    | gone gone =>
      rw [live] at gone
      cases gone
    | agreed =>
      have onward : (c.entered (c.session.iteration + 1) dt).session.isTerminated = false :=
        decide_eq_false (Int32.not_lt.2 (Int32.le_of_lt (room live)))
      obtain ⟨below, single⟩ := cap_le (c.entered (c.session.iteration + 1) dt).session
      have zero : (c.entered (c.session.iteration + 1) dt).session.subIteration.toInt = 0 := rfl
      have generated := subs.generated onward found' sound' single (Int.le_of_eq zero.symm)
        (by rw [zero, Int.zero_add]; exact below)
      exact { generated with whole := fun fine => { generated.whole fine with } }
    | lost =>
      have size : (c.entered (-1) dt).session.force.length =
          (c.entered (c.session.iteration + 1) dt).session.previousForce.length := by
        rw [session_entered, previousForce_entered]
        exact sound.buffers.previousForce.symm
      exact subs.generated_of_gone rfl found' size

/-- A lap computes the forces at least once, and just once in explicit coupling. -/
theorem Lapped.computed {dt : Float} (h : Lapped c log bad dt d) :
    0 < (picked computedForces log).length ∧
      (c.session.isImplicit = false → (picked computedForces log).length = 1) := by
  cases h with
  | @stages _ _ _ d _ begun subs =>
    have some := subs.computed_pos (cap_pos d.session)
    refine ⟨some, fun explicit => ?_⟩
    have most := subs.length_computed
    rcases (cap_le d.session).2 with implicit | few
    · rw [begun.kin.isImplicit, explicit] at implicit
      cases implicit
    · omega

theorem Lapped.silent {dt : Float} (h : Lapped c log bad dt d)
    (gone : c.session.isTerminated = true) (found : c.session.isDryRun = false) :
    picked sentForces log = [] ∧ picked imposedDisplacement log = [] := by
  cases h with
  | stages begun subs =>
    have found' := begun.kin.isDryRun.trans found
    cases begun with
    | gone =>
      obtain ⟨sent, imposed, -⟩ := subs.silent gone found'
      exact ⟨sent, imposed⟩
    | agreed live =>
      rw [gone] at live
      cases live
    | lost live =>
      rw [gone] at live
      cases live

end Controller

/-! ## Whole runs -/

/-- What the step before has left: its last values in explicit coupling, and zeros if there is none
or the coupling is implicit. -/
def leftBy (s : Session) (count : Nat) (values : Log Coupling → List (List Float))
    (earlier : List Lap) : List Float :=
  if s.isImplicit then Session.zeroVectors count
  else (earlier.getLast?.bind fun lap => (values lap.log).getLast?).getD (Session.zeroVectors count)

def formerForces (s : Session) (earlier : List Lap) : List Float :=
  leftBy s s.faceCount (picked computedForces) earlier

def receivedVelocities (log : Log Coupling) : List (List Float) := (receivedMotion log).map Prod.snd

def formerVelocities (s : Session) (earlier : List Lap) : List Float :=
  leftBy s s.vertexCount receivedVelocities earlier

/-- The length of the step before, or the reference step. -/
def formerStep (s : Session) (earlier : List Lap) : Float :=
  earlier.getLast?.elim s.parameters.referenceStep Lap.dt

theorem leftBy_nil (s : Session) (count : Nat) (values : Log Coupling → List (List Float)) :
    leftBy s count values [] = Session.zeroVectors count := by
  unfold leftBy
  split <;> rfl

theorem leftBy_append (s : Session) (count : Nat) {values : Log Coupling → List (List Float)}
    (earlier : List Lap) {lap : Lap} (some : values lap.log ≠ []) :
    leftBy s count values (earlier ++ [lap]) =
      if s.isImplicit then leftBy s count values earlier
      else (values lap.log).getLast?.getD (leftBy s count values earlier) := by
  unfold leftBy
  split
  · rfl
  · rw [List.getLast?_concat, Option.bind_some, List.getLast?_eq_some_getLast some]
    rfl

/-- The values of a step, by those of its own sub-iterations and of the step before.  Up to the
first failure of an exchange each one sent or imposed is the prediction; before it none is
missing. -/
structure Predicted (s : Session) (first : Log Coupling) (earlier : List Lap) (lap : Lap) :
    Prop where
  computed : 0 < (picked computedForces lap.log).length
  single : s.isImplicit = false → (picked computedForces lap.log).length = 1
  sent : picked sentForces lap.log <+:
    (picked computedForces lap.log).map (predictedForces (formerForces s earlier))
  imposed : picked imposedDisplacement lap.log <+:
    motions lap.dt (formerStep s earlier) (formerVelocities s earlier) (receivedMotion lap.log)
  forceSizes : (logs first earlier).any lossy = false →
    (formerForces s earlier).length = 3 * s.faceCount ∧
      ∀ force ∈ picked computedForces lap.log, force.length = 3 * s.faceCount
  motionSizes : (logs first earlier).any lossy = false →
    (formerVelocities s earlier).length = 3 * s.vertexCount ∧
      ∀ motion ∈ receivedMotion lap.log,
        motion.1.length = 3 * s.vertexCount ∧ motion.2.length = 3 * s.vertexCount
  allSent : (logs first (earlier ++ [lap])).any lossy = false →
    picked sentForces lap.log =
      (picked computedForces lap.log).map (predictedForces (formerForces s earlier))
  allImposed : (logs first (earlier ++ [lap])).any lossy = false →
    picked imposedDisplacement lap.log =
      motions lap.dt (formerStep s earlier) (formerVelocities s earlier) (receivedMotion lap.log)
  counts : (logs first (earlier ++ [lap])).any lossy = false → InPairs lap.log ∧
    (receivedMotion lap.log).length = (picked computedForces lap.log).length

open Controller

variable {c d e : Controller} {first : Log Coupling} {laps : List Lap} {lap : Lap}

/-- What a live session keeps of the step before. -/
structure Remembers (s : Session) (laps : List Lap) (d : Controller) : Prop where
  forces : d.session.previousForce = formerForces s laps
  velocities : d.session.previousVelocity = formerVelocities s laps
  step : d.session.dt = formerStep s laps
  forceSize : d.session.previousForce.length = 3 * s.faceCount
  velocitySize : d.session.previousVelocity.length = 3 * s.vertexCount

/-- The values of a live lap. -/
theorem Underway.generated (h : Underway c first laps d) (turn : d.phase = .active)
    (live : d.session.isTerminated = false) (found : c.session.isDryRun = false)
    (lapped : Lapped d (carried lap.log) (lossy lap.log) lap.dt e) :
    Generated (d.entered (d.session.iteration + 1) lap.dt) lap.log (lossy lap.log) e := by
  have generated := lapped.generated (h.room turn) live (h.kin.isDryRun.trans found) h.sound
  have paired (h : InPairs (carried lap.log)) : InPairs lap.log :=
    h.congr fun wanted => (receivedField_carried wanted lap.log).symm
  obtain ⟨forces, motion, forceSizes, motionSizes, whole⟩ := generated
  rw [sentForces_carried, computedForces_carried] at forces
  rw [imposedDisplacement_carried, receivedMotion_carried] at motion
  rw [computedForces_carried] at forceSizes
  rw [receivedMotion_carried] at motionSizes
  refine ⟨forces, motion, forceSizes, motionSizes, fun fine => ?_⟩
  obtain ⟨sent, imposed, both, counts, previousForce, previousVelocity, dt⟩ := whole fine
  rw [sentForces_carried, computedForces_carried] at sent
  rw [imposedDisplacement_carried, receivedMotion_carried] at imposed
  rw [computedForces_carried, receivedMotion_carried] at counts
  rw [computedForces_carried] at previousForce
  rw [receivedMotion_carried] at previousVelocity
  exact ⟨sent, imposed, paired both, counts, previousForce, previousVelocity, dt⟩

/-- No exchange has failed up to a step and in it. -/
theorem calm_logs_append :
    (logs first (laps ++ [lap])).any lossy = false ↔
      (logs first laps).any lossy = false ∧ lossy lap.log = false := by
  rw [any_logs_append, Bool.or_eq_false_iff]

theorem Underway.predicted (h : Underway c first laps d) (turn : d.phase = .active)
    (found : c.session.isDryRun = false)
    (keeps : d.session.isTerminated = false → Remembers c.session laps d)
    (lapped : Lapped d (carried lap.log) (lossy lap.log) lap.dt e) :
    Predicted c.session first laps lap := by
  have counted := lapped.computed
  rw [computedForces_carried, h.kin.isImplicit] at counted
  cases live : d.session.isTerminated with
  | true =>
    have failed : (logs first laps).any lossy = true := h.gone.symm.trans live
    have silent := lapped.silent live (h.kin.isDryRun.trans found)
    rw [sentForces_carried, imposedDisplacement_carried] at silent
    have never {P : Prop} (calm : (logs first laps).any lossy = false) : P := by
      rw [failed] at calm
      cases calm
    have never' {P : Prop} (calm : (logs first (laps ++ [lap])).any lossy = false) : P :=
      never (calm_logs_append.1 calm).1
    refine ⟨counted.1, counted.2, ?_, ?_, never, never, never', never', never'⟩
    · rw [silent.1]
      exact List.nil_prefix
    · rw [silent.2]
      exact List.nil_prefix
  | false =>
    have kept := keeps live
    have generated := h.generated turn live found lapped
    have forces := (previousForce_entered d (d.session.iteration + 1) lap.dt).trans kept.forces
    have velocities :=
      (previousVelocity_entered d (d.session.iteration + 1) lap.dt).trans kept.velocities
    have motion := motionsFrom_entered d (d.session.iteration + 1) lap.dt
    rw [kept.step, kept.velocities] at motion
    obtain ⟨sent, imposed, forceSizes, motionSizes, whole⟩ := generated
    have size := kept.forces ▸ kept.forceSize
    have size' := kept.velocities ▸ kept.velocitySize
    rw [forces] at sent
    rw [motion] at imposed
    rw [forces, size] at forceSizes
    rw [velocities, size'] at motionSizes
    refine ⟨counted.1, counted.2, sent, imposed, fun _ => ⟨size, forceSizes⟩,
      fun _ => ⟨size', motionSizes⟩, fun calm => ?_, fun calm => ?_, fun calm => ?_⟩
    · rw [← forces]
      exact (whole (calm_logs_append.1 calm).2).sent
    · rw [← motion]
      exact (whole (calm_logs_append.1 calm).2).imposed
    · exact ⟨(whole (calm_logs_append.1 calm).2).paired, (whole (calm_logs_append.1 calm).2).counts⟩

/-- Values of one length keep it. -/
theorem length_getLast?_getD {values : List (List Float)} {former : List Float} {n : Nat}
    (h : ∀ value ∈ values, value.length = n) (k : former.length = n) :
    (values.getLast?.getD former).length = n := by
  cases last : values.getLast? with
  | none => exact k
  | some value => exact h value (List.mem_of_getLast? last)

/-- A live lap leaves what the next step needs. -/
theorem Underway.keeps (h : Underway c first laps d) (turn : d.phase = .active)
    (found : c.session.isDryRun = false)
    (keeps : d.session.isTerminated = false → Remembers c.session laps d)
    (lapped : Lapped d (carried lap.log) (lossy lap.log) lap.dt e)
    (live : e.session.isTerminated = false) : Remembers c.session (laps ++ [lap]) e := by
  have calm : (logs first (laps ++ [lap])).any lossy = false :=
    (h.lapped turn lapped).gone.symm.trans live
  obtain ⟨before, fine⟩ := calm_logs_append.1 calm
  have live' : d.session.isTerminated = false := h.gone.trans before
  have kept := keeps live'
  have whole := (h.generated turn live' found lapped).whole fine
  have predicted := h.predicted turn found keeps lapped
  have implicit : (d.entered (d.session.iteration + 1) lap.dt).session.isImplicit =
      c.session.isImplicit := by
    rw [session_entered]
    exact h.kin.isImplicit
  have computed : picked computedForces lap.log ≠ [] := List.length_pos_iff.1 predicted.computed
  have received : receivedVelocities lap.log ≠ [] := by
    refine List.length_pos_iff.1 ?_
    unfold receivedVelocities
    rw [List.length_map, (predicted.counts calm).2]
    exact predicted.computed
  have forces := whole.previousForce
  have velocities := whole.previousVelocity
  rw [implicit, previousForce_entered] at forces
  rw [implicit, previousVelocity_entered] at velocities
  refine ⟨?_, ?_, ?_, ?_, ?_⟩
  · rw [forces, kept.forces]
    exact (leftBy_append _ _ _ computed).symm
  · rw [velocities, kept.velocities]
    exact (leftBy_append _ _ _ received).symm
  · unfold formerStep
    rw [List.getLast?_concat]
    exact whole.dt
  · rw [forces]
    split
    · exact kept.forceSize
    · exact length_getLast?_getD (predicted.forceSizes before).2 kept.forceSize
  · rw [velocities]
    split
    · exact kept.velocitySize
    · refine length_getLast?_getD (fun velocity member => ?_) kept.velocitySize
      obtain ⟨motion, within, rfl⟩ := List.mem_map.1 member
      exact ((predicted.motionSizes before).2 motion within).2

theorem Driven.predicted (registered : c.Registered) (found : c.session.isDryRun = false)
    (forces : c.session.previousForce = Session.zeroVectors c.session.faceCount)
    (velocities : c.session.previousVelocity = Session.zeroVectors c.session.vertexCount)
    (step : c.session.dt = c.session.parameters.referenceStep) (driven : Driven c first laps d)
    (orderly : AllOrderly c.place (logs first laps)) :
    Underway c first laps d ∧ (d.session.isTerminated = false → Remembers c.session laps d) ∧
      ∀ i lap, laps[i]? = some lap → Predicted c.session first (laps.take i) lap := by
  have long (count : Nat) : (Session.zeroVectors count).length = 3 * count := List.length_replicate
  refine Driven.induct (P := fun laps d =>
      (d.session.isTerminated = false → Remembers c.session laps d) ∧
      ∀ i lap, laps[i]? = some lap → Predicted c.session first (laps.take i) lap)
    registered ⟨fun live => ?_, fun i lap found => by cases found⟩
    (fun laps lap d e underway turn lapped so => ?_)
    driven orderly
  · cases failed : lossy first with
    | true =>
      rw [failed] at live
      have gone : (c.opened true).session.isTerminated = true := isTerminated_lost c.staged
      rw [gone] at live
      cases live
    | false =>
      refine ⟨forces.trans (leftBy_nil _ _ _).symm, velocities.trans (leftBy_nil _ _ _).symm, step,
        ?_, ?_⟩
      · exact (congrArg List.length forces).trans (long _)
      · exact (congrArg List.length velocities).trans (long _)
  · exact ⟨underway.keeps turn found so.1 lapped,
      forall_laps_append so.2 (underway.predicted turn found so.1 lapped)⟩

/-- Which values the predictions of a run with a peer use.  In every step that a driver makes, the
forces that are sent combine those that the solver has just computed with those of the step before;
the first displacement that is imposed extrapolates along the velocities that have just come and
those of the step before, with the lengths of both steps; each further one is relaxed against the
one before it.  In implicit coupling zeros stand for all values of the step before.  The same holds
of a step that is broken off since no residual can be computed. -/
theorem predictions_follow {place : Parallel.Place} {peer : Discovery.Peer}
    {parameters : Parameters} {surface : Surface} {length : Float} {steps : Int32} {time : Float}
    {session : Session} {run : RunControl} {registering : Log Coupling} (found : peer.found = true)
    (registered : (Session.register place surface length).Runs (Session.new parameters peer)
      registering (.ok ()) session)
    (started : RunControl.start steps time = .ok run) {first : Log Coupling} {laps : List Lap}
    {d : Controller} (driven : Driven { place, session, run } first laps d)
    (orderly : AllOrderly place (logs first laps)) :
    (∀ i lap, laps[i]? = some lap → Predicted session first (laps.take i) lap) ∧
    ∀ own log result e, d.phase = .active → (Controller.lap own).Runs d log result e →
      AllOrderly place [log] →
      Predicted session first laps ⟨log, e.stepDt⟩ ∧ ∀ dt, result = .ok dt → dt = e.stepDt := by
  obtain ⟨fresh, -, -⟩ := registered_of_register registered started
  obtain ⟨faces, vertices, rfl⟩ := runs_register registered
  have present := congrArg not found
  obtain ⟨underway, keeps, predicted⟩ :=
    driven.predicted fresh present rfl rfl rfl orderly
  refine ⟨predicted, fun own log result e turn lapping calm => ?_⟩
  have here := calm log List.mem_cons_self
  rw [← show d.place = place from underway.kin.place] at here
  obtain ⟨f, lapped, same⟩ :=
    lapped_of_runs turn (underway.room turn) underway.sound lapping here
  exact ⟨underway.predicted turn present keeps lapped, fun dt value => (same dt value).1⟩

namespace Growing

/-- All is well, and all values grow. -/
def reply : (request : Request) → request.Reply
  | .computeForces _ _ buffer => (.ok (), buffer.map (· + 1.0))
  | .receiveField _ _ buffer => .ok (Status.ok, buffer.map (· + 1.0))
  | request => echo Status.ok request

def start : Controller where
  place := {}
  session := EchoedRun.registered.2.2
  run := { lastStep := 2, previousTime := 0.0, time := 0.0 }

def begun : Log Coupling × Except Fault Unit × Controller := (Controller.begin start).follow reply

def former : Log Coupling × Except Fault Float × Controller :=
  (Controller.lap 0.5 begun.2.2).follow reply

def latter : Log Coupling × Except Fault Float × Controller :=
  (Controller.lap 0.25 former.2.2).follow reply

theorem driven_growing : Driven start begun.1 [⟨former.1, 0.0⟩, ⟨latter.1, 0.0⟩] latter.2.2 := by
  have begins : Controller.begin.Runs start begun.1 (.ok ()) begun.2.2 :=
    Act.runs_follow (I := Coupling) reply _ _
  have one : (Controller.lap 0.5).Runs begun.2.2 former.1 (.ok 0.0) former.2.2 :=
    Act.runs_follow (I := Coupling) reply _ _
  have two : (Controller.lap 0.25).Runs former.2.2 latter.1 (.ok 0.0) latter.2.2 :=
    Act.runs_follow (I := Coupling) reply _ _
  exact ((Driven.begun begins).lap rfl one).lap rfl two

theorem allOrderly_growing :
    AllOrderly {} (logs begun.1 [⟨former.1, 0.0⟩, ⟨latter.1, 0.0⟩]) := by
  intro log member e within
  have followed : e = ⟨e.request, reply e.request⟩ := by
    rcases List.mem_cons.1 member with rfl | member
    · exact Program.mem_follow within
    · rcases List.mem_cons.1 member with rfl | member
      · exact Program.mem_follow within
      · obtain rfl := List.mem_singleton.1 member
        exact Program.mem_follow within
  exact orderly_of_answers (fun request => by cases request <;> rfl) (fun _ => rfl)
    (fun _ _ _ => rfl) (fun _ _ => rfl) (fun _ own => ⟨own, rfl⟩) followed

/-- In the second of two explicit steps the forces of the first are used. -/
theorem predictions_follow_growing : ∃ earlier current,
    picked computedForces former.1 = [earlier] ∧ picked computedForces latter.1 = [current] ∧
      picked sentForces latter.1 = [predictedForces earlier current] := by
  have registering : (Session.register {} EchoedRun.surface 1.0).Runs
      (Session.new {} { root := 1 }) EchoedRun.registered.1 (.ok ()) EchoedRun.registered.2.2 :=
    Act.runs_follow (I := Coupling) (echo Status.ok) _ _
  have calm : (logs begun.1 [⟨former.1, 0.0⟩, ⟨latter.1, 0.0⟩]).any lossy = false := by decide
  have so := (predictions_follow rfl registering (rfl : RunControl.start 2 0.0 = .ok start.run)
    driven_growing allOrderly_growing).1 1 ⟨latter.1, 0.0⟩ rfl
  refine ⟨_, _, rfl, rfl, ?_⟩
  exact so.allSent calm

end Growing

end FluidStructure.Coupling
