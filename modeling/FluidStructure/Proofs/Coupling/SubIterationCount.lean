import FluidStructure.Proofs.Coupling.Plan
import FluidStructure.Proofs.Coupling.Readiness
import FluidStructure.Proofs.Coupling.Stagewise
import FluidStructure.Proofs.Coupling.Values
import FluidStructure.Proofs.Coupling.Verdict

/-!
# The number of sub-iterations

A step makes its sub-iterations one after the other, and the solver is shown their number while they
are made.  The first one after which the peer is gone, or the group has decided that both sides have
converged, or as many as allowed have been made, is the last.
-/

namespace FluidStructure

/-- However the surroundings reply, also with a memory of what has been asked, a program ends. -/
theorem Program.exists_run {I : Interface} {α : Type}
    (reply : Log I → (request : I.Request) → I.Reply request) (p : Program I α) :
    ∃ log value, p.Runs log value ∧ ∀ before e after, log = before ++ e :: after →
      e = ⟨e.request, reply before e.request⟩ := by
  induction p generalizing reply with
  | done value =>
    refine ⟨[], value, .done value, fun before e after same => ?_⟩
    simp at same
  | ask request next ih =>
    let own : Exchange I := ⟨request, reply [] request⟩
    obtain ⟨log, value, run, replied⟩ := ih own.reply fun before => reply (own :: before)
    refine ⟨own :: log, value, .ask _ run, fun before e after same => ?_⟩
    cases before with
    | nil =>
      obtain ⟨rfl, -⟩ := List.cons.inj same
      rfl
    | cons first before =>
      obtain ⟨rfl, rest⟩ := List.cons.inj same
      exact replied before e after rest

namespace Coupling

open FluidStructure.Channel FluidStructure.Journal

namespace Controller

variable {c d : Controller} {log : Log Coupling}

/-! ## Up to the flag -/

/-- The sub-iteration stays the same and is the one that the solver is shown; no flag is sent. -/
structure Numbered (c : Controller) (log : Log Coupling) (d : Controller) : Prop where
  same : d.session.subIteration = c.session.subIteration
  shown : ∀ e ∈ log, ∀ s, e.request.shown? = some s → s.subIteration = c.session.subIteration
  flagless : sentFlags log = []

theorem numbered : Act.Transitive Numbered where
  refl := fun _ => ⟨rfl, List.forall_mem_nil _, rfl⟩
  trans := by
    intro c first d second e h k
    refine ⟨k.same.trans h.same, fun f member s shown => ?_, ?_⟩
    · rcases List.mem_append.1 member with here | here
      · exact h.shown f here s shown
      · exact (k.shown f here s shown).trans h.same
    · rw [sentFlags_append, h.flagless, k.flagless]
      rfl

/-- Apart from notices nothing is asked. -/
theorem numbered_of_said (quiet : said log = [])
    (same : d.session.subIteration = c.session.subIteration) : Numbered c log d where
  same := same
  shown := by
    intro e member s shown
    have heard := mem_said_of_shown member shown
    rw [quiet] at heard
    cases heard
  flagless := by
    rw [← sentFlags_said, quiet]
    rfl

theorem numbered_perform {request : Request} (hides : request.shown? = none)
    (flagless : ∀ reply, sentFlag ⟨request, reply⟩ = none) :
    (Act.perform (I := Coupling) request).Keeps Numbered := by
  refine Act.keeps_perform fun c reply => ⟨rfl, List.forall_mem_singleton.2 fun s shown => ?_, ?_⟩
  · rw [hides] at shown
    cases shown
  · exact List.filterMap_cons_none (flagless reply)

theorem stagewise_numbered : Act.Stagewise Numbered where
  toTransitive := numbered
  aside := fun noted alongside => numbered_of_said (said_of_noted noted) alongside.subIteration
  sent := fun _ _ _ => numbered_perform rfl fun _ => rfl
  received := fun _ _ _ => numbered_perform rfl fun _ => rfl
  lost := fun _ => numbered_of_said rfl rfl

theorem numbered_computeForces : computeForces.Keeps Numbered := by
  intro c log result d run
  obtain ⟨reply, rfl, -, rfl⟩ := runs_computeForces run
  refine ⟨rfl, List.forall_mem_singleton.2 fun s shown => ?_, rfl⟩
  exact congrArg Session.subIteration (Option.some.inj shown).symm

theorem numbered_imposeDisplacement : imposeDisplacement.Keeps Numbered := by
  intro c log result d run
  obtain ⟨rfl, rfl⟩ := runs_imposeDisplacement run
  refine ⟨rfl, List.forall_mem_singleton.2 fun s shown => ?_, rfl⟩
  exact congrArg Session.subIteration (Option.some.inj shown).symm

theorem numbered_move : move.Keeps Numbered :=
  numbered.bind numbered_computeForces fun _ => numbered.bind stagewise_numbered.sendForces fun _ =>
    numbered.bind stagewise_numbered.receiveDisplacement fun _ =>
    numbered.bind stagewise_numbered.predictDisplacement fun _ =>
    numbered.unlessTerminated numbered_imposeDisplacement

/-! ## Values of the motion -/

theorem ForcesSent.silent (h : ForcesSent c log d) :
    (∀ wanted, picked (receivedField wanted) log = []) ∧ picked imposedDisplacement log = [] := by
  cases h <;> exact ⟨fun _ => rfl, rfl⟩

/-- Motion that comes is the motion of the session. -/
theorem MotionReceived.displacement (h : MotionReceived c log d) (sound : c.Sound) :
    ∀ motion ∈ receivedMotion log, d.session.displacement = motion.1 := by
  cases h with
  | dry | gone => exact List.forall_mem_nil _
  | first _ _ received failed =>
    rw [receivedMotion_first failed]
    exact List.forall_mem_nil _
  | both _ _ first second fine =>
    rw [receivedMotion_both fine]
    cases failed : Status.failed second.1 with
    | true => exact List.forall_mem_nil _
    | false =>
      refine List.forall_mem_singleton.2 ?_
      rw [if_neg (by decide)]
      exact overwrite_of_eq ((length_overwrite _ _).trans sound.staging)

theorem displacement_projected (c : Controller) :
    c.projected.session.displacement = c.session.displacement := by
  unfold projected
  split <;> rfl

theorem picked_imposition (c : Controller) :
    (∀ wanted, picked (receivedField wanted) c.imposition = []) ∧
      picked imposedDisplacement c.imposition =
        if c.session.isTerminated then [] else [c.session.predictedDisplacement] := by
  unfold imposition
  split <;> exact ⟨fun _ => rfl, rfl⟩

/-- The motion of a sub-iteration: what has come is what is judged, and what is predicted is
imposed. -/
theorem runs_move_values {result : Except Fault Unit} (mid : c.Midstep)
    (run : move.Runs c log result d) (benign : ∀ e ∈ log, Benign e) :
    c.Akin d ∧ (∀ motion ∈ receivedMotion log, d.session.displacement = motion.1) ∧
      picked imposedDisplacement log =
        if d.session.isTerminated then [] else [d.session.predictedDisplacement] := by
  obtain ⟨-, reply, sent, received, e, f, forces, motion, rfl, values, -⟩ :=
    runs_move mid.turn mid.toSound run benign
  have sound : e.Sound := forces.akin.sound ((akin_loaded c reply.2).sound mid.toSound)
  obtain ⟨unsent, unsent'⟩ := forces.silent
  obtain ⟨-, -, unimposed⟩ := motion.silent
  obtain ⟨imposes, imposes'⟩ := picked_imposition f.projected
  have fields (wanted : String) : picked (receivedField wanted) (carried log) =
      picked (receivedField wanted) received := by
    rw [values, ← List.singleton_append, picked_append, picked_append, picked_append, unsent,
      imposes, List.append_nil]
    rfl
  refine ⟨(akin_loaded c _).trans <| forces.akin.trans <| motion.akin.trans (akin_projected f),
    ?_, ?_⟩
  · rw [displacement_projected, ← receivedMotion_carried, receivedMotion_congr fields]
    exact motion.displacement sound
  · rw [← imposedDisplacement_carried, values, ← List.singleton_append, picked_append,
      picked_append, picked_append, unsent', unimposed, imposes']
    rfl

end Controller

open Controller

/-! ## Rounds -/

/-- A sub-iteration that has been made: the controller before, the exchanges, the controller when
the convergence is judged, what is heard then, and the controller after. -/
structure Round where
  before : Controller
  log : Log Coupling
  judged : Controller
  verdict : Verdict
  after : Controller

namespace Round

variable (r : Round)

/-- The flag of this rank. -/
def flag : Bool := r.verdict.flag r.judged

/-- What the group has decided. -/
def decision : Bool := r.verdict.decision r.judged

/-- Is the sub-iteration the last one? -/
def isLast : Bool := isDone r.after.session r.decision

/-- What ends a step with its k-th sub-iteration, if there may be so many at most: the peer is gone,
both sides have converged, or there may be no more. -/
def Ends (most k : Nat) : Prop :=
  r.after.session.isTerminated = true ∨ r.decision = true ∨ k = most

/-- The sub-iteration has been made.  What is judged is the motion that has come and the one that is
imposed, the peer is sent the own flag alone, and the solver is shown the sub-iteration before it is
counted. -/
structure Made : Prop where
  run : subIterate.Runs r.before r.log (.ok r.isLast) r.after
  akin : r.before.Akin r.after
  received : ∀ motion ∈ receivedMotion r.log, r.judged.session.displacement = motion.1
  imposed : picked imposedDisplacement r.log =
    if r.judged.session.isTerminated then [] else [r.judged.session.predictedDisplacement]
  heard : r.verdict.exchanges r.judged <:+ said r.log
  flags : sentFlags r.log =
    if r.judged.session.isConnected && r.judged.place.isRoot then [[if r.flag then 1 else 0]]
    else []
  shown : ∀ e ∈ r.log, ∀ s, e.request.shown? = some s →
    s.subIteration = r.before.session.subIteration
  after : r.after = (r.verdict.after r.judged).concluded
  counted : r.after.session.subIteration = r.before.session.subIteration + 1
  gone : r.before.session.isTerminated = true → r.after.session.isTerminated = true

end Round

section Rounds

variable {c d : Controller} {log : Log Coupling} {r : Round} {rounds : List Round} {most n : Nat}

/-- Every sub-iteration is a round. -/
theorem exists_round {result : Except Fault Bool} (mid : c.Midstep)
    (run : subIterate.Runs c log result d) (benign : ∀ e ∈ log, Benign e) :
    ∃ r : Round, r.before = c ∧ r.log = log ∧ r.after = d ∧ r.Made ∧ result = .ok r.isLast := by
  obtain ⟨last, bad, rfl, sub, -⟩ :=
    runs_subIterate_benign mid.turn mid.toSound mid.assessable run benign
  have parts := run
  rw [subIterate_eq] at parts
  obtain ⟨first, _, e, second, rfl, moving, calm, onward, later⟩ := runs_calm_bind parts benign
    fun _ _ _ h k => ⟨(), (runs_move mid.turn mid.toSound h k).1⟩
  obtain ⟨akin, received, imposed⟩ := runs_move_values mid moving calm
  have counting := numbered_move _ _ _ _ moving
  have mid' : e.Midstep := mid.akin akin
  obtain ⟨exchanging, decision, f, concluding, rfl, exchanged, calm', concluded, -⟩ :=
    runs_calm_bind onward later fun _ _ _ h k =>
      (runs_exchangeConvergence mid'.turn mid'.toSound mid'.assessable h k).1
  obtain ⟨-, carries, -⟩ :=
    runs_exchangeConvergence mid'.turn mid'.toSound mid'.assessable exchanged calm'
  obtain ⟨v, same, heard, rfl⟩ :=
    runs_exchangeConvergence_verdict mid'.turn mid'.toSound mid'.assessable exchanged calm'
  obtain rfl := Except.ok.inj same
  obtain ⟨same, rfl, rfl⟩ := runs_conclude concluded
  obtain rfl := Except.ok.inj same
  rw [List.append_nil] at run ⊢
  -- the exchange of the flag carries no values
  have values : carried (first ++ exchanging) = carried first := by
    rw [carried_append, carries, List.append_nil]
  refine ⟨⟨c, first ++ exchanging, e, v, _⟩, rfl, rfl, rfl,
    ⟨run, sub.akin, ?_, ?_, ?_, ?_, ?_, rfl, sub.counts.1, ?_⟩, rfl⟩
  · rw [← receivedMotion_carried, values, receivedMotion_carried]
    exact received
  · rw [← imposedDisplacement_carried, values, imposedDisplacement_carried]
    exact imposed
  · rw [said_append, heard]
    exact List.suffix_append _ _
  · rw [sentFlags_append, counting.flagless, ← sentFlags_said, heard, v.sentFlags_exchanges e]
    rfl
  · intro x member s shown
    rcases List.mem_append.1 member with here | here
    · exact counting.shown x here s shown
    · rw [v.shown_exchanges e (heard ▸ mem_said_of_shown here shown) shown]
      exact counting.same
  · intro gone
    have standing := congrArg Standing.isGone sub.standing
    rw [Standing.isGone_after, isGone_standing, isGone_standing] at standing
    exact standing.trans (by rw [gone]; rfl)

/-- Where a broadcast hands back what is there, as it does on rank 0, the group decides on both
flags. -/
theorem Round.Made.decision_eq (made : r.Made) (compliant : ∀ e ∈ r.log, Compliant e) :
    r.decision = (r.flag && r.verdict.peer) := by
  refine r.verdict.decision_of_shared r.judged ?_
  have shared : (⟨.broadcastInts [r.verdict.vote r.judged, r.verdict.outcome r.judged],
      .ok r.verdict.shared⟩ : Exchange Coupling) ∈ r.verdict.exchanges r.judged := by
    simp [Verdict.exchanges]
  exact compliant _ (List.mem_filter.1 (made.heard.subset shared)).1 _ rfl

/-- Rounds one after the other, up to one that is the last. -/
inductive Succession : Controller → List Round → Controller → Prop
  | last {r : Round} (made : r.Made) (done : r.isLast = true) : Succession r.before [r] r.after
  | again {r : Round} {rounds : List Round} {d : Controller} (made : r.Made)
      (more : r.isLast = false) (on : Succession r.after rounds d) :
      Succession r.before (r :: rounds) d

theorem exists_rounds (mid : c.Midstep) (subs : UntilLast c log d) (benign : ∀ e ∈ log, Benign e) :
    ∃ rounds, Succession c rounds d ∧ log = rounds.flatMap Round.log := by
  induction subs with
  | last run =>
    obtain ⟨r, rfl, rfl, rfl, made, same⟩ := exists_round mid run benign
    exact ⟨[r], .last made (Except.ok.inj same).symm, (List.append_nil _).symm⟩
  | again run _ ih =>
    obtain ⟨calm, later⟩ := List.forall_mem_append.1 benign
    obtain ⟨r, rfl, rfl, rfl, made, same⟩ := exists_round mid run calm
    obtain ⟨rounds, on, rfl⟩ := ih (mid.akin made.akin) later
    exact ⟨r :: rounds, .again made (Except.ok.inj same).symm on, rfl⟩

theorem Succession.length_pos (h : Succession c rounds d) : 0 < rounds.length := by
  cases h <;> exact Nat.succ_pos _

theorem Succession.head (h : Succession c rounds d) : ∃ r, rounds[0]? = some r ∧ r.before = c := by
  cases h <;> exact ⟨_, rfl, rfl⟩

/-- While there is room for a sub-iteration, the counter goes up by one, and the sub-iteration is
the last one if something ends the step. -/
theorem Round.Made.step (made : r.Made) (bound : (cap r.before.session).toNatClampNeg = most)
    (here : r.before.session.subIteration.toInt = n) (room : n < most) :
    r.after.session.subIteration.toInt = ↑(n + 1) ∧ (cap r.after.session).toNatClampNeg = most ∧
      (r.isLast = true ↔ r.Ends most (n + 1)) ∧ (r.isLast = false → n + 1 < most) := by
  have limit : cap r.after.session = cap r.before.session := made.akin.toKin.cap
  have top : ((cap r.before.session).toInt : Int) = most := by
    rw [← bound]
    exact (Int.toNat_of_nonneg (Int.le_of_lt (Int.lt_toNat.1 (cap_pos _)))).symm
  have below := (cap r.before.session).toInt_lt
  have next : r.after.session.subIteration.toInt = ↑(n + 1) := by
    rw [made.counted, toInt_add_one, here]
    · rfl
    · intro full
      have value : Int32.maxValue.toInt = 2 ^ 31 - 1 := rfl
      rw [full, value] at here
      omega
  have reached : cap r.after.session ≤ r.after.session.subIteration ↔ n + 1 = most := by
    rw [Int32.le_iff_toInt_le, next, limit, top]
    omega
  refine ⟨next, limit ▸ bound, ?_, fun more => ?_⟩
  · unfold Round.isLast isDone Round.Ends
    rw [Bool.or_eq_true, Bool.or_eq_true, decide_eq_true_iff, reached,
      or_comm (a := r.decision = true), or_assoc]
  · have unfilled : ¬ cap r.after.session ≤ r.after.session.subIteration :=
      of_decide_eq_false (Bool.or_eq_false_iff.1 more).2
    rw [reached] at unfilled
    omega

/-- The rounds of a step are numbered in order, and the last one is the first one at which
something ends the step. -/
theorem Succession.numbered (h : Succession c rounds d)
    (bound : (cap c.session).toNatClampNeg = most) (here : c.session.subIteration.toInt = n)
    (room : n < most) :
    d.session.subIteration.toInt = ↑(n + rounds.length) ∧ n + rounds.length ≤ most ∧
      ∀ i r, rounds[i]? = some r → r.Made ∧ r.before.session.subIteration.toInt = ↑(n + i) ∧
        (r.Ends most (n + i + 1) ↔ i + 1 = rounds.length) := by
  induction h generalizing n with
  | @last r made done =>
    obtain ⟨next, -, ends, -⟩ := made.step bound here room
    refine ⟨next, room, fun i q found => ?_⟩
    cases i with
    | zero =>
      obtain rfl := Option.some.inj found
      exact ⟨made, here, iff_of_true (ends.1 done) rfl⟩
    | succ i => cases found
  | @again r rounds d made more on ih =>
    obtain ⟨next, bound', ends, room'⟩ := made.step bound here room
    obtain ⟨total, most', each⟩ := ih bound' next (room' more)
    have shift (k : Nat) : n + 1 + k = n + (k + 1) := by omega
    rw [List.length_cons]
    rw [shift] at total most'
    refine ⟨total, most', fun i q found => ?_⟩
    cases i with
    | zero =>
      obtain rfl := Option.some.inj found
      have others := on.length_pos
      refine ⟨made, here, iff_of_false (fun ended => ?_) (by omega)⟩
      rw [ends.2 ended] at more
      cases more
    | succ i =>
      obtain ⟨made', here', ends'⟩ := each i q found
      rw [shift] at here' ends'
      refine ⟨made', here', ends'.trans ?_⟩
      omega

end Rounds

/-- A step of a run whose session has an interface with a positive reference length, whatever has
been done before, and whatever the peer and the solver reply, as long as the solver does not fault:
it comes to its end and consists of its beginning, of sub-iterations and of its leaving.  There are
as many sub-iterations as the first one has as its number after which the peer is gone, or that the
group decides to be the last, or that is the last allowed one.  The solver is shown the number of
the sub-iterations that are done, which at the end is that of all.  The peer is sent the own flag
alone, while the decision of rank 0 is on both flags.  Without a peer from the start there is just
one sub-iteration. -/
theorem subIterations_counted {place : Parallel.Place} {surface : Surface} {length : Float}
    {s : Session} {registering : Log Coupling} {c d : Controller} {doings : List Doing}
    (registered : (Session.register place surface length).Runs s registering (.ok ()) c.session)
    (early : c.phase = .uninitialized) (positive : (0.0 : Float) < length)
    (history : Doings c doings d) (held : d.session.isRegistered = true)
    (turn : d.phase = .active) (own : Float) :
    (∀ reply : Log Coupling → (request : Request) → request.Reply, ∃ log result e,
      (runStep own).Runs d log result e ∧ ∀ before x after, log = before ++ x :: after →
        x = ⟨x.request, reply before x.request⟩) ∧
    ∀ log result e, (runStep own).Runs d log result e → (∀ x ∈ log, Benign x) →
      ∃ first dt start rounds finish last,
        log = first ++ (rounds.flatMap Round.log ++ last) ∧
        (beginStep own).Runs d first (.ok dt) start ∧ Succession start rounds finish ∧
        leaveStep.Runs finish last result e ∧ result = .ok e.stepDt ∧
        e.session.subIteration.toInt = rounds.length ∧
        1 ≤ rounds.length ∧
        rounds.length ≤ max 1 d.session.parameters.maxSubIterations.toNatClampNeg ∧
        (∀ (i : Nat) r, rounds[i]? = some r → r.Made ∧
          r.before.session.subIteration.toInt = i ∧
          (∀ x ∈ r.log, ∀ t, x.request.shown? = some t → t.subIteration.toInt = i) ∧
          sentFlags r.log =
            (if r.judged.session.isConnected && r.judged.place.isRoot then
              [[if r.flag then 1 else 0]] else []) ∧
          ((∀ x ∈ r.log, Compliant x) → r.decision = (r.flag && r.verdict.peer)) ∧
          (r.Ends (max 1 d.session.parameters.maxSubIterations.toNatClampNeg) (i + 1) ↔
            i + 1 = rounds.length)) ∧
        (d.session.isTerminated = true ∨ start.session.isTerminated = true →
          rounds.length = 1) := by
  have equipped := equipped_of_doings registered early positive history held turn
  refine ⟨fun reply => ?_, fun log result e run benign => ?_⟩
  · obtain ⟨log, ⟨result, e⟩, run, replied⟩ :=
      Program.exists_run (I := Coupling) reply (runStep own d)
    exact ⟨log, result, e, run, replied⟩
  obtain ⟨first, second, last, dt, start, finish, rfl, beginning, kin, mid, zero, subs, -, leaving,
    rfl, rfl⟩ := runs_runStep_stages equipped turn run benign
  obtain ⟨calm, later⟩ := List.forall_mem_append.1 benign
  obtain ⟨during, -⟩ := List.forall_mem_append.1 later
  obtain ⟨rounds, succession, rfl⟩ := exists_rounds mid subs during
  have bound : (cap start.session).toNatClampNeg =
      max 1 d.session.parameters.maxSubIterations.toNatClampNeg := by
    rw [kin.cap, toNatClampNeg_cap]
  have here : start.session.subIteration.toInt = ((0 : Nat) : Int) := congrArg Int32.toInt zero
  obtain ⟨total, most, each⟩ := succession.numbered bound here (by omega)
  simp only [Nat.zero_add] at total most each
  have single (gone : start.session.isTerminated = true) : rounds.length = 1 := by
    obtain ⟨r, found, rfl⟩ := succession.head
    obtain ⟨made, -, ends⟩ := each 0 r found
    exact (ends.1 (.inl (made.gone gone))).symm
  refine ⟨first, dt, start, rounds, finish, last, rfl, beginning, succession, leaving, rfl, total,
    succession.length_pos, most, fun i r found => ?_, fun gone => single ?_⟩
  · obtain ⟨made, number, ends⟩ := each i r found
    refine ⟨made, number, fun x member t shown => ?_, made.flags, made.decision_eq, ends⟩
    rw [made.shown x member t shown]
    exact number
  · refine gone.elim (fun before => ?_) id
    unfold Act.Runs at beginning
    rw [beginStep_apply own d turn, TimeStep.negotiate_apply, if_pos before] at beginning
    obtain ⟨-, same⟩ := Program.runs_done.1 beginning
    obtain ⟨-, rfl⟩ := Prod.mk.inj same
    exact before

namespace DoubtedRun

/-- All goes well, but the structure side never agrees. -/
def doubting : (request : Request) → request.Reply
  | .peerConvergence _ _ => .ok false
  | request => echo Status.ok request

def begun : List Doing × Controller :=
  carryOut (echo Status.ok) [.operate .begin] EchoedRun.attached.2.2

def step : Log Coupling × Except Fault Float × Controller :=
  (runStep 0.5 begun.2).follow doubting

theorem benign_doubting {e : Exchange Coupling} (h : e = ⟨e.request, doubting e.request⟩) :
    Benign e where
  sound := by
    rw [h]
    cases e.request <;> rfl
  computed := by
    rintro session run buffer reply rfl
    have same : reply = (.ok (), buffer) := by injection h
    rw [same]
  imposed := by
    rintro session values reply rfl
    injection h
  asked := by
    rintro session own reply rfl
    exact ⟨false, by injection h⟩

/-- The own flag is set from the start, but the step goes on as long as it may. -/
theorem subIterations_counted_doubted : step.2.1 = .ok step.2.2.stepDt ∧
    step.2.2.session.subIteration = 2 ∧ sentFlags step.1 = [[1], [1]] ∧
    ∃ (first : Log Coupling) (rounds : List Round) (last : Log Coupling),
      step.1 = first ++ (rounds.flatMap Round.log ++ last) ∧ rounds.length = 2 ∧
      ∀ r ∈ rounds, r.Made := by
  have registering : (Deed.register EchoedRun.surface 0.5).perform.Runs
      (EchoedRun.unattached { maxSubIterations := 2 }) EchoedRun.attached.1 (.ok ())
      EchoedRun.attached.2.2 := Act.runs_follow (I := Coupling) (echo Status.ok) _ _
  obtain ⟨t, registered, same⟩ := runs_registerSession.1 registering
  obtain rfl : t = EchoedRun.attached.2.2.session := (congrArg Controller.session same).symm
  have history : Doings EchoedRun.attached.2.2 begun.1 begun.2 := doings_carryOut _ _ _
  obtain ⟨-, counted⟩ :=
    subIterations_counted registered rfl (by decide) history rfl rfl 0.5
  have run : (runStep 0.5).Runs begun.2 step.1 step.2.1 step.2.2 := by
    unfold step
    exact Act.runs_follow (I := Coupling) doubting (runStep 0.5) begun.2
  have benign : ∀ x ∈ step.1, Benign x := fun x member =>
    benign_doubting (Program.mem_follow (p := runStep 0.5 begun.2) member)
  obtain ⟨first, -, -, rounds, -, last, parts, -, -, -, same, total, -, -, each, -⟩ :=
    counted _ _ _ run benign
  have two : step.2.2.session.subIteration = 2 := by decide +kernel
  have sent : sentFlags step.1 = [[1], [1]] := by decide +kernel
  rw [two] at total
  refine ⟨same, two, sent, first, rounds, last, parts, ?_, fun r member => ?_⟩
  · exact (Int.ofNat.inj total).symm
  obtain ⟨i, found⟩ := List.getElem?_of_mem member
  exact (each i r found).1

end DoubtedRun

end Coupling

end FluidStructure
