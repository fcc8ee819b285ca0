import FluidStructure.Proofs.Coupling.Attachment
import FluidStructure.Proofs.Coupling.DryRun
import FluidStructure.Proofs.Coupling.Step

/-!
# Conformance of the transport calls

On rank 0 the transport calls of a whole run follow the protocol: the parameters, then for
each step the negotiation and the sub-iterations, then the notice of the end.  A call that
fails is the last one.
-/

namespace FluidStructure.Coupling

open FluidStructure.Channel

/-! ## Runs of a driver -/

/-- Steps, each run and ended, and possibly the end; the driver can stop anywhere. -/
inductive Stepping : List Operation → Prop
  | stopped : Stepping []
  | finished : Stepping [.finish]
  | open (own : Float) : Stepping [.runStep own]
  | step (own : Float) {later : List Operation} (on : Stepping later) :
    Stepping (.runStep own :: .endStep :: later)

namespace Record

/-- The driver goes on after an answer, and after a refusal. -/
def Proceeds (r : Record) : Prop := (∃ answer, r.outcome = .ok answer) ∨ r.log = []

/-- Is this the record of a step that was run? -/
def steps (r : Record) : Bool :=
  match r.operation, r.outcome with
  | .runStep _, .ok _ => true
  | _, _ => false

/-- Is this the record of the end? -/
def finishes (r : Record) : Bool :=
  match r.operation with
  | .finish => true
  | _ => false

end Record

/-- The calls of the steps after so many, told by their numbers of sub-iterations. -/
def stepsCalls (peer : Int32) : Nat → List Nat → List Call
  | _, [] => []
  | done, count :: counts =>
    stepCalls peer (Int32.ofNat (done + 1)) count ++ stepsCalls peer (done + 1) counts

/-- The calls of the records come to the end of a complete plan, or break off on a larger one. -/
inductive Kept (plan complete : List Call) (tally : Prop) (log : Log Coupling) : Prop
  | whole (all : trace log = succeeded complete) (tallied : tally) : Kept plan complete tally log
  | cut (cut : Cut plan (trace log)) : Kept plan complete tally log
  | faulty (part : Part plan (trace log)) (faulty : Faulty log) : Kept plan complete tally log

theorem Kept.prepend {first log : Log Coupling} {block plan complete : List Call}
    {tally tally' : Prop} (head : trace first = succeeded block) (count : tally → tally')
    (h : Kept plan complete tally log) :
    Kept (block ++ plan) (block ++ complete) tally' (first ++ log) := by
  cases h with
  | whole all tallied =>
    exact .whole (by rw [trace_append, head, all, succeeded_append]) (count tallied)
  | cut cut => exact .cut (by rw [trace_append, head]; exact cut.append_left block)
  | faulty part faulty =>
    exact .faulty (by rw [trace_append, head]; exact part.append_left block)
      (faulty.append_left first)

/-- The records from a state after so many steps keep to the protocol. -/
def Conforms (peer : Int32) (most done : Nat) (records : List Record) : Prop :=
  ∃ counts : List Nat, (∀ count ∈ counts, 0 < count ∧ count ≤ most) ∧
    Kept (stepsCalls peer done counts ++ [endingCall peer])
      (stepsCalls peer done counts ++ if records.any Record.finishes then [endingCall peer] else [])
      (counts.length = records.countP Record.steps) (records.flatMap Record.log)

theorem conforms_nil (peer : Int32) (most done : Nat) : Conforms peer most done [] :=
  ⟨[], fun _ member => absurd member List.not_mem_nil, .whole rfl rfl⟩

/-- A record without exchanges that is neither a step nor the end. -/
theorem Conforms.cons {peer : Int32} {most done : Nat} {r : Record} {records : List Record}
    (h : Conforms peer most done records) (silent : r.log = []) (steps : r.steps = false)
    (finishes : r.finishes = false) : Conforms peer most done (r :: records) := by
  obtain ⟨counts, bounds, kept⟩ := h
  refine ⟨counts, bounds, ?_⟩
  rw [List.flatMap_cons, silent, List.nil_append, List.countP_cons, steps, List.any_cons, finishes]
  exact kept

namespace Controller

variable {c d : Controller} {peer : Int32} {most done : Nat} {r : Record} {records : List Record}

/-- Rank 0 with its peer after so many steps. -/
structure Stands (c : Controller) (peer : Int32) (most done : Nat) : Prop where
  ready : c.Ready
  peer : c.session.peer.root = peer
  most : (cap c.session).toNatClampNeg = most
  iteration : c.session.iteration = Int32.ofNat done
  current : c.run.currentStep = c.session.iteration

/-- Between two steps; the next one can be numbered if there is one. -/
structure Between (c : Controller) (peer : Int32) (most done : Nat) : Prop
    extends Stands c peer most done where
  phase : c.phase = .terminating ∨ c.phase = .active ∧ c.session.iteration ≠ Int32.maxValue

/-- At the end of a step. -/
structure Stepped (c : Controller) (peer : Int32) (most done : Nat) : Prop
    extends Stands c peer most done where
  phase : c.phase = .stepDone

theorem Between.begun (h : c.Between peer most done) : c.Begun := by
  unfold Begun
  rcases h.phase with phase | ⟨phase, -⟩ <;> (rw [phase]; decide)

theorem ofNat_succ (n : Nat) : Int32.ofNat n + 1 = Int32.ofNat (n + 1) :=
  (Int32.ofNat_add n 1).symm

theorem InStep.stepped (between : c.Between peer most done)
    (h : c.InStep (c.session.iteration + 1) .stepDone d) : d.Stepped peer most (done + 1) where
  ready := h.ready
  peer := by
    rw [show d.session.peer = c.session.peer from congrArg Frame.peer h.frame]
    exact between.peer
  most := by
    unfold cap
    rw [show d.session.parameters = c.session.parameters from congrArg Frame.parameters h.frame]
    exact between.most
  iteration := by
    rw [show d.session.iteration = c.session.iteration + 1 from congrArg Frame.iteration h.frame,
      between.iteration]
    exact ofNat_succ done
  current := by
    rw [show d.run = c.run.advance from congrArg Frame.run h.frame,
      show d.session.iteration = c.session.iteration + 1 from congrArg Frame.iteration h.frame,
      ← between.current]
    rfl
  phase := congrArg Frame.phase h.frame

/-! ## Records -/

/-- A step between two others is refused, or it gets somewhere with its plan. -/
theorem gets_runStep {own : Float} (between : c.Between peer most done)
    (operation : r.operation = .runStep own)
    (run : r.operation.perform.Runs c r.log r.outcome d) (compliant : ∀ e ∈ r.log, Compliant e) :
    (r.log = [] ∧ d = c ∧ r.steps = false) ∨
      Gets (stepPlans peer (Int32.ofNat (done + 1)) most)
        (fun _ e => e.Stepped peer most (done + 1)) r.log r.outcome d := by
  rw [operation] at run
  obtain ⟨result, run, outcome⟩ := Act.runs_bind_pure.1 run
  rcases between.phase with phase | ⟨turn, room⟩
  · left
    unfold Controller.runStep Controller.beginStep at run
    rw [bind_assoc] at run
    obtain ⟨silent, rfl, refusal⟩ := refused (by rw [phase]; decide) run
    refine ⟨silent, rfl, ?_⟩
    unfold Record.steps
    rw [operation, outcome, refusal]
    rfl
  · right
    have got := leads_runStep between.ready turn room own _ _ _ run compliant
    have next : c.session.iteration + 1 = Int32.ofNat (done + 1) := by
      rw [between.iteration, ofNat_succ]
    rw [between.peer, between.most] at got
    rw [outcome, ← next]
    exact got.map fun _ entered => entered.stepped between

/-- The completion of a step, and its refusal between two steps. -/
theorem runs_endStep (peer : Int32) (most done : Nat) (operation : r.operation = .endStep)
    (run : r.operation.perform.Runs c r.log r.outcome d) :
    r.log = [] ∧ (c.Stepped peer most done → d.Between peer most done) ∧
      (c.Between peer most done → d = c) := by
  rw [operation] at run
  obtain ⟨result, run, outcome⟩ := Act.runs_bind_pure.1 run
  unfold Act.Runs Controller.endStep at run
  rw [Act.get_bind_apply] at run
  dsimp only at run
  split at run
  · rename_i closed
    obtain ⟨silent, -, rfl⟩ := Act.runs_fail.1 run
    exact ⟨silent, fun stepped => absurd stepped.phase closed.1, fun _ => rfl⟩
  · rename_i opened
    obtain ⟨silent, -, rfl⟩ := Act.runs_set.1 run
    refine ⟨silent, fun stepped => ?_, fun between => ?_⟩
    · have ready := stepped.ready
      refine ⟨⟨⟨ready.root, ready.found, ready.live, ⟨{ ready.sized.buffers with }, ready.sized.staging⟩, ready.length⟩,
        stepped.peer, stepped.most, stepped.iteration, stepped.current⟩, ?_⟩
      cases last : (c.run.complete c.stepDt).isLastStep with
      | true => exact .inl rfl
      | false =>
        refine .inr ⟨rfl, fun full => ?_⟩
        have more : ¬ c.run.lastStep ≤ c.run.currentStep := of_decide_eq_false last
        rw [stepped.current, full] at more
        exact more (Int32.le_maxValue _)
    · refine absurd ⟨?_, ?_⟩ opened
      · rcases between.phase with phase | ⟨phase, -⟩ <;> (rw [phase]; decide)
      · rcases between.phase with phase | ⟨phase, -⟩ <;> (rw [phase]; decide)

/-- A lost peer stays silent. -/
theorem trace_of_orphaned (begun : c.Begun) (orphaned : c.Orphaned)
    (history : History c records d) : trace (records.flatMap Record.log) = [] := by
  obtain ⟨⟨silent, -⟩, -⟩ := calm_of_history history begun orphaned
  exact trace_of_calls (List.filterMap_eq_nil_iff.2 fun x member => (silent x member).1)

/-- The driver stops after the fault of a group operation. -/
theorem nil_of_faulty {fault : Fault} (proceeds : records ≠ [] → r.Proceeds)
    (outcome : r.outcome = .error fault) (faulty : Faulty r.log) : records = [] := by
  cases records with
  | nil => rfl
  | cons next records =>
    rcases proceeds (List.cons_ne_nil _ _) with ⟨answer, wrong⟩ | silent
    · rw [outcome] at wrong
      cases wrong
    · obtain ⟨x, member, -⟩ := faulty
      rw [silent] at member
      cases member

/-- A step, and what follows it. -/
theorem conforms_runStep {own : Float} {e : Controller} (between : c.Between peer most done)
    (operation : r.operation = .runStep own)
    (run : r.operation.perform.Runs c r.log r.outcome d) (compliant : ∀ e ∈ r.log, Compliant e)
    (history : History d records e)
    (proceeds : records ≠ [] → r.Proceeds)
    (stepped : d.Stepped peer most (done + 1) → Conforms peer most (done + 1) records)
    (refused : d = c → Conforms peer most done records) :
    Conforms peer most done (r :: records) := by
  have finishes : r.finishes = false := by
    unfold Record.finishes
    rw [operation]
  rcases gets_runStep between operation run compliant with ⟨silent, same, steps⟩ | got
  · exact (refused same).cons silent steps finishes
  · have broken {count : Nat} (bounds : 0 < count ∧ count ≤ most)
        (kept : Kept (stepCalls peer (Int32.ofNat (done + 1)) count) [] False
          ((r :: records).flatMap Record.log)) :
        Conforms peer most done (r :: records) := by
      refine ⟨[count], List.forall_mem_singleton.2 bounds, ?_⟩
      unfold stepsCalls
      cases kept with
      | whole _ tallied => exact absurd tallied id
      | cut cut => exact .cut ((cut.append_right _).append_right _)
      | faulty part faulty => exact .faulty ((part.append_right _).append_right _) faulty
    rw [List.flatMap_cons] at broken
    generalize outcome : r.outcome = result at got
    cases got with
    | through planned all post =>
      obtain ⟨count, positive, fits, rfl⟩ := planned
      obtain ⟨counts, bounds, kept⟩ := stepped post
      refine ⟨count :: counts, List.forall_mem_cons.2 ⟨⟨positive, fits⟩, bounds⟩, ?_⟩
      have steps : r.steps = true := by
        unfold Record.steps
        rw [operation, outcome]
      rw [List.flatMap_cons, List.countP_cons, steps, List.any_cons, finishes, Bool.false_or]
      unfold stepsCalls
      rw [List.append_assoc, List.append_assoc]
      exact kept.prepend all (congrArg Nat.succ)
    | broken planned cut orphaned =>
      obtain ⟨count, positive, fits, rfl⟩ := planned
      rw [← Operation.toAct_course] at run
      have begun := ((stays_course _).keeps stays _ _ _ _ run).begun between.begun
      refine broken ⟨positive, fits⟩ (.cut ?_)
      rw [trace_append, trace_of_orphaned begun orphaned history, List.append_nil]
      exact cut
    | stopped planned part faulty =>
      obtain ⟨count, positive, fits, rfl⟩ := planned
      have last := nil_of_faulty proceeds outcome faulty
      subst last
      refine broken ⟨positive, fits⟩ (.faulty ?_ ?_)
      · rw [List.flatMap_nil, List.append_nil]
        exact part
      · exact faulty.append_right _

/-- The end of a run. -/
theorem conforms_finish (between : c.Between peer most done) (operation : r.operation = .finish)
    (run : r.operation.perform.Runs c r.log r.outcome d)
    (compliant : ∀ e ∈ r.log, Compliant e) : Conforms peer most done [r] := by
  have finishes : r.finishes = true := by
    unfold Record.finishes
    rw [operation]
  have steps : r.steps = false := by
    unfold Record.steps
    rw [operation]
  rw [operation] at run
  obtain ⟨result, run, -⟩ := Act.runs_bind_pure.1 run
  have onward : c.phase ≠ .closed := by
    rcases between.phase with phase | ⟨phase, -⟩ <;> (rw [phase]; decide)
  have got := leads_finish between.ready between.begun onward _ _ _ run compliant
  rw [between.peer] at got
  refine ⟨[], fun _ member => absurd member List.not_mem_nil, ?_⟩
  rw [List.flatMap_singleton, List.countP_singleton, steps, List.any_cons, finishes, Bool.true_or,
    if_pos rfl]
  cases got with
  | through planned all _ =>
    obtain rfl := planned
    exact .whole all rfl
  | broken planned cut _ =>
    obtain rfl := planned
    exact .cut cut
  | stopped planned part faulty =>
    obtain rfl := planned
    exact .faulty part faulty

/-- Steps and possibly the end. -/
theorem conforms_stepping {operations : List Operation} (stepping : Stepping operations) {c d : Controller}
    {done : Nat} {records : List Record} (between : c.Between peer most done)
    (history : History c records d) (same : records.map Record.operation = operations)
    (compliant : ∀ r ∈ records, ∀ e ∈ r.log, Compliant e)
    (proceeds : ∀ r ∈ records.dropLast, r.Proceeds) : Conforms peer most done records := by
  induction stepping generalizing c done records with
  | stopped =>
    obtain rfl := List.map_eq_nil_iff.1 same
    exact conforms_nil peer most done
  | finished =>
    obtain ⟨r, rest, rfl, operation, nothing⟩ := List.map_eq_cons_iff.1 same
    obtain rfl := List.map_eq_nil_iff.1 nothing
    cases history with
    | cons run _ => exact conforms_finish between operation run (compliant r List.mem_cons_self)
  | «open» own =>
    obtain ⟨r, rest, rfl, operation, nothing⟩ := List.map_eq_cons_iff.1 same
    obtain rfl := List.map_eq_nil_iff.1 nothing
    cases history with
    | cons run later =>
      exact conforms_runStep between operation run (compliant r List.mem_cons_self) later
        (fun some => absurd rfl some) (fun _ => conforms_nil _ _ _) fun _ => conforms_nil _ _ _
  | step own _ ih =>
    obtain ⟨r, _, rfl, operation, others⟩ := List.map_eq_cons_iff.1 same
    obtain ⟨s, rest, rfl, ending, others⟩ := List.map_eq_cons_iff.1 others
    obtain ⟨first, second, compliant⟩ : (∀ e ∈ r.log, Compliant e) ∧ (∀ e ∈ s.log, Compliant e) ∧
        ∀ t ∈ rest, ∀ e ∈ t.log, Compliant e := by
      simpa only [List.forall_mem_cons] using compliant
    have onward : ∀ t ∈ rest.dropLast, t.Proceeds := fun t member => by
      refine proceeds t ?_
      cases rest with
      | nil => cases member
      | cons next rest => exact List.mem_cons_of_mem _ (List.mem_cons_of_mem _ member)
    have steps : s.steps = false := by
      unfold Record.steps
      rw [ending]
    have finishes : s.finishes = false := by
      unfold Record.finishes
      rw [ending]
    cases history with
    | cons run later =>
      refine conforms_runStep between operation run first later
        (fun _ => proceeds r List.mem_cons_self) (fun stepped => ?_) fun unchanged => ?_
      · cases later with
        | cons ended later =>
          obtain ⟨silent, completed, -⟩ := runs_endStep peer most (done + 1) ending ended
          exact (ih (completed stepped) later others compliant onward).cons silent steps finishes
      · subst unchanged
        cases later with
        | cons ended later =>
          obtain ⟨silent, -, refusal⟩ := runs_endStep peer most done ending ended
          obtain rfl := refusal between
          exact (ih between later others compliant onward).cons silent steps finishes

/-! ## The beginning -/

/-- A new session with a registered interface, under a run from its first step. -/
structure Prepared (c : Controller) (parameters : Parameters) (peer : Discovery.Peer) : Prop where
  root : c.place.isRoot = true
  session : ∃ surface length faces vertices, (0.0 : Float) < length ∧
    c.session = (Session.new parameters peer).attach surface length faces vertices
  current : c.run.currentStep = 0
  phase : c.phase = .uninitialized

theorem Prepared.fresh {parameters : Parameters} {peer : Discovery.Peer}
    (h : c.Prepared parameters peer) (found : peer.found = true) : c.Fresh := by
  obtain ⟨surface, length, faces, vertices, positive, session⟩ := h.session
  have dry : c.session.isDryRun = false := by
    rw [session]
    exact congrArg not found
  refine ⟨h.root, dry, ?_, ?_, ?_, ?_, h.phase⟩
  · rw [session]
    rfl
  · rw [session]
    rfl
  · constructor
    · dsimp only
      rw [session]
      exact Session.sized_attach _ _ _ _ _
    · dsimp only
      rw [session]
      rfl
  · rw [session]
    exact positive

theorem Prepared.between {parameters : Parameters} {peer : Discovery.Peer}
    (h : c.Prepared parameters peer) (opens : c.Opens d) :
    d.Between peer.root (cap (Session.new parameters peer)).toNatClampNeg 0 := by
  obtain ⟨surface, length, faces, vertices, -, session⟩ := h.session
  have iteration : d.session.iteration = 0 := by
    rw [show d.session.iteration = c.session.iteration from congrArg Frame.iteration opens.frame,
      session]
    rfl
  refine ⟨⟨opens.ready, ?_, ?_, iteration, ?_⟩, .inr ⟨congrArg Frame.phase opens.frame, ?_⟩⟩
  · rw [show d.session.peer = c.session.peer from congrArg Frame.peer opens.frame, session]
    rfl
  · unfold cap
    rw [show d.session.parameters = c.session.parameters from
      congrArg Frame.parameters opens.frame, session]
    rfl
  · rw [show d.run = c.run from congrArg Frame.run opens.frame, iteration]
    exact h.current
  · rw [iteration]
    decide

/-- The beginning, and what follows it. -/
theorem Prepared.kept {parameters : Parameters} {peer : Discovery.Peer} {e : Controller}
    {later : List Operation} (h : c.Prepared parameters peer) (found : peer.found = true)
    (run : Operation.begin.perform.Runs c r.log r.outcome d) (history : History d records e)
    (operation : r.operation = .begin) (same : records.map Record.operation = later)
    (stepping : Stepping later) (first : ∀ e ∈ r.log, Compliant e)
    (compliant : ∀ r ∈ records, ∀ e ∈ r.log, Compliant e)
    (proceeds : records ≠ [] → r.Proceeds) (onward : ∀ r ∈ records.dropLast, r.Proceeds) :
    ∃ counts : List Nat,
      (∀ count ∈ counts, 0 < count ∧ count ≤ (cap (Session.new parameters peer)).toNatClampNeg) ∧
      Kept (parameterCalls peer.root ++ (stepsCalls peer.root 0 counts ++ [endingCall peer.root]))
        (parameterCalls peer.root ++ (stepsCalls peer.root 0 counts ++
          if (r :: records).any Record.finishes then [endingCall peer.root] else []))
        (counts.length = (r :: records).countP Record.steps)
        ((r :: records).flatMap Record.log) := by
  have fresh := h.fresh found
  have root : c.session.peer.root = peer.root := by
    obtain ⟨surface, length, faces, vertices, -, session⟩ := h.session
    rw [session]
    rfl
  have steps : r.steps = false := by
    unfold Record.steps
    rw [operation]
  have finishes : r.finishes = false := by
    unfold Record.finishes
    rw [operation]
  rw [List.flatMap_cons, List.countP_cons, steps, List.any_cons, finishes, Bool.false_or]
  obtain ⟨result, began, outcome⟩ := Act.runs_bind_pure.1 run
  have got := leads_begin fresh _ _ _ began first
  rw [root] at got
  cases got with
  | through planned all opens =>
    obtain rfl := planned
    obtain ⟨counts, bounds, kept⟩ := conforms_stepping stepping (h.between opens) history same
      compliant onward
    exact ⟨counts, bounds, kept.prepend all id⟩
  | broken planned cut orphaned =>
    obtain rfl := planned
    have begun := begun_of_loss run fresh.live orphaned.gone
    refine ⟨[], fun _ member => absurd member List.not_mem_nil, .cut ?_⟩
    rw [trace_append, trace_of_orphaned begun orphaned history, List.append_nil]
    exact cut.append_right _
  | stopped planned part faulty =>
    obtain rfl := planned
    obtain rfl := nil_of_faulty proceeds outcome faulty
    refine ⟨[], fun _ member => absurd member List.not_mem_nil, .faulty ?_ ?_⟩
    · rw [List.flatMap_nil, List.append_nil]
      exact part.append_right _
    · exact faulty.append_right _

end Controller

/-! ## Whole runs -/

open Controller

theorem map_fst_succeeded (plan : List Call) : (succeeded plan).map Prod.fst = plan := by
  unfold succeeded
  rw [List.map_map]
  exact List.map_id plan

theorem all_succeeded (plan : List Call) : ∀ call ∈ succeeded plan, call.2 = true := by
  intro call member
  obtain ⟨_, -, rfl⟩ := List.mem_map.1 member
  rfl

/-- Calls that are cut off lie within the plan; just the last of them fails. -/
theorem Cut.reads {plan : List Call} {log : Log Coupling} (h : Cut plan (trace log)) :
    calls log <+: plan ∧ (∀ call ∈ (trace log).dropLast, call.2 = true) ∧
      ∃ call ∈ trace log, call.2 = false := by
  obtain ⟨before, call, after, rfl, cut⟩ := h
  rw [calls_eq, cut, List.map_append, map_fst_succeeded, List.dropLast_concat]
  refine ⟨⟨after, by simp⟩, all_succeeded before, (call, false), ?_, rfl⟩
  exact List.mem_append_right _ List.mem_cons_self

theorem Kept.reads {plan complete : List Call} {tally : Prop} {log : Log Coupling}
    (h : Kept plan complete tally log) (within : complete <+: plan) :
    calls log <+: plan ∧ (∀ call ∈ (trace log).dropLast, call.2 = true) ∧
      (¬ Faulty log → (∀ call ∈ trace log, call.2 = true) → calls log = complete ∧ tally) := by
  cases h with
  | whole all tallied =>
    have same : calls log = complete := by
      rw [calls_eq, all, map_fst_succeeded]
    refine ⟨same ▸ within, fun call member => ?_, fun _ _ => ⟨same, tallied⟩⟩
    rw [all] at member
    exact all_succeeded complete call (List.dropLast_subset _ member)
  | cut cut =>
    obtain ⟨inside, before, call, member, failed⟩ := cut.reads
    refine ⟨inside, before, fun _ fine => ?_⟩
    rw [fine call member] at failed
    cases failed
  | faulty part faulty =>
    refine ⟨?_, ?_, fun sound => absurd faulty sound⟩
    · rcases part with ⟨before, after, rfl, part⟩ | cut
      · rw [calls_eq, part, map_fst_succeeded]
        exact List.prefix_append _ _
      · exact cut.reads.1
    · rcases part with ⟨before, after, rfl, part⟩ | cut
      · intro call member
        rw [part] at member
        exact all_succeeded before call (List.dropLast_subset _ member)
      · exact cut.reads.2.1

theorem toNatClampNeg_cap (s : Session) :
    (cap s).toNatClampNeg = max 1 s.parameters.maxSubIterations.toNatClampNeg := by
  have one : (1 : Int32).toInt = 1 := rfl
  unfold cap Int32.toNatClampNeg
  split
  · rename_i more
    have more := Int32.lt_iff_toInt_lt.1 more
    omega
  · rename_i few
    have few := Int32.not_lt.1 few
    have few := Int32.le_iff_toInt_le.1 few
    omega

/-- On rank 0, with a peer, the transport calls of a run are those of the protocol, as far as the
run gets: each step has at least one sub-iteration and at most as many as configured, a call that
fails is the last one, and if nothing fails nothing is left out.  A dry run makes no call. -/
theorem calls_conform {place : Parallel.Place} {peer : Discovery.Peer} {parameters : Parameters}
    {surface : Surface} {length : Float} {steps : Int32} {time : Float} {session : Session}
    {run : RunControl} {registering : Log Coupling} {records : List Record} {d : Controller}
    {later : List Operation} (root : place.isRoot = true) (positive : (0.0 : Float) < length)
    (registered : (Session.register place surface length).Runs (Session.new parameters peer)
      registering (.ok ()) session)
    (started : RunControl.start steps time = .ok run)
    (history : History { place, session, run } records d)
    (operations : records.map Record.operation = .begin :: later) (stepping : Stepping later)
    (compliant : ∀ r ∈ records, ∀ e ∈ r.log, Compliant e)
    (proceeds : ∀ r ∈ records.dropLast, r.Proceeds) :
    (peer.found = false → calls (records.flatMap Record.log) = []) ∧
      (peer.found = true → ∃ counts : List Nat,
        (∀ count ∈ counts, 1 ≤ count ∧ count ≤ max 1 parameters.maxSubIterations.toNatClampNeg) ∧
        calls (records.flatMap Record.log) <+:
          parameterCalls peer.root ++ stepsCalls peer.root 0 counts ++ [endingCall peer.root] ∧
        (∀ call ∈ (trace (records.flatMap Record.log)).dropLast, call.2 = true) ∧
        (¬ Faulty (records.flatMap Record.log) →
          (∀ call ∈ trace (records.flatMap Record.log), call.2 = true) →
          calls (records.flatMap Record.log) =
              parameterCalls peer.root ++ stepsCalls peer.root 0 counts ++
                (if records.any Record.finishes then [endingCall peer.root] else []) ∧
            counts.length = records.countP Record.steps)) := by
  obtain ⟨faces, vertices, attached⟩ := runs_register registered
  obtain ⟨-, start⟩ := RunControl.start_eq_ok_iff.1 started
  have prepared : Prepared { place, session, run } parameters peer :=
    ⟨root, ⟨surface, length, faces, vertices, positive, attached⟩,
      congrArg RunControl.currentStep start, rfl⟩
  refine ⟨fun missing => calls_of_dryRun history ?_, fun found => ?_⟩
  · rw [attached]
    exact congrArg not missing
  · obtain ⟨r, rest, rfl, operation, others⟩ := List.map_eq_cons_iff.1 operations
    obtain ⟨first, compliant⟩ := List.forall_mem_cons.1 compliant
    have onward : (rest ≠ [] → r.Proceeds) ∧ ∀ s ∈ rest.dropLast, s.Proceeds := by
      cases rest with
      | nil => exact ⟨fun some => absurd rfl some, fun s member => absurd member List.not_mem_nil⟩
      | cons next rest =>
        exact ⟨fun _ => proceeds r List.mem_cons_self,
          fun s member => proceeds s (List.mem_cons_of_mem _ member)⟩
    cases history with
    | cons run history =>
      rw [operation] at run
      obtain ⟨counts, bounds, kept⟩ := prepared.kept found run history operation others stepping
        first compliant onward.1 onward.2
      rw [toNatClampNeg_cap] at bounds
      rw [← List.append_assoc, ← List.append_assoc] at kept
      refine ⟨counts, bounds, kept.reads ?_⟩
      cases (r :: rest).any Record.finishes with
      | true => exact List.prefix_rfl
      | false => exact ⟨[endingCall peer.root], by simp⟩

namespace EchoedRun

/-- An interface of one face. -/
def surface : Surface := { faceIds := [0], vertexIds := [0, 1, 2, 3], ownedVertices := 4 }

def registered : Log Coupling × Except Fault Unit × Session :=
  (Session.register {} surface 1.0 (Session.new {} { root := 1 })).follow (echo Status.ok)

def start : Controller where
  place := {}
  session := registered.2.2
  run := { lastStep := 1, previousTime := 0.0, time := 0.0 }

def records : List Record :=
  (Controller.follow (echo Status.ok) [.begin, .runStep 0.5, .endStep, .finish] start).1

theorem compliant_echo {status : Status} {e : Exchange Coupling}
    (h : e = ⟨e.request, echo status e.request⟩) : Compliant e := by
  rw [h]
  cases e.request <;> simp [Compliant, echo]

/-- A run of one step that ends in order. -/
theorem calls_conform_echoed : ∃ counts : List Nat,
    (∀ count ∈ counts, 1 ≤ count ∧ count ≤ max 1 (1 : Int32).toNatClampNeg) ∧
    calls (records.flatMap Record.log) <+:
      parameterCalls 1 ++ stepsCalls 1 0 counts ++ [endingCall 1] ∧
    (∀ call ∈ (trace (records.flatMap Record.log)).dropLast, call.2 = true) ∧
    (¬ Faulty (records.flatMap Record.log) →
      (∀ call ∈ trace (records.flatMap Record.log), call.2 = true) →
      calls (records.flatMap Record.log) =
          parameterCalls 1 ++ stepsCalls 1 0 counts ++
            (if records.any Record.finishes then [endingCall 1] else []) ∧
        counts.length = records.countP Record.steps) := by
  have registering : (Session.register {} surface 1.0).Runs (Session.new {} { root := 1 })
      registered.1 (.ok ()) registered.2.2 :=
    Act.runs_follow (I := Coupling) (echo Status.ok) _ _
  have answered : ∀ r ∈ records.dropLast, r.Proceeds := by
    refine List.forall_mem_cons.2 ⟨.inl ⟨_, rfl⟩, List.forall_mem_cons.2 ⟨.inl ⟨_, rfl⟩,
      List.forall_mem_cons.2 ⟨.inl ⟨_, rfl⟩, fun r member => ?_⟩⟩⟩
    cases member
  exact (calls_conform rfl (by decide) registering (rfl : RunControl.start 1 0.0 = .ok start.run)
    (history_follow (echo Status.ok) _ start) rfl (.step 0.5 .finished)
    (fun r recorded e member => compliant_echo (mem_follow recorded member)) answered).2 rfl

end EchoedRun

end FluidStructure.Coupling
