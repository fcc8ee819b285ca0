import FluidStructure.Proofs.Programs.Preparations
import FluidStructure.Proofs.Programs.StepMessages

/-!
# The steps that the structure commits

The structure commits whole steps only: each one comes of what was committed before it, of the
forces that came last in it and of the agreed length.  Once an exchange has failed, what was
committed before this step is the end.
-/

namespace FluidStructure.Programs.Structure

open FluidStructure.Channel FluidStructure.Coupling FluidStructure.Journal FluidStructure.Parallel
open Network (Mail Incoming From Consumed Took Unbroken Lawful arrived mailOf)

section Runs

variable {l : Layout} {o : Oscillator} {p : RunParameters} {step : Int32} {c d : MessageChannel}
  {log : Log Parallel} {incoming : List Incoming} {later : Mail} {s : State}
  {result : Except Fault State}

/-! ## The loop over the steps -/

/-- The log of an attempt at a step from what was committed. -/
def Tried (l : Layout) (p : RunParameters) (step : Int32) (k : Committed) (log : Log Parallel) :
    Prop :=
  ∃ s c result d, State.committed s = k ∧ (timeStep l p step s).Runs c log result d

/-- How a loop goes.  A step is committed, and then no exchange of it has failed, the messages of a
round have been taken and nothing else, and what is committed is the step of this round.  Or an
attempt is cut, and what was committed before is the end. -/
inductive Course (l : Layout) (p : RunParameters) :
    Nat → Int32 → Committed → List Round → Log Parallel → Committed → Prop
  | ended {step : Int32} {k : Committed} : Course l p 0 step k [] [] k
  | cut {n : Nat} {step : Int32} {k : Committed} {log : Log Parallel} (tried : Tried l p step k log)
    (silent : reports log = []) : Course l p (n + 1) step k [] log k
  | step {n : Nat} {step : Int32} {k k' : Committed} {r : Round} {rs : List Round}
    {log logs : Log Parallel} (tried : Tried l p step k log) (whole : Unbroken log)
    (awaited : r.Awaited l p step) (took : arrived log = mailOf r.messages)
    (told : reports log = [(r.commit l k).report step])
    (later : Course l p n (step + 1) (r.commit l k) rs logs k') :
    Course l p (n + 1) step k (r :: rs) (log ++ logs) k'

/-- The reports of rounds that follow on each other. -/
def told (l : Layout) : Int32 → Committed → List Round → List Report
  | _, _, [] => []
  | step, k, r :: rs => (r.commit l k).report step :: told l (step + 1) (r.commit l k) rs

namespace Course

variable {n : Nat} {k k' : Committed} {rs : List Round}

theorem reports_eq (h : Course l p n step k rs log k') : reports log = told l step k rs := by
  induction h with
  | ended => rfl
  | cut _ silent => exact silent
  | step _ _ _ _ told _ ih =>
    rw [reports_append, told, ih]
    rfl

/-- If an exchange has failed, there are fewer steps than planned. -/
theorem length_lt (h : Course l p n step k rs log k') (broken : ¬ Unbroken log) : rs.length < n := by
  induction h with
  | ended => exact absurd .nil broken
  | cut => exact Nat.succ_pos _
  | step _ whole _ _ _ _ ih => exact Nat.succ_lt_succ (ih fun rest => broken (whole.append rest))

theorem reached_eq (h : Course l p n step k rs log k') :
    k' = rs.foldl (fun k r => r.commit l k) k := by
  induction h with
  | ended => rfl
  | cut => rfl
  | step _ _ _ _ _ _ ih => exact ih

end Course

theorem course_of_timeSteps {n : Nat} (root : c.isLocalRoot = true)
    (lawful : ∀ made ∈ log, Lawful made) (ready : Ready l s.forces)
    (run : (timeSteps l p n step s).Runs c log result d) (truthful : ∀ m ∈ incoming, m.Truthful)
    (taken : From incoming (arrived log ++ later)) :
    ∃ rs rest k, Course l p n step s.committed rs log k ∧
      incoming = rs.flatMap Round.messages ++ rest ∧
      ∀ s', result = .ok s' → s'.committed = k := by
  induction n generalizing c log incoming step s with
  | zero =>
    obtain ⟨rfl, rfl, -⟩ := Act.runs_pure.1 run
    refine ⟨[], incoming, s.committed, .ended, rfl, fun s' same => ?_⟩
    rw [Except.ok.inj same]
  | succ n ih =>
    rcases Act.runs_bind.1 run with ⟨first, s₁, u, second, rfl, steps, onward⟩ | ⟨fault, rfl, steps⟩
    · rw [Network.arrived_append, Mail.append_assoc] at taken
      rcases runs_timeStep root (List.forall_mem_append.1 lawful).1 ready steps truthful taken with
        ⟨silent, lost⟩ | ⟨s', r, rest, same, connected, stepped, root, ready⟩
      · obtain ⟨gone, kept⟩ := lost s₁ rfl
        rw [gone, if_neg Bool.false_ne_true] at onward
        obtain ⟨rfl, rfl, -⟩ := Act.runs_pure.1 onward
        rw [List.append_nil]
        refine ⟨[], incoming, s.committed, .cut ⟨s, c, _, u, rfl, steps⟩ silent, rfl, fun s' same => ?_⟩
        rw [← Except.ok.inj same, kept]
      · obtain rfl := Except.ok.inj same
        rw [connected, if_pos rfl] at onward
        obtain ⟨rs, rest', k, course, rfl, ends⟩ := ih root (List.forall_mem_append.1 lawful).2 ready
          onward (fun m member => truthful m
            (stepped.consumed.incoming ▸ List.mem_append_right _ member)) stepped.consumed.onward
        rw [stepped.commits] at course
        have told := stepped.reports
        rw [stepped.commits] at told
        refine ⟨r :: rs, rest', k, .step ⟨s, c, _, u, rfl, steps⟩ stepped.consumed.unbroken
          stepped.awaited stepped.consumed.arrived told course, ?_, ends⟩
        rw [stepped.consumed.incoming, List.flatMap_cons, List.append_assoc]
    · rcases runs_timeStep root lawful ready steps truthful taken with
        ⟨silent, -⟩ | ⟨s', _, _, wrong, -⟩
      · exact ⟨[], incoming, s.committed, .cut ⟨s, c, _, d, rfl, steps⟩ silent, rfl, nofun⟩
      · cases wrong

/-! ## The parameters -/

/-- A value that is received takes one message, and what follows depends on its value. -/
theorem consumed_onward {β γ : Type} {got : Program Parallel (Status × β)}
    {f : β → Program Parallel (Option γ)} {value : γ} {accepts : Header → Prop} {read : Incoming → β}
    (takes : ∀ {log status x later}, (∀ made ∈ log, Lawful made) → got.Runs log (status, x) →
      Status.failed status = false → (∀ m ∈ incoming, m.Truthful) →
      From incoming (arrived log ++ later) → Took log incoming later accepts fun m => x = read m)
    (lawful : ∀ made ∈ log, Lawful made) (run : (onward got f).Runs log (some value))
    (truthful : ∀ m ∈ incoming, m.Truthful) (taken : From incoming (arrived log ++ later)) :
    ∃ m rest first second, log = first ++ second ∧ (∀ made ∈ second, Lawful made) ∧
      (∀ m ∈ rest, m.Truthful) ∧ Consumed first incoming (arrived second ++ later) [m] rest ∧
      (f (read m)).Runs second (some value) := by
  obtain ⟨first, ⟨status, x⟩, second, rfl, receives, onward⟩ := Program.runs_bind.1 run
  obtain ⟨lawful, lawful'⟩ := List.forall_mem_append.1 lawful
  rw [Network.arrived_append, Mail.append_assoc] at taken
  dsimp only at onward
  split at onward
  · cases (Program.runs_done.1 onward).2
  rename_i fine
  obtain ⟨m, rest, consumed, -, rfl⟩ :=
    takes lawful receives (Bool.eq_false_iff.2 fine) truthful taken
  refine ⟨m, rest, first, second, rfl, lawful', fun m member => ?_, consumed, onward⟩
  exact truthful m (consumed.incoming ▸ List.mem_append_right _ member)

/-- The parameters that these messages carry. -/
def parametersOf : List Incoming → RunParameters
  | [steps, subIterations, tolerance, time, dt] =>
    ⟨steps.int 0, subIterations.int 0, tolerance.real 0.0, time.real 0.0, dt.real 0.0⟩
  | _ => {}

theorem consumed_receiveParameters {peer : Int32} (lawful : ∀ made ∈ log, Lawful made)
    (run : (receiveParameters peer).Runs log (some p)) (truthful : ∀ m ∈ incoming, m.Truthful)
    (taken : From incoming (arrived log ++ later)) :
    ∃ messages rest, parametersOf messages = p ∧ Consumed log incoming later messages rest := by
  rw [receiveParameters_eq] at run
  obtain ⟨steps, rest, log₁, log, rfl, lawful, truthful, took₁, run⟩ :=
    consumed_onward Network.runs_receiveInt lawful run truthful taken
  obtain ⟨subIterations, rest, log₂, log, rfl, lawful, truthful, took₂, run⟩ :=
    consumed_onward Network.runs_receiveInt lawful run truthful took₁.onward
  obtain ⟨tolerance, rest, log₃, log, rfl, lawful, truthful, took₃, run⟩ :=
    consumed_onward Network.runs_receiveReal lawful run truthful took₂.onward
  obtain ⟨time, rest, log₄, log, rfl, lawful, truthful, took₄, run⟩ :=
    consumed_onward Network.runs_receiveReal lawful run truthful took₃.onward
  obtain ⟨dt, rest, log₅, log, rfl, lawful, truthful, took₅, run⟩ :=
    consumed_onward Network.runs_receiveReal lawful run truthful took₄.onward
  obtain ⟨rfl, same⟩ := Program.runs_done.1 run
  refine ⟨[steps, subIterations, tolerance, time, dt], rest, (Option.some.inj same).symm, ?_⟩
  have last : Consumed (log₅ ++ []) _ later [dt] rest := took₅.append (.nothing rfl .nil took₅.onward)
  exact took₁.append (took₂.append (took₃.append (took₄.append last)))

/-! ## The exchange with the fluid -/

theorem nonfinal_timeStep (l : Layout) (p : RunParameters) (step : Int32) (s : State) :
    (timeStep l p step s).Asks (final? · = none) := by
  have agrees := Act.asks_lift (σ := MessageChannel) (reticent_negotiate l step)
  refine (agrees.mono fun _ h => h.final).bind fun agreed => ?_
  cases agreed with
  | none => exact Act.Asks.bind (Act.asks_perform rfl) fun _ => Act.asks_pure _
  | some dt =>
    have turns := reticent_subIterate l step s.oscillator dt (cap p) s.oscillator.motion s.forces
    refine (turns.mono fun _ h => h.final).bind fun (m, forces, connected) => ?_
    cases connected with
    | true => exact Act.Asks.bind (Act.asks_perform rfl) fun _ => Act.asks_pure _
    | false => exact Act.Asks.bind (Act.asks_perform rfl) fun _ => Act.asks_pure _

/-- The loop makes no final report. -/
theorem nonfinal_timeSteps (l : Layout) (p : RunParameters) (n : Nat) (step : Int32) (s : State) :
    (timeSteps l p n step s).Asks (final? · = none) := by
  induction n generalizing step s with
  | zero => exact Act.asks_pure _
  | succ n ih =>
    refine (nonfinal_timeStep l p step s).bind fun s => ?_
    split
    · exact ih _ _
    · exact Act.asks_pure _

theorem finals_timeSteps {n : Nat} (run : (timeSteps l p n step s).Runs c log result d) :
    finals log = [] := finals_eq_nil ((nonfinal_timeSteps l p n step s).of_runs run)

/-- What is committed before the first step. -/
def Committed.initial (o : Oscillator) (p : RunParameters) : Committed := ⟨o, p.initialTime⟩

/-- The state of the loop before its first step. -/
def State.first (l : Layout) (o : Oscillator) (p : RunParameters) : State where
  oscillator := o
  time := p.initialTime
  forces := Session.zeroVectors l.faces

/-- An account of a run from the messages that came: those with the parameters, those of the steps
that were committed, and the rest.  Without all parameters there are no steps. -/
structure Account (l : Layout) (o : Oscillator) (incoming : List Incoming) (log : Log Parallel) where
  parameters : List Incoming
  rounds : List Round
  rest : List Incoming
  incoming_eq : incoming = parameters ++ rounds.flatMap Round.messages ++ rest
  /-- The log before, of and after the loop over the steps. -/
  opening : Log Parallel
  steps : Log Parallel
  closing : Log Parallel
  log_eq : log = opening ++ (steps ++ closing)
  /-- What was committed last. -/
  reached : Committed
  course : Course l (parametersOf parameters) (parametersOf parameters).maxTimeSteps.toNatClampNeg 1
    (.initial o (parametersOf parameters)) rounds steps reached
  loop : ∃ c result d, (timeSteps l (parametersOf parameters)
      (parametersOf parameters).maxTimeSteps.toNatClampNeg 1
      (.first l o (parametersOf parameters))).Runs c steps result d ∧
    ∀ s, result = .ok s → s.committed = reached
  silent : reports opening = [] ∧ reports closing = []
  finals : ∀ final ∈ finals log, final = (reached.time, reached.oscillator.motion.x)

/-- What follows on the loop. -/
def conclude (l : Layout) (p : RunParameters) (s : State) : Act Parallel MessageChannel Int32 :=
  (if s.connected then awaitEnding l p else pure ()) >>= fun _ =>
    note (.structureFinished s.time s.oscillator.motion.x) >>= fun _ => pure 0

theorem runs_conclude {result : Except Fault Int32} (run : (conclude l p s).Runs c log result d) :
    reports log = [] ∧ ∀ final ∈ finals log, final = (s.time, s.oscillator.motion.x) := by
  have waits : (if s.connected then awaitEnding l p else pure ()).Asks Reticent := by
    split
    · exact reticent_awaitEnding l p
    · exact Act.asks_pure _
  rcases Act.runs_bind.1 run with ⟨first, _, u, second, rfl, ending, onward⟩ | ⟨_, -, ending⟩
  · have quiet := waits.of_runs ending
    obtain ⟨_, _, rfl, leaves⟩ := Act.runs_perform_bind.1 onward
    obtain ⟨rfl, -, -⟩ := Act.runs_pure.1 leaves
    rw [reports_append, finals_append, reports_of_reticent quiet,
      finals_eq_nil fun made member => (quiet made member).final]
    exact ⟨rfl, fun final member => List.mem_singleton.1 member⟩
  · have quiet := waits.of_runs ending
    rw [reports_of_reticent quiet, finals_eq_nil fun made member => (quiet made member).final]
    exact ⟨rfl, List.forall_mem_nil _⟩

/-- The loop and what follows on it, after the parameters have come. -/
theorem account_of_loop {opening : Log Parallel} {parameters rest : List Incoming}
    {result : Except Fault Int32} (silent : reports opening = []) (unfinished : finals opening = [])
    (consumed : Consumed opening incoming (arrived log ++ later) parameters rest)
    (root : c.isLocalRoot = true) (lawful : ∀ made ∈ log, Lawful made)
    (truthful : ∀ m ∈ rest, m.Truthful) (known : parametersOf parameters = p)
    (run : (timeSteps l p p.maxTimeSteps.toNatClampNeg 1 (.first l o p) >>= conclude l p).Runs c log
      result d) :
    Nonempty (Account l o incoming (opening ++ log)) := by
  subst known
  have ready : Ready l (State.first l o (parametersOf parameters)).forces := .zeros
  rcases Act.runs_bind.1 run with ⟨steps, s, v, closing, rfl, loop, parts⟩ | ⟨fault, rfl, loop⟩
  · have taken := consumed.onward
    rw [Network.arrived_append, Mail.append_assoc] at taken
    obtain ⟨rounds, rest', k, course, rfl, ends⟩ :=
      course_of_timeSteps root (List.forall_mem_append.1 lawful).1 ready loop truthful taken
    obtain ⟨still, shown⟩ := runs_conclude parts
    refine ⟨{
      parameters, rounds, rest := rest', opening, steps, closing, log_eq := rfl, reached := k, course
      incoming_eq := by rw [consumed.incoming, List.append_assoc]
      loop := ⟨c, _, v, loop, ends⟩
      silent := ⟨silent, still⟩
      finals := ?_ }⟩
    rw [finals_append, finals_append, unfinished, finals_timeSteps loop, ← ends s rfl]
    exact shown
  · obtain ⟨rounds, rest', k, course, rfl, ends⟩ :=
      course_of_timeSteps root lawful ready loop truthful consumed.onward
    refine ⟨{
      parameters, rounds, rest := rest', opening, steps := log, closing := [], reached := k, course
      log_eq := by rw [List.append_nil]
      incoming_eq := by rw [consumed.incoming, List.append_assoc]
      loop := ⟨c, _, d, loop, ends⟩
      silent := ⟨silent, rfl⟩
      finals := ?_ }⟩
    rw [finals_append, unfinished, finals_timeSteps loop]
    exact List.forall_mem_nil _

theorem exchange_conclude (l : Layout) (o : Oscillator) (p : RunParameters) :
    (do
      let s ← timeSteps l p p.maxTimeSteps.toNatClampNeg 1 (.first l o p)
      if s.connected then awaitEnding l p else pure ()
      note (.structureFinished s.time s.oscillator.motion.x)
      return 0) = (timeSteps l p p.maxTimeSteps.toNatClampNeg 1 (.first l o p) >>= conclude l p) := by
  refine congrArg (_ >>= ·) (funext fun s => ?_)
  unfold conclude
  cases s.connected <;> rfl

/-- Every run of the exchange with the fluid has its account. -/
theorem exists_account {result : Except Fault Int32} (root : c.isLocalRoot = true)
    (lawful : ∀ made ∈ log, Lawful made) (run : (exchange l o).Runs c log result d)
    (truthful : ∀ m ∈ incoming, m.Truthful) (taken : From incoming (arrived log ++ later)) :
    Nonempty (Account l o incoming log) := by
  rcases Act.runs_bind.1 run with ⟨opening, received, u, log, rfl, receives, onward⟩ | ⟨_, -, wrong⟩
  swap
  · obtain ⟨_, -, wrong, -⟩ := Act.runs_lift.1 wrong
    cases wrong
  obtain ⟨received, receives, same, rfl⟩ := Act.runs_lift.1 receives
  obtain rfl := Except.ok.inj same
  have opens := (reticent_receiveParameters l.fluid).of_runs receives
  have silent := reports_of_reticent opens
  have unfinished := finals_eq_nil fun made member => (opens made member).final
  cases received with
  | none =>
    obtain ⟨_, _, rfl, leaves⟩ := Act.runs_perform_bind.1 onward
    obtain ⟨rfl, -, -⟩ := Act.runs_pure.1 leaves
    refine ⟨{
      parameters := [], rounds := [], rest := incoming, incoming_eq := rfl
      opening := opening ++ [⟨.note .parametersMissing, _⟩], steps := [], closing := []
      log_eq := (List.append_nil _).symm
      reached := .initial o {}
      course := .ended
      loop := ⟨u, _, u, Act.runs_pure.2 ⟨rfl, rfl, rfl⟩, fun s same => ?_⟩
      silent := ⟨?_, rfl⟩
      finals := ?_ }⟩
    · rw [← Except.ok.inj same]
      rfl
    · rw [reports_append, silent]
      rfl
    · rw [finals_append, unfinished]
      exact List.forall_mem_nil _
  | some p =>
    obtain ⟨_, log, rfl, coupled⟩ := Act.runs_perform_bind.1 onward
    obtain ⟨lawful, lawful'⟩ := List.forall_mem_append.1 lawful
    rw [Network.arrived_append, Mail.append_assoc] at taken
    obtain ⟨parameters, rest, known, consumed⟩ :=
      consumed_receiveParameters lawful receives truthful taken
    have honest m (member : m ∈ rest) : m.Truthful :=
      truthful m (consumed.incoming ▸ List.mem_append_right _ member)
    rw [← List.singleton_append, Network.arrived_append, Mail.append_assoc] at consumed
    have noted := consumed.append (.nothing rfl (.cons rfl .nil) consumed.onward)
    rw [List.append_nil] at noted
    have parts : (timeSteps l p p.maxTimeSteps.toNatClampNeg 1 (.first l o p) >>= conclude l p).Runs
        u log result d := by
      rw [← exchange_conclude]
      exact coupled
    rw [List.append_cons]
    refine account_of_loop ?_ ?_ noted root (List.forall_mem_cons.1 lawful').2 honest known parts
    · rw [reports_append, silent]
      rfl
    · rw [finals_append, unfinished]
      rfl

end Runs

/-! ## Whole runs -/

variable {l : Layout} {o : Oscillator} {incoming : List Incoming} {log : Log Parallel}

/-- Preparations and a conclusion add nothing to an account. -/
def Account.framed (a : Account l o incoming log) {before after : Log Parallel}
    (quiet : ∀ made ∈ before, Aside made.request) (still : ∀ made ∈ after, Aside made.request) :
    Account l o incoming (before ++ (log ++ after)) where
  parameters := a.parameters
  rounds := a.rounds
  rest := a.rest
  incoming_eq := a.incoming_eq
  opening := before ++ a.opening
  steps := a.steps
  closing := a.closing ++ after
  log_eq := by
    refine (congrArg (fun part => before ++ (part ++ after)) a.log_eq).trans ?_
    rw [List.append_assoc, List.append_assoc, List.append_assoc]
  reached := a.reached
  course := a.course
  loop := a.loop
  silent := by
    rw [reports_append, reports_append, a.silent.1, a.silent.2,
      reports_of_reticent fun made member => (quiet made member).reticent,
      reports_of_reticent fun made member => (still made member).reticent]
    exact ⟨rfl, rfl⟩
  finals := by
    rw [finals_append, finals_append, finals_eq_nil fun made member => (quiet made member).reticent.final,
      finals_eq_nil fun made member => (still made member).reticent.final, List.append_nil]
    exact a.finals

/-- The forces that came last in a step, and its length. -/
def Round.drive (l : Layout) (r : Round) : List Float × Float := (r.forces l, r.dt l)

theorem length_told {rs : List Round} {step : Int32} {k : Committed} :
    (told l step k rs).length = rs.length := by
  induction rs generalizing step k with
  | nil => rfl
  | cons r rs ih => exact congrArg (· + 1) ih

/-- Rounds with the same last forces and the same lengths lead to the same states. -/
theorem take_told {rs rs' : List Round} {n : Nat} {step step' : Int32} {k k' : Committed}
    (same : (rs.map (Round.drive l)).take n = (rs'.map (Round.drive l)).take n)
    (start : k.oscillator = k'.oscillator) :
    ((told l step k rs).map Report.motion).take n = ((told l step' k' rs').map Report.motion).take n := by
  induction n generalizing rs rs' step step' k k' with
  | zero => rfl
  | succ n ih =>
    cases rs with
    | nil =>
      cases rs' with
      | nil => rfl
      | cons r' rs' => cases same
    | cons r rs =>
      cases rs' with
      | nil => cases same
      | cons r' rs' =>
        obtain ⟨drives, later⟩ := List.cons.inj same
        obtain ⟨forces, dt⟩ := Prod.mk.inj drives
        have committed : (r.commit l k).oscillator = (r'.commit l k').oscillator := by
          show k.oscillator.commit (k.oscillator.trial (resultant (r.forces l)) (r.dt l)) = _
          rw [start, forces, dt]
          rfl
        refine congrArg₂ List.cons ?_ (ih later committed)
        exact congrArg Oscillator.motion committed

namespace Account

variable (a : Account l o incoming log)

/-- The steps that were planned. -/
def planned : Nat := (parametersOf a.parameters).maxTimeSteps.toNatClampNeg

theorem reports_eq : reports log = told l 1 (.initial o (parametersOf a.parameters)) a.rounds := by
  refine (congrArg reports a.log_eq).trans ?_
  rw [reports_append, reports_append, a.silent.1, a.silent.2, a.course.reports_eq, List.append_nil,
    List.nil_append]

end Account

/-- However a run of the program goes, unless it never comes to the exchange, it has an account.  The
steps that it reports are those of the rounds in the account, and what is committed last, and
reported at the end, comes of these rounds alone; if an exchange of the loop has failed, steps are
missing.  The states depend on nothing but the last forces and the length of each step: wherever
two accounts agree on these, they agree on the states. -/
theorem commits_whole_steps {file : String} {s t : Lifecycle} {result : Except Fault Int32}
    (run : (program file).Runs s log result t) (lawful : ∀ made ∈ log, Lawful made)
    (alone : ∀ rank, ⟨.rank .application, .ok rank⟩ ∈ log → rank = 0)
    (truthful : ∀ m ∈ incoming, m.Truthful) (taken : From incoming (arrived log)) :
    (∀ made ∈ log, Aside made.request) ∨
      ∃ (l : Layout) (o : Oscillator) (a : Account l o incoming log),
        reports log = told l 1 (.initial o (parametersOf a.parameters)) a.rounds ∧
        a.reached = a.rounds.foldl (fun k r => r.commit l k) (.initial o (parametersOf a.parameters)) ∧
        (¬ Unbroken a.steps → a.rounds.length < a.planned) ∧
        ∀ {incoming' log'} (b : Account l o incoming' log') (n : Nat),
          (a.rounds.map (Round.drive l)).take n = (b.rounds.map (Round.drive l)).take n →
          ((reports log).map Report.motion).take n = ((reports log').map Report.motion).take n := by
  rcases hosting_program file _ _ _ _ run with aside |
    ⟨before, _, after, whole, ⟨l, o, c, first, part, outcome, d, rfl, exchanges, rank, sets⟩, quiet, still⟩
  · exact .inl aside
  right
  obtain rfl : log = (before ++ first) ++ (part ++ after) := by
    rw [whole, List.append_assoc, List.append_assoc]
  have prepares := List.forall_mem_append.2 ⟨quiet, sets⟩
  have root : c.isLocalRoot = true :=
    decide_eq_true (alone _ (List.mem_append_left _ (List.mem_append_right _ rank)))
  rw [Network.arrived_append, arrived_of_aside prepares, Mail.empty_append,
    Network.arrived_append] at taken
  obtain ⟨part⟩ := exists_account root
    (List.forall_mem_append.1 (List.forall_mem_append.1 lawful).2).1 exchanges truthful taken
  let a := part.framed prepares still
  refine ⟨l, o, a, a.reports_eq, a.course.reached_eq, a.course.length_lt, fun b n same => ?_⟩
  rw [a.reports_eq, b.reports_eq]
  exact take_told same rfl

namespace CutRun

/-- The fluid has rank 0 and the structure rank 1. -/
def records : List UInt8 :=
  (Declaration.mk "fluid" "channel").pack ++ (Declaration.mk "structure" "spring").pack

/-- The next header that waits. -/
def nextHeader : Mail → Except Code Header × Mail
  | ⟨header :: headers, payloads⟩ => (.ok header, ⟨headers, payloads⟩)
  | ⟨[], payloads⟩ => (.error 15, ⟨[], payloads⟩)

/-- The next payload that waits, if there is room for it. -/
def nextPayload (limit : Nat) : Mail → Except Code Payload × Mail
  | ⟨headers, []⟩ => (.error 15, ⟨headers, []⟩)
  | ⟨headers, payload :: payloads⟩ =>
    if payload.size ≤ limit then (.ok payload, ⟨headers, payloads⟩)
    else (.error 15, ⟨headers, payload :: payloads⟩)

/-- A process that is alone in its application, and whose operations succeed as long as messages
wait.  Operations that the structure never uses fail. -/
def answer : (request : Parallel.Request) → Mail → request.Reply × Mail
  | .receiveHeader _, waiting => nextHeader waiting
  | .receivePayload _ limit, waiting => nextPayload limit waiting
  | .isStarted, waiting | .isStopped, waiting => (false, waiting)
  | .describe, waiting => (⟨4, 1, ""⟩, waiting)
  | .start, waiting | .stop, waiting | .barrier _, waiting => (.ok (), waiting)
  | .abort _, waiting | .free _, waiting | .note _, waiting | .setUpJournal _, waiting => ((), waiting)
  | .rank c, waiting => (.ok (if c = .application then 0 else 1), waiting)
  | .size c, waiting => (.ok (if c = .application then 1 else 2), waiting)
  | .duplicate _, waiting | .returnErrors _, waiting | .split .., waiting => (.ok (), waiting)
  | .declare .., waiting => (.ok records, waiting)
  | .broadcastInts c root own, waiting =>
    (if c = .application ∧ root = 0 then .ok own else .error 15, waiting)
  | .gatherCount c own, waiting => (if c = .application then .ok [own] else .error 15, waiting)
  | .gatherReals _ own _, waiting => (.ok own, waiting)
  | .scatterReals c values layout buffer, waiting =>
    (if c = .application ∧ layout = [Int32.ofNat buffer.length] ∧
        MessageChannel.total layout ≤ values.length then
      .ok (overwrite buffer (values.take buffer.length)) else .error 15, waiting)
  | .sendHeader .., waiting | .sendPayload .., waiting => (.ok (), waiting)
  | .readFile _, waiting => (some "structure:\nflap:\n  faces_per_rank: 1\n", waiting)
  | .broadcastReals .., waiting | .reduceReals .., waiting => (.error 15, waiting)
  | .reduceInts .., waiting => (.error 15, waiting)
  | .sumCounts .., waiting => (.error 15, waiting)

def int (iteration : Int32) (name : String) (value : Int32) : Incoming :=
  ⟨⟨iteration, 1, Kind.ints.code, name⟩, some (.ints [value])⟩

def real (iteration : Int32) (name : String) (value : Float) : Incoming :=
  ⟨⟨iteration, 1, Kind.reals.code, name⟩, some (.reals [value])⟩

def forces (x : Float) : Incoming :=
  ⟨⟨0, 3, Kind.field.code, Variable.fluidForces⟩, some (.reals [x, 0.0, 0.0])⟩

/-- The parameters of a run of two steps, and the messages of the first one, which has two
sub-iterations.  Then nothing comes any more. -/
def sent : List Incoming :=
  [int 0 Variable.maxTimeSteps 2, int 0 Variable.maxSubIterations 3, real 0 Variable.tolerance 0.1,
    real 0 Variable.initialTime 0.0, real 0 Variable.referenceTimeStep 0.5,
    real 1 Variable.negotiatedTimeStep 0.5, forces 1.0, int 1 Variable.convergence 0, forces 2.0,
    int 1 Variable.convergence 1]

def played : Log Parallel × (Except Fault Int32 × Lifecycle) × Mail :=
  (program "flap.yaml" {}).play answer (mailOf sent)

theorem truthful_int (iteration : Int32) (name : String) (value : Int32) :
    (int iteration name value).Truthful where
  empty none := absurd none (by decide : ¬ (1 : Int32) ≤ 0)
  counted _ := ⟨_, rfl, rfl⟩
  ints _ _ member := ⟨_, (Option.some.inj member).symm⟩
  reals kind := absurd kind (by decide : ¬ ((1 : Int32) = 2 ∨ (1 : Int32) = 3))

theorem truthful_real (iteration : Int32) (name : String) (value : Float) :
    (real iteration name value).Truthful where
  empty none := absurd none (by decide : ¬ (1 : Int32) ≤ 0)
  counted _ := ⟨_, rfl, rfl⟩
  ints kind := absurd kind (by decide : ¬ (2 : Int32) = 1)
  reals _ _ member := ⟨_, (Option.some.inj member).symm⟩

theorem truthful_forces (x : Float) : (forces x).Truthful where
  empty none := absurd none (by decide : ¬ (3 : Int32) ≤ 0)
  counted _ := ⟨_, rfl, rfl⟩
  ints kind := absurd kind (by decide : ¬ (3 : Int32) = 1)
  reals _ _ member := ⟨_, (Option.some.inj member).symm⟩

theorem truthful_sent : ∀ m ∈ sent, m.Truthful := by
  unfold sent
  simp [truthful_int, truthful_real, truthful_forces]

theorem nextPayload_cases (limit : Nat) (waiting : Mail) :
    (∃ payload headers payloads, waiting = ⟨headers, payload :: payloads⟩ ∧ payload.size ≤ limit ∧
      nextPayload limit waiting = (.ok payload, ⟨headers, payloads⟩)) ∨
      nextPayload limit waiting = (.error 15, waiting) := by
  obtain ⟨headers, _ | ⟨payload, payloads⟩⟩ := waiting
  · exact .inr rfl
  · by_cases room : payload.size ≤ limit
    · exact .inl ⟨payload, headers, payloads, rfl, room, if_pos room⟩
    · exact .inr (if_neg room)

theorem lawful_broadcastInts (c : Communicator) (root : Int32) (own : List Int32) (waiting : Mail) :
    Lawful ⟨.broadcastInts c root own, (answer (.broadcastInts c root own) waiting).1⟩ := by
  have same : ∀ _ : Fin 1, own.length = own.length := fun _ => rfl
  by_cases here : c = .application ∧ root = 0
  · obtain ⟨rfl, rfl⟩ := here
    exact ⟨[], (Network.answered_broadcastInts same).2 rfl⟩
  · have fails : (answer (.broadcastInts c root own) waiting).1 = .error 15 := if_neg here
    rw [fails]
    trivial

theorem lawful_gatherCount (c : Communicator) (own : Int32) (waiting : Mail) :
    Lawful ⟨.gatherCount c own, (answer (.gatherCount c own) waiting).1⟩ := by
  by_cases here : c = .application
  · subst here
    exact ⟨[], (@Network.answered_gatherCount 0 [] (Fin.last 0) (fun _ => own) _).2 rfl⟩
  · have fails : (answer (.gatherCount c own) waiting).1 = .error 15 := if_neg here
    rw [fails]
    trivial

theorem lawful_scatterReals (c : Communicator) (values buffer : List Float) (layout : List Int32)
    (waiting : Mail) :
    Lawful ⟨.scatterReals c values layout buffer,
      (answer (.scatterReals c values layout buffer) waiting).1⟩ := by
  by_cases here : c = .application ∧ layout = [Int32.ofNat buffer.length] ∧
      MessageChannel.total layout ≤ values.length
  · have gives : (answer (.scatterReals c values layout buffer) waiting).1 =
        .ok (overwrite buffer (values.take buffer.length)) := if_pos here
    rw [gives]
    obtain ⟨rfl, rfl, enough⟩ := here
    exact ⟨[], fun _ => values, fun _ => _, fun _ => buffer, fun _ => rfl, rfl, enough, rfl⟩
  · have fails : (answer (.scatterReals c values layout buffer) waiting).1 = .error 15 :=
      if_neg here
    rw [fails]
    trivial

theorem lawful_answer (request : Parallel.Request) (waiting : Mail) :
    Lawful ⟨request, (answer request waiting).1⟩ := by
  cases request with
  | receivePayload source limit =>
    show Lawful ⟨.receivePayload source limit, (nextPayload limit waiting).1⟩
    rcases nextPayload_cases limit waiting with ⟨payload, headers, payloads, -, room, gives⟩ | fails
    · rw [gives]
      exact room
    · rw [fails]
      trivial
  | broadcastInts c root own => exact lawful_broadcastInts c root own waiting
  | gatherCount c own => exact lawful_gatherCount c own waiting
  | scatterReals c values layout buffer => exact lawful_scatterReals c values buffer layout waiting
  | _ => trivial

/-- What is taken no longer waits. -/
theorem arrival_answer (request : Parallel.Request) (waiting : Mail) :
    Network.arrival ⟨request, (answer request waiting).1⟩ ++ (answer request waiting).2 = waiting := by
  cases request with
  | receiveHeader source =>
    obtain ⟨_ | ⟨header, headers⟩, payloads⟩ := waiting
    · rfl
    · rfl
  | receivePayload source limit =>
    show Network.arrival ⟨.receivePayload source limit, (nextPayload limit waiting).1⟩ ++
      (nextPayload limit waiting).2 = waiting
    rcases nextPayload_cases limit waiting with ⟨payload, headers, payloads, rfl, -, gives⟩ | fails
    · rw [gives]
      rfl
    · rw [fails]
      rfl
  | _ => rfl

theorem arrived_play {α : Type} (p : Program Parallel α) (waiting : Mail) :
    arrived (p.play answer waiting).1 ++ (p.play answer waiting).2.2 = waiting := by
  induction p generalizing waiting with
  | done value => rfl
  | ask request next ih =>
    refine Eq.trans (Mail.append_assoc ..) (Eq.trans ?_ (arrival_answer request waiting))
    exact congrArg (_ ++ ·) (ih _ _)

theorem lawful_play {α : Type} (p : Program Parallel α) (waiting : Mail) :
    ∀ made ∈ (p.play answer waiting).1, Lawful made := by
  intro made member
  obtain ⟨now, same⟩ := Program.mem_play member
  rw [same]
  exact lawful_answer _ _

theorem foremost_play {α : Type} {p : Program Parallel α} {waiting : Mail} {rank : Int32}
    (member : ⟨.rank .application, .ok rank⟩ ∈ (p.play answer waiting).1) : rank = 0 := by
  obtain ⟨now, same⟩ := Program.mem_play member
  have replied : (Except.ok rank : Except Code Int32) = .ok 0 := by
    simpa [answer] using same
  exact Except.ok.inj replied

theorem taken_play {α : Type} (p : Program Parallel α) (incoming : List Incoming) :
    From incoming (arrived (p.play answer (mailOf incoming)).1) where
  headers := ⟨_, congrArg Mail.headers (arrived_play p (mailOf incoming))⟩
  payloads := ⟨_, congrArg Mail.payloads (arrived_play p (mailOf incoming))⟩

set_option maxRecDepth 100000 in
theorem steps_reported : (reports played.1).map Report.step = [1] := by decide +kernel

/-- The first step is committed, and the second one is cut. -/
theorem commits_whole_steps_cut :
    (program "flap.yaml").Runs {} played.1 played.2.1.1 played.2.1.2 ∧
    (∀ made ∈ played.1, Lawful made) ∧
    (∀ rank, ⟨.rank .application, .ok rank⟩ ∈ played.1 → rank = 0) ∧
    (∀ m ∈ sent, m.Truthful) ∧ From sent (arrived played.1) ∧
    (reports played.1).map Report.step = [1] ∧
    ∃ (l : Layout) (o : Oscillator) (a : Account l o sent played.1), a.rounds.length = 1 := by
  have run : (program "flap.yaml").Runs {} played.1 played.2.1.1 played.2.1.2 := by
    have playing : (program "flap.yaml" {}).play answer (mailOf sent) = played := rfl
    exact Act.runs_play playing
  have lawful : ∀ made ∈ played.1, Lawful made := lawful_play (program "flap.yaml" {}) (mailOf sent)
  have foremost : ∀ rank, ⟨.rank .application, .ok rank⟩ ∈ played.1 → rank = 0 :=
    fun rank => @foremost_play _ (program "flap.yaml" {}) (mailOf sent) rank
  have taken : From sent (arrived played.1) := taken_play (program "flap.yaml" {}) sent
  refine ⟨run, lawful, foremost, truthful_sent, taken, steps_reported, ?_⟩
  rcases commits_whole_steps run lawful foremost truthful_sent taken with aside | ⟨l, o, a, same, -⟩
  · have none := steps_reported
    rw [reports_of_reticent fun made member => (aside made member).reticent] at none
    cases none
  · have one := congrArg List.length steps_reported
    rw [same, List.length_map, length_told] at one
    exact ⟨l, o, a, one⟩

end CutRun

end FluidStructure.Programs.Structure
