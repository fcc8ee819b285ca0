import FluidStructure.Proofs.Network.Incoming
import FluidStructure.Proofs.Programs.Reports

/-!
# A step of the structure, message by message

The fluid sends what it likes, and any exchange may fail.  A step that succeeds has taken the
messages of one round and nothing else, no exchange of it has failed, and what it commits depends
on the forces that came last and on the agreed length only.
-/

namespace FluidStructure.Programs.Structure

open FluidStructure.Channel FluidStructure.Coupling FluidStructure.Journal FluidStructure.Parallel
open Network (Mail Incoming From Receiving Consumed Took Unbroken Lawful arrived mailOf)

/-! ## What the fluid sends -/

/-- The messages of a sub-iteration. -/
structure Turn where
  forces : Incoming
  flag : Incoming

namespace Turn

def messages (t : Turn) : List Incoming := [t.forces, t.flag]

/-- The fluid has converged. -/
def Converged (t : Turn) : Prop := t.flag.int 0 = 1

/-- The messages are those that the structure waits for. -/
structure Awaited (l : Layout) (step : Int32) (t : Turn) : Prop where
  forces : (Receiving.field Variable.fluidForces (Session.zeroVectors l.faces)).Accepts t.forces.header
  flag : (Receiving.ints step Variable.convergence [0]).Accepts t.flag.header

end Turn

/-- The messages of all sub-iterations of a step. -/
structure Turns where
  former : List Turn
  last : Turn

namespace Turns

def list (ts : Turns) : List Turn := ts.former ++ [ts.last]

def messages (ts : Turns) : List Incoming := ts.list.flatMap Turn.messages

/-- The last one is the first after which the fluid has converged, or as many as there can be have
gone by. -/
structure Awaited (l : Layout) (step : Int32) (bound : Nat) (ts : Turns) : Prop where
  turns : ∀ t ∈ ts.list, t.Awaited l step
  again : ∀ t ∈ ts.former, ¬ t.Converged
  most : ts.list.length ≤ bound
  ends : ts.last.Converged ∨ ts.list.length = bound

variable {l : Layout} {step : Int32} {bound : Nat} {t : Turn} {ts : Turns}

theorem awaited_single (awaited : t.Awaited l step) (ends : t.Converged ∨ bound = 0) :
    (⟨[], t⟩ : Turns).Awaited l step (bound + 1) where
  turns := List.forall_mem_singleton.2 awaited
  again := List.forall_mem_nil _
  most := Nat.le_add_left 1 bound
  ends := ends.imp_right fun none => by rw [none]; rfl

theorem Awaited.cons (first : t.Awaited l step) (again : ¬ t.Converged)
    (h : ts.Awaited l step bound) :
    (⟨t :: ts.former, ts.last⟩ : Turns).Awaited l step (bound + 1) where
  turns := List.forall_mem_cons.2 ⟨first, h.turns⟩
  again := List.forall_mem_cons.2 ⟨again, h.again⟩
  most := Nat.succ_le_succ h.most
  ends := h.ends.imp_right (congrArg (· + 1))

end Turns

/-- The messages of a step: its length, and its sub-iterations. -/
structure Round where
  agreed : Incoming
  turns : Turns

/-- What the steps carry from one to the next. -/
structure Committed where
  oscillator : Oscillator
  time : Float

def State.committed (s : State) : Committed := ⟨s.oscillator, s.time⟩

/-- What is reported after a step. -/
def Committed.report (k : Committed) (step : Int32) : Report := ⟨step, k.time, k.oscillator.motion⟩

namespace Round

variable (l : Layout)

def messages (r : Round) : List Incoming := r.agreed :: r.turns.messages

structure Awaited (p : RunParameters) (step : Int32) (r : Round) : Prop where
  agreed : (Receiving.reals step Variable.negotiatedTimeStep [l.proposedStep]).Accepts r.agreed.header
  turns : r.turns.Awaited l step (cap p)

/-- The negotiated step, or the proposed one if the message carries no value. -/
def dt (r : Round) : Float := r.agreed.real l.proposedStep

/-- The forces that came last.  A field that is too long for a count is padded with zeros. -/
def forces (r : Round) : List Float := r.turns.last.forces.field (Session.zeroVectors l.faces)

/-- The step from what was committed before, under the forces that came last. -/
def commit (r : Round) (k : Committed) : Committed where
  oscillator := k.oscillator.commit (k.oscillator.trial (resultant (r.forces l)) (r.dt l))
  time := k.time + r.dt l

end Round

/-! ## Forces that are received over and over -/

/-- The buffer of the forces, whatever was received into it: a field either fills it or always stops
at the same place. -/
structure Ready (l : Layout) (forces : List Float) : Prop where
  length : forces.length = (Session.zeroVectors l.faces).length
  rest : forces.drop (Int32.ofNat forces.length).toNatClampNeg =
    (Session.zeroVectors l.faces).drop (Int32.ofNat forces.length).toNatClampNeg

namespace Ready

variable {l : Layout} {forces : List Float} {m : Incoming}

theorem zeros : Ready l (Session.zeroVectors l.faces) := ⟨rfl, rfl⟩

theorem accepts (ready : Ready l forces) {name : String} {header : Header}
    (h : (Receiving.field name forces).Accepts header) :
    (Receiving.field name (Session.zeroVectors l.faces)).Accepts header where
  key := h.key
  fine := h.fine
  room := h.room.trans_eq ready.length
  whole field := (h.whole field).trans (congrArg Int32.ofNat ready.length)

/-- What was in the buffer before does not show. -/
theorem field_eq (ready : Ready l forces) {name : String} (truthful : m.Truthful)
    (accepted : (Receiving.field name forces).Accepts m.header) :
    m.field forces = m.field (Session.zeroVectors l.faces) ∧ Ready l (m.field forces) := by
  have whole : m.header.count = Int32.ofNat forces.length := accepted.whole rfl
  by_cases some : 0 < m.header.count
  · obtain ⟨payload, carried, count⟩ := truthful.counted some
    obtain ⟨new, rfl⟩ := (show ∃ new, payload = .reals new by
      have sort := truthful.sameType accepted carried
      cases payload with
      | ints new => exact sort.elim
      | reals new => exact ⟨new, rfl⟩)
    have long : new.length = (Int32.ofNat forces.length).toNatClampNeg := by
      rw [← whole]
      exact count
    have fits : new.length ≤ forces.length := long.trans_le (Network.toNatClampNeg_ofNat_le _)
    have fields (old : List Float) : m.field old = new ++ old.drop new.length := by
      unfold Incoming.field
      rw [carried]
    have same : m.field forces = m.field (Session.zeroVectors l.faces) := by
      rw [fields, fields, long, ready.rest]
    have kept : (m.field forces).length = forces.length := by
      rw [fields, List.length_append, List.length_drop]
      omega
    refine ⟨same, kept.trans ready.length, ?_⟩
    rw [kept, fields, ← long, List.drop_left, long, ready.rest]
  · have none := truthful.empty (Int32.not_lt.1 some)
    have fields (old : List Float) : m.field old = old := by
      unfold Incoming.field
      rw [none]
    rw [fields, fields]
    refine ⟨?_, ready⟩
    have zero : (Int32.ofNat forces.length).toNatClampNeg = 0 := by
      rw [← whole]
      exact Int.toNat_of_nonpos (Int32.le_iff_toInt_le.1 (Int32.not_lt.1 some))
    have rest := ready.rest
    rwa [zero] at rest

end Ready

/-! ## Runs of a step -/

section Runs

variable {l : Layout} {o : Oscillator} {p : RunParameters} {step : Int32} {c d : MessageChannel}
  {log : Log Parallel} {incoming : List Incoming} {later : Mail}

theorem took_negotiate {dt : Float} (lawful : ∀ made ∈ log, Lawful made)
    (run : (negotiate l step).Runs log (some dt)) (truthful : ∀ m ∈ incoming, m.Truthful)
    (taken : From incoming (arrived log ++ later)) :
    Took log incoming later
      (Receiving.reals step Variable.negotiatedTimeStep [l.proposedStep]).Accepts
      fun m => dt = m.real l.proposedStep := by
  obtain ⟨first, sent, second, rfl, sends, onward⟩ := Program.runs_bind.1 run
  rw [Network.arrived_append, Mail.append_assoc] at taken
  obtain ⟨none, whole⟩ := Network.runs_sendMessage sends
  split at onward
  · cases (Program.runs_done.1 onward).2
  rename_i fine
  have proposed := Consumed.nothing none (whole (Bool.eq_false_iff.2 fine)) taken
  obtain ⟨⟨status, value⟩, receives, same⟩ := Program.runs_bind_done.1 onward
  dsimp only at same
  split at same
  · cases same
  rename_i fine
  obtain rfl := Option.some.inj same
  obtain ⟨m, rest, consumed, accepted, read⟩ := Network.runs_receiveReal
    (fun made member => lawful made (List.mem_append_right _ member)) receives
    (Bool.eq_false_iff.2 fine) truthful proposed.onward
  exact ⟨m, rest, proposed.append consumed, accepted, read⟩

/-- A field is sent, and what follows is not to be lost. -/
theorem consumed_sending {γ : Type} {name : String} {values : List Float} {lost value : γ}
    {f : Act Parallel MessageChannel γ} (root : c.isLocalRoot = true)
    (lawful : ∀ made ∈ log, Lawful made)
    (run : (MessageChannel.sendField l.fluid name values >>= fun sent =>
      if Status.failed sent then pure lost else f).Runs c log (.ok value) d)
    (going : value ≠ lost) (taken : From incoming (arrived log ++ later)) :
    ∃ first e second, log = first ++ second ∧ e.isLocalRoot = true ∧
      Consumed first incoming (arrived second ++ later) [] incoming ∧
      f.Runs e second (.ok value) d := by
  obtain ⟨first, sent, e, second, rfl, sends, onward⟩ := Act.runs_bind_ok.1 run
  obtain ⟨none, still, whole⟩ :=
    Network.runs_sendField root (List.forall_mem_append.1 lawful).1 sends
  rw [Network.arrived_append, Mail.append_assoc] at taken
  split at onward
  · exact absurd (Except.ok.inj (Act.runs_pure.1 onward).2.1) going
  · rename_i fine
    exact ⟨first, e, second, rfl, still,
      .nothing none (whole (Bool.eq_false_iff.2 fine)) taken, onward⟩

theorem took_answerMotion {m : Motion} {answered : Answered} (root : c.isLocalRoot = true)
    (lawful : ∀ made ∈ log, Lawful made)
    (run : (answerMotion l step m).Runs c log (.ok answered) d) (going : answered ≠ .lost)
    (truthful : ∀ m ∈ incoming, m.Truthful) (taken : From incoming (arrived log ++ later)) :
    d.isLocalRoot = true ∧ Took log incoming later
      (Receiving.ints step Variable.convergence [0]).Accepts
      fun m => answered = if m.int 0 = 1 then .converged else .again := by
  obtain ⟨first, e, second, rfl, root, displaced, onward⟩ :=
    consumed_sending root lawful run going taken
  have lawful := (List.forall_mem_append.1 lawful).2
  obtain ⟨third, e, fourth, rfl, root, moved, onward⟩ :=
    consumed_sending root lawful onward going displaced.onward
  have lawful := (List.forall_mem_append.1 lawful).2
  -- the flag
  obtain ⟨fifth, ⟨status, flag⟩, u, sixth, rfl, receives, ends⟩ := Act.runs_bind_ok.1 onward
  obtain ⟨got, fetches, same, rfl⟩ := Act.runs_lift.1 receives
  obtain rfl := Except.ok.inj same
  obtain ⟨rfl, same, rfl⟩ := Act.runs_pure.1 ends
  obtain rfl := Except.ok.inj same
  rw [List.append_nil] at lawful displaced moved ⊢
  have fine : Status.failed status = false := by
    by_contra failed
    rw [Bool.not_eq_false] at failed
    exact going (if_pos failed)
  obtain ⟨m, rest, consumed, accepted, rfl⟩ :=
    Network.runs_receiveInt lawful fetches fine truthful moved.onward
  refine ⟨root, m, rest, displaced.append (moved.append consumed), accepted, ?_⟩
  rw [if_neg (Bool.eq_false_iff.1 fine)]

/-- The motion under the forces of a turn. -/
def Turn.motion (l : Layout) (o : Oscillator) (dt : Float) (t : Turn) : Motion :=
  o.trial (resultant (t.forces.field (Session.zeroVectors l.faces))) dt

section Turns

variable {dt : Float} {n : Nat} {m m' : Motion} {forces forces' : List Float}

/-- A sub-iteration of a step that is not lost takes two messages.  What follows depends on nothing
that was there before. -/
theorem turn_of_subIterate (root : c.isLocalRoot = true) (lawful : ∀ made ∈ log, Lawful made)
    (ready : Ready l forces)
    (run : (subIterate l o step dt (n + 1) m forces).Runs c log (.ok (m', forces', true)) d)
    (truthful : ∀ m ∈ incoming, m.Truthful) (taken : From incoming (arrived log ++ later)) :
    ∃ (t : Turn) (rest : List Incoming) (buffer : List Float) (e : MessageChannel)
      (first second : Log Parallel), log = first ++ second ∧ t.Awaited l step ∧
      Consumed first incoming (arrived second ++ later) t.messages rest ∧
      e.isLocalRoot = true ∧ Ready l buffer ∧
      ((t.Converged ∧ m' = t.motion l o dt ∧ forces' = buffer ∧ second = [] ∧ d = e) ∨
        (¬ t.Converged ∧ (subIterate l o step dt n (t.motion l o dt) buffer).Runs e second
          (.ok (m', forces', true)) d)) := by
  obtain ⟨first, ⟨status, received⟩, u, second, rfl, receives, onward⟩ := Act.runs_bind_ok.1 run
  obtain ⟨lawful, lawful'⟩ := List.forall_mem_append.1 lawful
  have still := (Network.runs_receiveField root lawful receives).1
  rw [Network.arrived_append, Mail.append_assoc] at taken
  dsimp only at onward
  split at onward
  · cases (Act.runs_pure.1 onward).2.1
  rename_i fine
  obtain ⟨f, rest, came, accepted, rfl⟩ :=
    Network.took_field root lawful receives (Bool.eq_false_iff.2 fine) truthful taken
  have honest : f.Truthful := truthful f (came.incoming ▸ List.mem_cons_self)
  obtain ⟨same, ready'⟩ := ready.field_eq honest accepted
  obtain ⟨third, answered, v, fourth, rfl, answers, ends⟩ := Act.runs_bind_ok.1 onward
  have going : answered ≠ .lost := by
    rintro rfl
    cases (Act.runs_pure.1 ends).2.1
  rw [Network.arrived_append, Mail.append_assoc] at came
  obtain ⟨root, g, rest', told, accepted', rfl⟩ := took_answerMotion still
    (List.forall_mem_append.1 lawful').1 answers going
    (fun m member => truthful m (came.incoming ▸ List.mem_cons_of_mem _ member)) came.onward
  have trial : o.trial (resultant (f.field forces)) dt = Turn.motion l o dt ⟨f, g⟩ := by
    unfold Turn.motion
    rw [same]
  rw [trial] at ends
  refine ⟨⟨f, g⟩, rest', f.field forces, v, first ++ third, fourth, by rw [List.append_assoc],
    ⟨ready.accepts accepted, accepted'⟩, came.append told, root, ready', ?_⟩
  by_cases converged : g.int 0 = 1
  · rw [if_pos converged] at ends
    obtain ⟨rfl, result, rfl⟩ := Act.runs_pure.1 ends
    obtain ⟨rfl, buffers⟩ := Prod.mk.inj (Except.ok.inj result)
    exact .inl ⟨converged, rfl, (Prod.mk.inj buffers).1, rfl, rfl⟩
  · rw [if_neg converged] at ends
    exact .inr ⟨converged, ends⟩

/-- The sub-iterations of a step that are not lost take their messages and end with the motion under
the forces of the last one. -/
theorem turns_of_subIterate (root : c.isLocalRoot = true) (lawful : ∀ made ∈ log, Lawful made)
    (ready : Ready l forces)
    (run : (subIterate l o step dt (n + 1) m forces).Runs c log (.ok (m', forces', true)) d)
    (truthful : ∀ m ∈ incoming, m.Truthful) (taken : From incoming (arrived log ++ later)) :
    ∃ (ts : Turns) (rest : List Incoming), ts.Awaited l step (n + 1) ∧
      Consumed log incoming later ts.messages rest ∧ d.isLocalRoot = true ∧ Ready l forces' ∧
      m' = ts.last.motion l o dt := by
  induction n generalizing c log incoming m forces with
  | zero =>
    obtain ⟨t, rest, buffer, e, first, second, rfl, awaited, came, root, ready, ends⟩ :=
      turn_of_subIterate root lawful ready run truthful taken
    have single := Turns.awaited_single awaited (.inr rfl)
    rcases ends with ⟨-, rfl, rfl, rfl, rfl⟩ | ⟨-, ends⟩
    · rw [List.append_nil]
      exact ⟨⟨[], t⟩, rest, single, came, root, ready, rfl⟩
    · obtain ⟨rfl, result, rfl⟩ := Act.runs_pure.1 ends
      obtain ⟨rfl, buffers⟩ := Prod.mk.inj (Except.ok.inj result)
      obtain ⟨rfl, -⟩ := Prod.mk.inj buffers
      rw [List.append_nil]
      exact ⟨⟨[], t⟩, rest, single, came, root, ready, rfl⟩
  | succ n ih =>
    obtain ⟨t, rest, buffer, e, first, second, rfl, awaited, came, root, ready, ends⟩ :=
      turn_of_subIterate root lawful ready run truthful taken
    rcases ends with ⟨converged, rfl, rfl, rfl, rfl⟩ | ⟨again, onward⟩
    · rw [List.append_nil]
      exact ⟨⟨[], t⟩, rest, Turns.awaited_single awaited (.inl converged), came, root, ready, rfl⟩
    · obtain ⟨ts, rest', awaited', came', root, ready, trial⟩ :=
        ih root (List.forall_mem_append.1 lawful).2 ready onward
          (fun m member => truthful m (came.incoming ▸ List.mem_append_right _ member)) came.onward
      exact ⟨⟨t :: ts.former, ts.last⟩, rest', .cons awaited again awaited', came.append came', root,
        ready, trial⟩

end Turns

theorem cap_pos (p : RunParameters) : 0 < cap p := by
  unfold cap
  split
  · rename_i several
    have : (1 : Int32).toInt < p.maxSubIterations.toInt := Int32.lt_iff_toInt_lt.1 several
    have one : (1 : Int32).toInt = 1 := rfl
    unfold Int32.toNatClampNeg
    omega
  · decide

/-- What came of a step of the loop that succeeded. -/
structure Stepped (l : Layout) (p : RunParameters) (step : Int32) (incoming : List Incoming)
    (later : Mail) (s : State) (log : Log Parallel) (s' : State) (r : Round) (rest : List Incoming) :
    Prop where
  awaited : r.Awaited l p step
  consumed : Consumed log incoming later r.messages rest
  commits : s'.committed = r.commit l s.committed
  reports : reports log = [s'.committed.report step]

variable {s : State} {result : Except Fault State}

/-- A step is committed, and then all its exchanges have succeeded, or it changes nothing. -/
theorem runs_timeStep (root : c.isLocalRoot = true) (lawful : ∀ made ∈ log, Lawful made)
    (ready : Ready l s.forces) (run : (timeStep l p step s).Runs c log result d)
    (truthful : ∀ m ∈ incoming, m.Truthful) (taken : From incoming (arrived log ++ later)) :
    (reports log = [] ∧ ∀ s', result = .ok s' → s'.connected = false ∧ s'.committed = s.committed) ∨
      ∃ s' r rest, result = .ok s' ∧ s'.connected = true ∧
        Stepped l p step incoming later s log s' r rest ∧ d.isLocalRoot = true ∧ Ready l s'.forces := by
  rcases Act.runs_bind.1 run with ⟨first, agreed, u, second, rfl, agrees, onward⟩ | ⟨_, -, wrong⟩
  swap
  · obtain ⟨_, -, wrong, -⟩ := Act.runs_lift.1 wrong
    cases wrong
  obtain ⟨agreed, negotiates, same, rfl⟩ := Act.runs_lift.1 agrees
  obtain rfl := Except.ok.inj same
  have opening := reports_of_reticent (Program.Asks.of_runs (reticent_negotiate l step) negotiates)
  cases agreed with
  | none =>
    left
    obtain ⟨_, rest, rfl, ends⟩ := Act.runs_perform_bind.1 onward
    obtain ⟨rfl, rfl, -⟩ := Act.runs_pure.1 ends
    refine ⟨by rw [reports_append, opening]; rfl, fun s' same => ?_⟩
    obtain rfl := Except.ok.inj same
    exact ⟨rfl, rfl⟩
  | some dt =>
    rcases Act.runs_bind.1 onward with ⟨third, ⟨m, forces, connected⟩, v, fourth, rfl, turns, ends⟩ |
      ⟨fault, rfl, turns⟩
    swap
    · have silent := reports_of_reticent ((reticent_subIterate l step _ _ _ _ _).of_runs turns)
      exact .inl ⟨by rw [reports_append, opening, silent]; rfl, nofun⟩
    have silent := reports_of_reticent ((reticent_subIterate l step _ _ _ _ _).of_runs turns)
    cases connected with
    | false =>
      left
      obtain ⟨_, _, rfl, leaves⟩ := Act.runs_perform_bind.1 ends
      obtain ⟨rfl, rfl, -⟩ := Act.runs_pure.1 leaves
      refine ⟨by rw [reports_append, reports_append, opening, silent]; rfl, fun s' same => ?_⟩
      obtain rfl := Except.ok.inj same
      exact ⟨rfl, rfl⟩
    | true =>
      right
      obtain ⟨_, _, rfl, leaves⟩ := Act.runs_perform_bind.1 ends
      obtain ⟨rfl, rfl, rfl⟩ := Act.runs_pure.1 leaves
      obtain ⟨lawful, lawful'⟩ := List.forall_mem_append.1 lawful
      rw [Network.arrived_append, Mail.append_assoc] at taken
      obtain ⟨m₀, rest, came, accepted, rfl⟩ := took_negotiate lawful negotiates truthful taken
      rw [Network.arrived_append, Mail.append_assoc] at came
      obtain ⟨n, some⟩ := Nat.exists_eq_add_one.2 (cap_pos p)
      rw [some] at turns
      obtain ⟨ts, rest', awaited, came', root, ready, rfl⟩ := turns_of_subIterate root
        (List.forall_mem_append.1 lawful').1 ready turns
        (fun m member => truthful m (came.incoming ▸ List.mem_append_right _ member)) came.onward
      have told : Consumed [⟨.note (.structureStep step (s.time + m₀.real l.proposedStep) _ _), _⟩]
          rest' later [] rest' := .nothing rfl (.cons rfl .nil) came'.onward
      refine ⟨_, ⟨m₀, ts⟩, rest', rfl, rfl, ⟨⟨accepted, some ▸ awaited⟩, ?_, rfl, ?_⟩, root, ready⟩
      · have all := (came.append came').append told
        rwa [List.append_nil, List.append_assoc] at all
      · rw [reports_append, reports_append, opening, silent]
        rfl

end Runs

end FluidStructure.Programs.Structure
