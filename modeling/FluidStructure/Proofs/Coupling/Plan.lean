import FluidStructure.Proofs.Coupling.Silence

/-!
# Following a plan

The calls that a stretch of a run should make are its plan.  On rank 0, with a compliant
solver, a stretch gets through its plan, or a call of the plan fails and the peer is lost,
or an operation of the local group faults.  These cases compose along sequences.
-/

namespace FluidStructure.Coupling

open FluidStructure.Channel

/-- The calls of a plan, all of them successful. -/
def succeeded (plan : List Call) : List (Call × Bool) := plan.map fun call => (call, true)

@[simp] theorem succeeded_nil : succeeded [] = [] := rfl

@[simp] theorem succeeded_append (first second : List Call) :
    succeeded (first ++ second) = succeeded first ++ succeeded second := List.map_append

/-- The calls keep to the plan up to one that fails, and stop there. -/
def Cut (plan : List Call) (calls : List (Call × Bool)) : Prop :=
  ∃ before call after, plan = before ++ call :: after ∧
    calls = succeeded before ++ [(call, false)]

/-- The calls keep to the plan as far as they go. -/
def Part (plan : List Call) (calls : List (Call × Bool)) : Prop :=
  (∃ before after, plan = before ++ after ∧ calls = succeeded before) ∨ Cut plan calls

theorem Cut.append_right {plan : List Call} {calls : List (Call × Bool)} (h : Cut plan calls)
    (later : List Call) : Cut (plan ++ later) calls := by
  obtain ⟨before, call, after, rfl, rfl⟩ := h
  exact ⟨before, call, after ++ later, by simp, rfl⟩

theorem Cut.append_left {plan : List Call} {calls : List (Call × Bool)} (h : Cut plan calls)
    (first : List Call) : Cut (first ++ plan) (succeeded first ++ calls) := by
  obtain ⟨before, call, after, rfl, rfl⟩ := h
  exact ⟨first ++ before, call, after, by simp, by simp⟩

theorem Part.append_right {plan : List Call} {calls : List (Call × Bool)} (h : Part plan calls)
    (later : List Call) : Part (plan ++ later) calls := by
  rcases h with ⟨before, after, rfl, rfl⟩ | cut
  · exact .inl ⟨before, after ++ later, by simp, rfl⟩
  · exact .inr (cut.append_right later)

theorem Part.append_left {plan : List Call} {calls : List (Call × Bool)} (h : Part plan calls)
    (first : List Call) : Part (first ++ plan) (succeeded first ++ calls) := by
  rcases h with ⟨before, after, rfl, rfl⟩ | cut
  · exact .inl ⟨first ++ before, after, by simp, by simp⟩
  · exact .inr (cut.append_left first)

/-- What is known of the exchanges of rank 0: a broadcast gives the own values, and the solver
does not fault. -/
def Compliant (e : Exchange Coupling) : Prop :=
  match e with
  | ⟨.broadcastReals buffer, reply⟩ => ∀ values, reply = .ok values → values = buffer
  | ⟨.broadcastInts buffer, reply⟩ => ∀ values, reply = .ok values → values = buffer
  | ⟨.computeForces .., reply⟩ => reply.1 = .ok ()
  | ⟨.imposeDisplacement .., reply⟩ => reply = .ok ()
  | ⟨.peerConvergence .., reply⟩ => ∃ converged, reply = .ok converged
  | _ => True

/-- Does an operation of the local group fault? -/
def Faulty (log : Log Coupling) : Prop := ∃ e ∈ log, e.request.faults e.reply = true

theorem Faulty.append_left {log : Log Coupling} (h : Faulty log) (first : Log Coupling) :
    Faulty (first ++ log) := by
  obtain ⟨e, member, fault⟩ := h
  exact ⟨e, List.mem_append_right _ member, fault⟩

theorem Faulty.append_right {log : Log Coupling} (h : Faulty log) (later : Log Coupling) :
    Faulty (log ++ later) := by
  obtain ⟨e, member, fault⟩ := h
  exact ⟨e, List.mem_append_left _ member, fault⟩

namespace Controller

variable {α β : Type}

/-- How far a stretch gets with one of several plans. -/
inductive Gets (plans : List Call → Prop) (Q : α → Controller → Prop) (log : Log Coupling) :
    Except Fault α → Controller → Prop
  | through {plan : List Call} {value : α} {d : Controller} (planned : plans plan)
      (all : trace log = succeeded plan) (post : Q value d) : Gets plans Q log (.ok value) d
  | broken {plan : List Call} {result : Except Fault α} {d : Controller} (planned : plans plan)
      (cut : Cut plan (trace log)) (orphaned : d.Orphaned) : Gets plans Q log result d
  | stopped {plan : List Call} {fault : Fault} {d : Controller} (planned : plans plan)
      (part : Part plan (trace log)) (faulty : Faulty log) : Gets plans Q log (.error fault) d

theorem Gets.map {plans : List Call → Prop} {Q : α → Controller → Prop}
    {R : β → Controller → Prop} {log : Log Coupling} {result : Except Fault α} {d : Controller}
    {g : α → β} (h : Gets plans Q log result d) (post : ∀ value, Q value d → R (g value) d) :
    Gets plans R log (result.map g) d := by
  cases h with
  | through planned all reached => exact .through planned all (post _ reached)
  | broken planned cut orphaned => exact .broken planned cut orphaned
  | stopped planned part faulty => exact .stopped planned part faulty

/-- Every compliant run of a program on the controller gets so far. -/
def Leads (p : Program Coupling (Except Fault α × Controller)) (plans : List Call → Prop)
    (Q : α → Controller → Prop) : Prop :=
  ∀ log result d, p.Runs log (result, d) → (∀ e ∈ log, Compliant e) → Gets plans Q log result d

/-- After a failed call, every compliant run makes no further call and ends without the peer,
or with the fault of a group operation. -/
def Loses (p : Program Coupling (Except Fault α × Controller)) : Prop :=
  ∀ log result d, p.Runs log (result, d) → (∀ e ∈ log, Compliant e) →
    calls log = [] ∧ (d.Orphaned ∨ Faulty log ∧ ∃ fault, result = .error fault)

variable {p : Program Coupling (Except Fault α × Controller)} {c : Controller}
  {plans later : List Call → Prop} {Q : α → Controller → Prop} {R : β → Controller → Prop}

/-! ### Programs after a failed call -/

theorem loses_done {result : Except Fault α} {d : Controller} (h : d.Orphaned) :
    Loses (.done (result, d)) := by
  intro log outcome e run _
  obtain ⟨rfl, k⟩ := Program.runs_done.1 run
  obtain ⟨rfl, rfl⟩ := Prod.mk.inj k
  exact ⟨rfl, .inl h⟩

theorem loses_ask {request : Request}
    {next : request.Reply → Program Coupling (Except Fault α × Controller)}
    (silent : request.call? = none)
    (h : ∀ reply, Compliant ⟨request, reply⟩ →
      (request.faults reply = true ∧ ∃ fault d, next reply = .done (.error fault, d)) ∨
      Loses (next reply)) :
    Loses (.ask request next) := by
  intro log result d run compliant
  obtain ⟨reply, rest, rfl, onward⟩ := Program.runs_ask.1 run
  rw [calls_cons, silent]
  rcases h reply (compliant _ List.mem_cons_self) with ⟨fault, f, e, ending⟩ | loses
  · rw [ending] at onward
    obtain ⟨rfl, k⟩ := Program.runs_done.1 onward
    obtain ⟨rfl, rfl⟩ := Prod.mk.inj k
    exact ⟨rfl, .inr ⟨⟨_, List.mem_cons_self, fault⟩, f, rfl⟩⟩
  · obtain ⟨mute, ending⟩ := loses _ _ _ onward fun x member =>
      compliant x (List.mem_cons_of_mem _ member)
    rw [mute]
    refine ⟨rfl, ending.imp_right ?_⟩
    rintro ⟨faulty, fault⟩
    exact ⟨faulty.append_left [_], fault⟩

theorem loses_noting {condition : Bool} {notice : Journal.Notice} (h : Loses p) :
    Loses (noting condition notice p) := by
  cases condition with
  | true => exact loses_ask rfl fun _ _ => .inr h
  | false => exact h

theorem loses_broadcastReals {d : Controller} {buffer : List Float}
    {f : List Float → Program Coupling (Except Fault α × Controller)} (h : Loses (f buffer)) :
    Loses (.ask (.broadcastReals buffer) (opening d f)) := by
  refine loses_ask rfl fun reply compliant => ?_
  cases reply with
  | ok values =>
    rw [compliant values rfl]
    exact .inr h
  | error fault => exact .inl ⟨rfl, fault, d, rfl⟩

theorem loses_broadcastInts {d : Controller} {buffer : List Int32}
    {f : List Int32 → Program Coupling (Except Fault α × Controller)} (h : Loses (f buffer)) :
    Loses (.ask (.broadcastInts buffer) (opening d f)) := by
  refine loses_ask rfl fun reply compliant => ?_
  cases reply with
  | ok values =>
    rw [compliant values rfl]
    exact .inr h
  | error fault => exact .inl ⟨rfl, fault, d, rfl⟩

theorem loses_quiet {act : Act Coupling Controller α} (quiets : act.Keeps Quiet)
    (h : c.Orphaned) {log : Log Coupling} {result : Except Fault α} {d : Controller}
    (run : act.Runs c log result d) : calls log = [] ∧ d.Orphaned := by
  obtain ⟨silent, still⟩ := quiets _ _ _ _ run h
  exact ⟨List.filterMap_eq_nil_iff.2 fun x member => (silent x member).1, still.orphaned⟩

/-! ### Programs with the peer -/

/-- One plan. -/
def exactly (plan : List Call) (other : List Call) : Prop := other = plan

theorem exactly_self (plan : List Call) : ∃ other, exactly plan other := ⟨plan, rfl⟩

theorem leads_done {value : α} {d : Controller} (h : Q value d) :
    Leads (.done (.ok value, d)) (exactly []) Q := by
  intro log result e run _
  obtain ⟨rfl, k⟩ := Program.runs_done.1 run
  obtain ⟨rfl, rfl⟩ := Prod.mk.inj k
  exact .through rfl rfl h

/-- The plans that start with some calls. -/
def prepend (first : List Call) (later : List Call → Prop) (plan : List Call) : Prop :=
  ∃ rest, later rest ∧ plan = first ++ rest

theorem Gets.prepend {first : Log Coupling} {call : List Call} {log : Log Coupling}
    {result : Except Fault α} {d : Controller} (head : trace first = succeeded call)
    (h : Gets plans Q log result d) :
    Gets (Controller.prepend call plans) Q (first ++ log) result d := by
  cases h with
  | through planned all post =>
    refine .through ⟨_, planned, rfl⟩ ?_ post
    rw [trace_append, head, all, succeeded_append]
  | broken planned cut orphaned =>
    refine .broken ⟨_, planned, rfl⟩ ?_ orphaned
    rw [trace_append, head]
    exact cut.append_left call
  | stopped planned part faulty =>
    refine .stopped ⟨_, planned, rfl⟩ ?_ (faulty.append_left _)
    rw [trace_append, head]
    exact part.append_left call

theorem prepend_nil (plans : List Call → Prop) : Controller.prepend [] plans = plans := by
  funext plan
  exact propext ⟨fun ⟨_, planned, same⟩ => same ▸ planned, fun planned => ⟨plan, planned, rfl⟩⟩

theorem some_prepend {first : List Call} (h : ∃ plan, plans plan) :
    ∃ plan, Controller.prepend first plans plan := by
  obtain ⟨plan, planned⟩ := h
  exact ⟨first ++ plan, plan, planned, rfl⟩

theorem exactly_cons (call : Call) (rest : List Call) :
    exactly (call :: rest) = prepend [call] (exactly rest) := by
  funext plan
  refine propext ⟨fun same => ⟨rest, rfl, same⟩, ?_⟩
  rintro ⟨_, rfl, rfl⟩
  rfl

theorem leads_noting {condition : Bool} {notice : Journal.Notice} (h : Leads p plans Q) :
    Leads (noting condition notice p) plans Q := by
  intro log result d run compliant
  obtain ⟨rest, rfl, onward⟩ := runs_noting.1 run
  have head : trace (if condition then [⟨.note notice, ()⟩] else []) = succeeded [] :=
    (local_notes condition notice).trace
  have got := (h _ _ _ onward fun x member =>
    compliant x (List.mem_append_right _ member)).prepend head
  rwa [prepend_nil] at got

/-- A reply is the fault of a group operation, and the program ends; or it lets the program go
on; or it is the failure of a transport call, and the peer is lost. -/
theorem leads_ask {request : Request}
    {next : request.Reply → Program Coupling (Except Fault α × Controller)}
    (some_plan : ∃ plan, plans plan)
    (h : ∀ reply, Compliant ⟨request, reply⟩ →
      (request.faults reply = true ∧ request.succeeds reply = request.call?.isNone ∧
        ∃ fault d, next reply = .done (.error fault, d)) ∨
      (request.succeeds reply = true ∧ Leads (next reply) plans Q) ∨
      (request.succeeds reply = false ∧ request.call?.isSome = true ∧ Loses (next reply))) :
    Leads (.ask request next) (prepend request.call?.toList plans) Q := by
  obtain ⟨some_plan, possible⟩ := some_plan
  intro log result d run compliant
  obtain ⟨reply, rest, rfl, onward⟩ := Program.runs_ask.1 run
  have head : trace [⟨request, reply⟩] =
      request.call?.toList.map fun call => (call, request.succeeds reply) := by
    unfold trace
    rw [List.filterMap_cons, List.filterMap_nil]
    cases request.call? <;> rfl
  rcases h reply (compliant _ List.mem_cons_self) with ⟨fault, called, f, e, ending⟩ |
    ⟨success, onwards⟩ | ⟨failure, called, loses⟩
  · rw [ending] at onward
    obtain ⟨rfl, k⟩ := Program.runs_done.1 onward
    obtain ⟨rfl, rfl⟩ := Prod.mk.inj k
    refine .stopped ⟨_, possible, rfl⟩ ?_ ⟨_, List.mem_cons_self, fault⟩
    rw [head]
    cases call : request.call? with
    | none => exact .inl ⟨[], _, rfl, rfl⟩
    | some call' =>
      rw [call] at called
      rw [called]
      exact .inr ⟨[], call', _, rfl, rfl⟩
  · rw [success] at head
    exact (onwards _ _ _ onward fun x member => compliant x (List.mem_cons_of_mem _ member)).prepend
      head
  · obtain ⟨mute, ending⟩ := loses _ _ _ onward fun x member =>
      compliant x (List.mem_cons_of_mem _ member)
    obtain ⟨call, is⟩ := Option.isSome_iff_exists.1 called
    have cut : Cut (request.call?.toList ++ some_plan) (trace (⟨request, reply⟩ :: rest)) := by
      rw [← List.singleton_append, trace_append, head, trace_of_calls mute, failure, is]
      exact ⟨[], call, some_plan, rfl, rfl⟩
    rcases ending with orphaned | ⟨faulty, fault, rfl⟩
    · exact .broken ⟨_, possible, rfl⟩ cut orphaned
    · exact .stopped ⟨_, possible, rfl⟩ (.inr cut) (faulty.append_left [_])

section Requests

variable {d : Controller} {peer iteration : Int32} {name : String}

theorem leads_sumReals {values : List Float}
    {f : List Float → Program Coupling (Except Fault α × Controller)}
    (some_plan : ∃ plan, plans plan) (h : ∀ sums, Leads (f sums) plans Q) :
    Leads (.ask (.sumReals values) (opening d f)) plans Q := by
  rw [← prepend_nil plans]
  refine leads_ask some_plan fun reply _ => ?_
  cases reply with
  | ok sums => exact .inr (.inl ⟨rfl, h sums⟩)
  | error fault => exact .inl ⟨rfl, rfl, fault, d, rfl⟩

theorem leads_broadcastReals {buffer : List Float}
    {f : List Float → Program Coupling (Except Fault α × Controller)}
    (some_plan : ∃ plan, plans plan) (h : Leads (f buffer) plans Q) :
    Leads (.ask (.broadcastReals buffer) (opening d f)) plans Q := by
  rw [← prepend_nil plans]
  refine leads_ask some_plan fun reply compliant => ?_
  cases reply with
  | ok values =>
    rw [compliant values rfl]
    exact .inr (.inl ⟨rfl, h⟩)
  | error fault => exact .inl ⟨rfl, rfl, fault, d, rfl⟩

theorem leads_broadcastInts {buffer : List Int32}
    {f : List Int32 → Program Coupling (Except Fault α × Controller)}
    (some_plan : ∃ plan, plans plan) (h : Leads (f buffer) plans Q) :
    Leads (.ask (.broadcastInts buffer) (opening d f)) plans Q := by
  rw [← prepend_nil plans]
  refine leads_ask some_plan fun reply compliant => ?_
  cases reply with
  | ok values =>
    rw [compliant values rfl]
    exact .inr (.inl ⟨rfl, h⟩)
  | error fault => exact .inl ⟨rfl, rfl, fault, d, rfl⟩

theorem leads_peerConvergence {session : Session} {own : Bool}
    {f : Bool → Program Coupling (Except Fault α × Controller)}
    (some_plan : ∃ plan, plans plan) (h : ∀ peer, Leads (f peer) plans Q) :
    Leads (.ask (.peerConvergence session own) (opening d f)) plans Q := by
  rw [← prepend_nil plans]
  refine leads_ask some_plan fun reply compliant => ?_
  obtain ⟨converged, rfl⟩ := compliant
  exact .inr (.inl ⟨rfl, h converged⟩)

theorem leads_sendInts {values : List Int32}
    {f : Status → Program Coupling (Except Fault α × Controller)}
    (some_plan : ∃ plan, plans plan)
    (h : ∀ status, Status.failed status = false → Leads (f status) plans Q)
    (l : ∀ status, Status.failed status = true → Loses (f status)) :
    Leads (.ask (.sendInts peer iteration name values) f)
      (prepend [⟨true, .ints, peer, iteration, name⟩] plans) Q := by
  refine leads_ask some_plan fun status _ => .inr ?_
  cases failed : Status.failed status with
  | false => exact .inl ⟨by simp [Request.succeeds, failed], h status failed⟩
  | true => exact .inr ⟨by simp [Request.succeeds, failed], rfl, l status failed⟩

theorem leads_sendReals {values : List Float}
    {f : Status → Program Coupling (Except Fault α × Controller)}
    (some_plan : ∃ plan, plans plan)
    (h : ∀ status, Status.failed status = false → Leads (f status) plans Q)
    (l : ∀ status, Status.failed status = true → Loses (f status)) :
    Leads (.ask (.sendReals peer iteration name values) f)
      (prepend [⟨true, .reals, peer, iteration, name⟩] plans) Q := by
  refine leads_ask some_plan fun status _ => .inr ?_
  cases failed : Status.failed status with
  | false => exact .inl ⟨by simp [Request.succeeds, failed], h status failed⟩
  | true => exact .inr ⟨by simp [Request.succeeds, failed], rfl, l status failed⟩

theorem leads_receiveReals {buffer : List Float}
    {f : Status × List Float → Program Coupling (Except Fault α × Controller)}
    (some_plan : ∃ plan, plans plan)
    (h : ∀ received, Status.failed received.1 = false → Leads (f received) plans Q)
    (l : ∀ received, Status.failed received.1 = true → Loses (f received)) :
    Leads (.ask (.receiveReals peer iteration name buffer) f)
      (prepend [⟨false, .reals, peer, iteration, name⟩] plans) Q := by
  refine leads_ask some_plan fun received _ => .inr ?_
  cases failed : Status.failed received.1 with
  | false => exact .inl ⟨by simp [Request.succeeds, failed], h received failed⟩
  | true => exact .inr ⟨by simp [Request.succeeds, failed], rfl, l received failed⟩

theorem leads_sendField {values : List Float}
    {f : Status → Program Coupling (Except Fault α × Controller)}
    (some_plan : ∃ plan, plans plan)
    (h : ∀ status, Status.failed status = false → Leads (f status) plans Q)
    (l : ∀ status, Status.failed status = true → Loses (f status)) :
    Leads (.ask (.sendField peer name values) (opening d f))
      (prepend [⟨true, .field, peer, 0, name⟩] plans) Q := by
  refine leads_ask some_plan fun reply _ => ?_
  cases reply with
  | error fault => exact .inl ⟨rfl, rfl, fault, d, rfl⟩
  | ok status =>
    right
    cases failed : Status.failed status with
    | false => exact .inl ⟨by simp [Request.succeeds, failed], h status failed⟩
    | true => exact .inr ⟨by simp [Request.succeeds, failed], rfl, l status failed⟩

theorem leads_receiveField {buffer : List Float}
    {f : Status × List Float → Program Coupling (Except Fault α × Controller)}
    (some_plan : ∃ plan, plans plan)
    (h : ∀ received, Status.failed received.1 = false → Leads (f received) plans Q)
    (l : ∀ received, Status.failed received.1 = true → Loses (f received)) :
    Leads (.ask (.receiveField peer name buffer) (opening d f))
      (prepend [⟨false, .field, peer, 0, name⟩] plans) Q := by
  refine leads_ask some_plan fun reply _ => ?_
  cases reply with
  | error fault => exact .inl ⟨rfl, rfl, fault, d, rfl⟩
  | ok received =>
    right
    cases failed : Status.failed received.1 with
    | false => exact .inl ⟨by simp [Request.succeeds, failed], h received failed⟩
    | true => exact .inr ⟨by simp [Request.succeeds, failed], rfl, l received failed⟩

theorem leads_close (some_plan : ∃ plan, plans plan) (h : Leads p plans Q) :
    Leads (.ask (.close peer) fun _ => p)
      (prepend [⟨true, .ending, peer, -1, Variable.ending⟩] plans) Q :=
  leads_ask some_plan fun _ _ => .inr (.inl ⟨rfl, h⟩)

end Requests

/-! ### Acts in sequence -/

theorem Leads.mono {plans' : List Call → Prop} {Q' : α → Controller → Prop}
    (h : Leads p plans Q) (plan : ∀ plan, plans plan → plans' plan)
    (post : ∀ value d, Q value d → Q' value d) : Leads p plans' Q' := by
  intro log result d run compliant
  cases h _ _ _ run compliant with
  | through planned all reached => exact .through (plan _ planned) all (post _ _ reached)
  | broken planned cut orphaned => exact .broken (plan _ planned) cut orphaned
  | stopped planned part faulty => exact .stopped (plan _ planned) part faulty

/-- The plans of two parts in sequence. -/
def inTurn (first later : List Call → Prop) (plan : List Call) : Prop :=
  ∃ before after, first before ∧ later after ∧ plan = before ++ after

theorem inTurn_exactly (first later : List Call) :
    inTurn (exactly first) (exactly later) = exactly (first ++ later) := by
  funext plan
  refine propext ⟨?_, fun same => ⟨first, later, rfl, rfl, same⟩⟩
  rintro ⟨_, _, rfl, rfl, rfl⟩
  rfl

theorem some_inTurn {first later : List Call → Prop} (h : ∃ plan, first plan)
    (k : ∃ plan, later plan) : ∃ plan, inTurn first later plan := by
  obtain ⟨before, planned⟩ := h
  obtain ⟨after, possible⟩ := k
  exact ⟨before ++ after, before, after, planned, possible, rfl⟩

/-- In a sequence the second part follows its plan if the first gets through, and is silent if
the first has lost the peer. -/
theorem leads_bind {act : Act Coupling Controller α} {f : α → Act Coupling Controller β}
    (some_plan : ∃ plan, later plan) (first : Leads (act c) plans Q)
    (second : ∀ value d, Q value d → Leads (f value d) later R)
    (quiets : ∀ value, (f value).Keeps Quiet) :
    Leads ((act >>= f) c) (inTurn plans later) R := by
  obtain ⟨after, possible⟩ := some_plan
  intro log result d run compliant
  rcases Act.runs_bind.1 run with ⟨before, value, e, rest, rfl, h, k⟩ | ⟨fault, rfl, h⟩
  · cases first _ _ _ h fun x member => compliant x (List.mem_append_left _ member) with
    | through planned all post =>
      have late := (second _ _ post _ _ _ k fun x member =>
        compliant x (List.mem_append_right _ member)).prepend all
      cases late with
      | through planned' all' post' =>
        obtain ⟨_, planned', rfl⟩ := planned'
        exact .through ⟨_, _, planned, planned', rfl⟩ all' post'
      | broken planned' cut orphaned =>
        obtain ⟨_, planned', rfl⟩ := planned'
        exact .broken ⟨_, _, planned, planned', rfl⟩ cut orphaned
      | stopped planned' part faulty =>
        obtain ⟨_, planned', rfl⟩ := planned'
        exact .stopped ⟨_, _, planned, planned', rfl⟩ part faulty
    | broken planned cut orphaned =>
      obtain ⟨mute, still⟩ := loses_quiet (quiets value) orphaned k
      refine .broken ⟨_, _, planned, possible, rfl⟩ ?_ still
      rw [trace_append, trace_of_calls mute, List.append_nil]
      exact cut.append_right _
  · cases first _ _ _ h compliant with
    | broken planned cut orphaned =>
      exact .broken ⟨_, _, planned, possible, rfl⟩ (cut.append_right _) orphaned
    | stopped planned part faulty =>
      exact .stopped ⟨_, _, planned, possible, rfl⟩ (part.append_right _) faulty

/-- From states with a property an act follows one of several plans to states with another
property; without the peer it passes nothing on. -/
structure Follows (P : Controller → Prop) (act : Act Coupling Controller α)
    (plans : List Call → Prop) (Q : α → Controller → Prop) : Prop where
  leads : ∀ c, P c → Leads (act c) plans Q
  quiet : act.Keeps Quiet

namespace Follows

variable {P P' : Controller → Prop} {act : Act Coupling Controller α} {plan : List Call}
  {Q' : α → Controller → Prop}

theorem mono (h : Follows P act plans Q) (before : ∀ c, P' c → P c)
    (plan : ∀ plan, plans plan → later plan) (after : ∀ value d, Q value d → Q' value d) :
    Follows P' act later Q' :=
  ⟨fun c start => (h.leads c (before c start)).mono plan after, h.quiet⟩

theorem pure {value : α} (h : ∀ c, P c → Q value c) :
    Follows P (Pure.pure value) (exactly []) Q :=
  ⟨fun c start => leads_done (h c start), Controller.quiet.pure value⟩

theorem bind {f : α → Act Coupling Controller β} (some_plan : ∃ plan, later plan)
    (first : Follows P act plans Q) (second : ∀ value, Follows (Q value) (f value) later R) :
    Follows P (act >>= f) (inTurn plans later) R where
  leads c start := leads_bind some_plan (first.leads c start)
    (fun value d reached => (second value).leads d reached) fun value => (second value).quiet
  quiet := Controller.quiet.bind first.quiet fun value => (second value).quiet

/-- Two parts with one plan each. -/
theorem andThen {f : α → Act Coupling Controller β} {next : List Call}
    (first : Follows P act (exactly plan) Q)
    (second : ∀ value, Follows (Q value) (f value) (exactly next) R) :
    Follows P (act >>= f) (exactly (plan ++ next)) R := by
  rw [← inTurn_exactly]
  exact first.bind (exactly_self _) second

end Follows

end Controller

end FluidStructure.Coupling
