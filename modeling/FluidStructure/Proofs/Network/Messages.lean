import FluidStructure.Proofs.Network

/-!
# Meetings of the two applications

The two applications meet again and again with no mail under way.  Between two meetings one
root sends a message and the other receives it, or the ranks of a group make a collective
request.  As long as no receive has failed, a meeting is known by the programs that are left.
-/

namespace FluidStructure.Parallel

/-! ## What follows on an act -/

/-- Goes on after an act, or ends with its fault. -/
def follows {σ γ δ ε : Type} (f : γ → Act Parallel σ δ)
    (g : Except Fault δ × σ → Program Parallel ε) : Except Fault γ × σ → Program Parallel ε
  | (.ok value, s) => (f value s).bind g
  | (.error fault, s) => g (.error fault, s)

theorem act_bind {σ γ δ ε : Type} (act : Act Parallel σ γ) (f : γ → Act Parallel σ δ) (s : σ)
    (g : Except Fault δ × σ → Program Parallel ε) :
    ((act >>= f) s).bind g = (act s).bind (follows f g) := by
  rw [Act.bind_apply, Program.bind_assoc]
  refine congrArg (Program.bind _) ?_
  funext ⟨result, s⟩
  cases result <;> rfl

end FluidStructure.Parallel

namespace FluidStructure.Network

open FluidStructure.Parallel FluidStructure.Channel FluidStructure.Journal

/-! ## Failed receives -/

/-- The failure of a receive that an exchange shows. -/
def failure? : Exchange Parallel → Option Status
  | ⟨.receiveHeader _, .ok header⟩ =>
    if header.kind = Kind.ending.code then some Status.terminated else none
  | ⟨.note (.unexpectedMessage ..), _⟩ => some Status.protocolError
  | ⟨.note (.headerReceiveFailed ..), _⟩ => some Status.disconnected
  | ⟨.note (.payloadReceiveFailed ..), _⟩ => some Status.disconnected
  | _ => none

/-- The failures of all receives of a log. -/
def failures (log : Log Parallel) : List Status := log.filterMap failure?

@[simp] theorem failures_nil : failures [] = [] := rfl

theorem failures_append (first second : Log Parallel) :
    failures (first ++ second) = failures first ++ failures second :=
  List.filterMap_append

theorem failures_cons (made : Exchange Parallel) (log : Log Parallel) :
    failures (made :: log) = (failure? made).toList ++ failures log := by
  unfold failures
  rw [List.filterMap_cons]
  cases failure? made <;> rfl

/-- Is something received? -/
def isReceive : Exchange Parallel → Bool
  | ⟨.receiveHeader _, _⟩ => true
  | ⟨.receivePayload .., _⟩ => true
  | _ => false

/-- The header that ends a session. -/
def closing : Header := ⟨-1, 0, Kind.ending.code, Variable.ending⟩

/-- The last receive hears from a peer that the session is over, and no other receive has
failed. -/
def EndsWithClosing (peer : Int32) (log : Log Parallel) : Prop :=
  ∃ before after, log = before ++ ⟨.receiveHeader peer, .ok closing⟩ :: after ∧
    failures before = [] ∧ failures after = [] ∧ ∀ made ∈ after, isReceive made = false

/-- The one failure is that the session is over. -/
theorem EndsWithClosing.failures {peer : Int32} {log : Log Parallel} (h : EndsWithClosing peer log) :
    failures log = [Status.terminated] := by
  obtain ⟨before, after, rfl, none, none', -⟩ := h
  rw [failures_append, none, failures_cons, none']
  rfl

end FluidStructure.Network

namespace FluidStructure.Channel.MessageChannel

open FluidStructure.Parallel FluidStructure.Journal

/-! ## A receive, step by step -/

/-- What a receive makes of a payload. -/
def afterPayload (e : Expected) (count : Int32) (buffer : ReceiveBuffer) :
    Except Code Payload → Program Parallel (Status × ReceiveBuffer)
  | .error code =>
    .ask (.note (.payloadReceiveFailed e.name code)) fun _ => .done (Status.disconnected, buffer)
  | .ok payload => .done (count, buffer.receive payload)

/-- What a receive makes of a header. -/
def afterHeader (peer : Int32) (e : Expected) (buffer : ReceiveBuffer) :
    Except Code Header → Program Parallel (Status × ReceiveBuffer)
  | .error code =>
    .ask (.note (.headerReceiveFailed e.name code)) fun _ => .done (Status.disconnected, buffer)
  | .ok header =>
    if header.kind = Kind.ending.code then .done (Status.terminated, buffer)
    else if e.accepts header then
      if 0 < header.count then
        .ask (.receivePayload peer (announcedBytes header buffer.elementSize))
          (afterPayload e header.count buffer)
      else .done (header.count, buffer)
    else
      .ask (.note (e.notice header)) fun _ =>
        if 0 < header.count then
          .ask (.receivePayload peer (announcedBytes header buffer.elementSize)) fun _ =>
            .done (Status.protocolError, buffer)
        else .done (Status.protocolError, buffer)

theorem receiveMessage_eq (peer : Int32) (e : Expected) (buffer : ReceiveBuffer) :
    receiveMessage peer e buffer = .ask (.receiveHeader peer) (afterHeader peer e buffer) := by
  unfold receiveMessage
  refine congrArg (Program.ask _) ?_
  funext reply
  cases reply with
  | error code => rfl
  | ok header =>
    unfold afterHeader
    dsimp only [Program.done_bind]
    split
    · rfl
    · cases e.accepts header with
      | true =>
        rw [if_neg (by decide), if_pos (rfl : true = true)]
        split
        · refine congrArg (Program.ask _) ?_
          funext reply
          cases reply <;> rfl
        · rfl
      | false =>
        rw [if_pos (show (!false) = true from rfl), if_neg Bool.false_ne_true]
        refine congrArg (Program.ask _) ?_
        funext _
        dsimp only [Program.done_bind]
        split <;> rfl

/-- An accepted header has no negative count. -/
theorem Expected.failed_count {e : Expected} {header : Header} (h : e.accepts header = true) :
    Status.failed header.count = false := by
  unfold accepts countFits at h
  simp only [Bool.and_eq_true, decide_eq_true_eq] at h
  exact decide_eq_false (Int32.not_lt.2 h.2.2)

end FluidStructure.Channel.MessageChannel

namespace FluidStructure.Network

open FluidStructure.Parallel FluidStructure.Channel FluidStructure.Journal
open MessageChannel (Expected)

/-! ## One request at a time -/

/-- A request can be handled with this mail at hand, and only in one way. -/
structure Sure (peer : Int32) (request : Request) (mail : Mail) (reply : request.Reply)
    (rest gives : Mail) : Prop where
  able : ∃ takes, Handled peer request reply takes gives ∧ mail = takes ++ rest
  only : ∀ reply' takes' gives' rest', Handled peer request reply' takes' gives' →
    mail = takes' ++ rest' → reply' = reply ∧ gives' = gives ∧ rest' = rest

section Sure

variable {peer : Int32} {mail : Mail}

theorem sure_note (notice : Notice) : Sure peer (.note notice) mail () mail .empty := by
  refine ⟨⟨.empty, ⟨rfl, rfl⟩, rfl⟩, ?_⟩
  rintro _ _ _ _ ⟨rfl, rfl⟩ rfl
  exact ⟨rfl, rfl, rfl⟩

theorem sure_sendHeader (header : Header) :
    Sure peer (.sendHeader peer header) mail (.ok ()) mail ⟨[header], []⟩ := by
  refine ⟨⟨.empty, ⟨rfl, rfl, rfl, rfl⟩, rfl⟩, ?_⟩
  rintro _ _ _ _ ⟨-, rfl, rfl, rfl⟩ rfl
  exact ⟨rfl, rfl, rfl⟩

theorem sure_sendPayload (payload : Payload) :
    Sure peer (.sendPayload peer payload) mail (.ok ()) mail ⟨[], [payload]⟩ := by
  refine ⟨⟨.empty, ⟨rfl, rfl, rfl, rfl⟩, rfl⟩, ?_⟩
  rintro _ _ _ _ ⟨-, rfl, rfl, rfl⟩ rfl
  exact ⟨rfl, rfl, rfl⟩

theorem sure_receiveHeader (header : Header) (rest : Mail) :
    Sure peer (.receiveHeader peer) (⟨[header], []⟩ ++ rest) (.ok header) rest .empty := by
  refine ⟨⟨⟨[header], []⟩, ⟨rfl, rfl, header, rfl, rfl⟩, rfl⟩, ?_⟩
  rintro _ _ _ _ ⟨-, rfl, header', rfl, rfl⟩ same
  obtain ⟨head, rfl⟩ := Mail.append_inj same ⟨rfl, rfl⟩
  obtain ⟨⟨rfl, -⟩, -⟩ := Mail.mk.inj head
  exact ⟨rfl, rfl, rfl⟩

theorem sure_receivePayload {payload : Payload} {limit : Nat} (fits : payload.size ≤ limit)
    (rest : Mail) :
    Sure peer (.receivePayload peer limit) (⟨[], [payload]⟩ ++ rest) (.ok payload) rest
      .empty := by
  refine ⟨⟨⟨[], [payload]⟩, ⟨rfl, rfl, payload, rfl, .inl ⟨fits, rfl⟩⟩, rfl⟩, ?_⟩
  rintro _ _ _ _ ⟨-, rfl, payload', rfl, received⟩ same
  obtain ⟨head, rfl⟩ := Mail.append_inj same ⟨rfl, rfl⟩
  obtain ⟨-, ⟨rfl, -⟩⟩ := Mail.mk.inj head
  rcases received with ⟨-, rfl⟩ | ⟨long, -⟩
  · exact ⟨rfl, rfl, rfl⟩
  · exact absurd fits (Nat.not_le.2 long)

end Sure

variable {n : Nat} {α β : Type} {r : Roots} {Q : (Fin (n + 1) → α) → β → Traffic n → Prop}

namespace Settles

variable {s : State n α β}

theorem rank (i : Fin (n + 1)) {request : Request} {next : request.Reply → Program Parallel α}
    {reply : request.Reply} {rest gives : Mail} (asks : s.fluid i = .ask request next)
    (sure : Sure r.solid request s.traffic.toFluid reply rest gives)
    (root : i = 0 ∨ ∃ notice, request = .note notice)
    (on : Settles r Q (s.afterRank i ⟨request, reply⟩ (next reply) rest gives)) :
    Settles r Q s := by
  obtain ⟨takes, handled, mail⟩ := sure.able
  refine .turn (.rank i) ⟨_, .rank i asks handled ?_ mail⟩ fun a taken => ?_
  · rcases root with rfl | ⟨notice, rfl⟩
    · exact .inl rfl
    · exact .inr handled
  · cases taken with
    | rank _ asks' handled' _ mail' =>
      obtain ⟨rfl, same⟩ := Program.ask.inj (asks.symm.trans asks')
      obtain rfl := eq_of_heq same
      obtain ⟨rfl, rfl, rfl⟩ := sure.only _ _ _ _ handled' mail'
      exact on

theorem solid {request : Request} {next : request.Reply → Program Parallel β}
    {reply : request.Reply} {rest gives : Mail} (asks : s.solid = .ask request next)
    (sure : Sure r.fluid request s.traffic.toSolid reply rest gives)
    (on : Settles r Q (s.afterSolid ⟨request, reply⟩ (next reply) rest gives)) :
    Settles r Q s := by
  obtain ⟨takes, handled, mail⟩ := sure.able
  refine .turn .solid ⟨_, .solid asks (.inl handled) mail⟩ fun a taken => ?_
  cases taken with
  | solid asks' served mail' =>
    obtain ⟨rfl, same⟩ := Program.ask.inj (asks.symm.trans asks')
    obtain rfl := eq_of_heq same
    rcases served with handled' | ⟨-, -, _, answered⟩
    · obtain ⟨rfl, rfl, rfl⟩ := sure.only _ _ _ _ handled' mail'
      exact on
    · exact absurd answered handled.not_answered

theorem group {requests : Fin (n + 1) → Request}
    {next : (i : Fin (n + 1)) → (requests i).Reply → Program Parallel α}
    (asks : ∀ i, s.fluid i = .ask (requests i) (next i))
    (able : ∃ (replies : (i : Fin (n + 1)) → (requests i).Reply) (sums : List Float),
      ∀ i, Answered requests sums i (requests i) (replies i))
    (on : ∀ (replies : (i : Fin (n + 1)) → (requests i).Reply) sums,
      (∀ i, Answered requests sums i (requests i) (replies i)) →
      Settles r Q (s.afterGroup (fun i => ⟨requests i, replies i⟩) fun i => next i (replies i))) :
    Settles r Q s := by
  obtain ⟨replies, sums, answered⟩ := able
  refine .turn .group ⟨_, .group asks answered⟩ fun a taken => ?_
  cases taken with
  | group asks' answered' =>
    rename_i requests' next' replies' sums'
    have same : requests = requests' :=
      funext fun i => (Program.ask.inj ((asks i).symm.trans (asks' i))).1
    subst same
    have onward : next = next' :=
      funext fun i => eq_of_heq (Program.ask.inj ((asks i).symm.trans (asks' i))).2
    subst onward
    exact on _ _ answered'

/-- A collective request of the structural solver concerns nobody else. -/
theorem alone {request : Request} {next : request.Reply → Program Parallel β}
    (asks : s.solid = .ask request next)
    (able : ∃ reply sums, Answered (fun _ : Fin 1 => request) sums 0 request reply)
    (on : ∀ reply sums, Answered (fun _ : Fin 1 => request) sums 0 request reply →
      Settles r Q (s.afterSolid ⟨request, reply⟩ (next reply) s.traffic.toSolid .empty)) :
    Settles r Q s := by
  obtain ⟨reply, sums, answered⟩ := able
  refine .turn .solid ⟨_, .solid asks (.inr ⟨rfl, rfl, sums, answered⟩) rfl⟩ fun a taken => ?_
  cases taken with
  | solid asks' served mail =>
    obtain ⟨rfl, same⟩ := Program.ask.inj (asks.symm.trans asks')
    obtain rfl := eq_of_heq same
    rcases served with handled | ⟨rfl, rfl, _, answered'⟩
    · exact absurd answered handled.not_answered
    · rw [Mail.empty_append] at mail
      subst mail
      exact on _ _ answered'

end Settles

/-! ## Meetings -/

/-- No receive has failed so far. -/
structure Clean (w : Traffic n) : Prop where
  fluid : ∀ i, failures (w.fluidLog i) = []
  solid : failures w.solidLog = []

theorem failures_snoc {log : Log Parallel} {made : Exchange Parallel} (clean : failures log = [])
    (fine : failure? made = none) : failures (log ++ [made]) = [] := by
  rw [failures_append, clean, failures_cons, fine]
  rfl

theorem Answered.fine {all : Fin (n + 1) → Request} {sums : List Float} {i : Fin (n + 1)}
    {request : Request} {reply : request.Reply} (h : Answered all sums i request reply) :
    failure? ⟨request, reply⟩ = none := by
  cases request <;> first | rfl | exact h.elim

/-- The programs settle, whatever the logs are, as long as no receive has failed. -/
def Meets (r : Roots) (Q : (Fin (n + 1) → α) → β → Traffic n → Prop)
    (p : Fin (n + 1) → Program Parallel α) (q : Program Parallel β) (toFluid toSolid : Mail) :
    Prop :=
  ∀ w : Traffic n, Clean w → w.toFluid = toFluid → w.toSolid = toSolid → Settles r Q ⟨p, q, w⟩

namespace Meets

variable {p p' : Fin (n + 1) → Program Parallel α} {q : Program Parallel β} {toFluid toSolid : Mail}

theorem of_eq (same : ∀ i, p i = p' i) (on : Meets r Q p' q toFluid toSolid) :
    Meets r Q p q toFluid toSolid := by
  rwa [show p = p' from funext same]

theorem rank (i : Fin (n + 1)) {request : Request} {next : request.Reply → Program Parallel α}
    {reply : request.Reply} {rest gives : Mail} (asks : p i = .ask request next)
    (sure : Sure r.solid request toFluid reply rest gives)
    (root : i = 0 ∨ ∃ notice, request = .note notice) (fine : failure? ⟨request, reply⟩ = none)
    (on : Meets r Q (put p i (next reply)) q rest (toSolid ++ gives)) :
    Meets r Q p q toFluid toSolid := by
  intro w clean here there
  subst here there
  refine Settles.rank i asks sure root (on _ ⟨fun j => ?_, clean.solid⟩ rfl rfl)
  dsimp only [State.afterRank]
  by_cases same : j = i
  · subst same
    rw [put_same]
    exact failures_snoc (clean.fluid j) fine
  · rw [put_other same]
    exact clean.fluid j

theorem solid {request : Request} {next : request.Reply → Program Parallel β}
    {reply : request.Reply} {rest gives : Mail} (asks : q = .ask request next)
    (sure : Sure r.fluid request toSolid reply rest gives) (fine : failure? ⟨request, reply⟩ = none)
    (on : Meets r Q p (next reply) (toFluid ++ gives) rest) :
    Meets r Q p q toFluid toSolid := by
  intro w clean here there
  subst here there
  exact Settles.solid asks sure (on _ ⟨clean.fluid, failures_snoc clean.solid fine⟩ rfl rfl)

theorem group {requests : Fin (n + 1) → Request}
    {next : (i : Fin (n + 1)) → (requests i).Reply → Program Parallel α}
    (asks : ∀ i, p i = .ask (requests i) (next i))
    (able : ∃ (replies : (i : Fin (n + 1)) → (requests i).Reply) (sums : List Float),
      ∀ i, Answered requests sums i (requests i) (replies i))
    (on : ∀ (replies : (i : Fin (n + 1)) → (requests i).Reply) sums,
      (∀ i, Answered requests sums i (requests i) (replies i)) →
      Meets r Q (fun i => next i (replies i)) q toFluid toSolid) :
    Meets r Q p q toFluid toSolid := by
  intro w clean here there
  refine Settles.group asks able fun replies sums answered => ?_
  refine on replies sums answered _ ⟨fun i => ?_, clean.solid⟩ here there
  exact failures_snoc (clean.fluid i) (answered i).fine

theorem alone {request : Request} {next : request.Reply → Program Parallel β}
    (asks : q = .ask request next)
    (able : ∃ reply sums, Answered (fun _ : Fin 1 => request) sums 0 request reply)
    (on : ∀ reply sums, Answered (fun _ : Fin 1 => request) sums 0 request reply →
      Meets r Q p (next reply) toFluid toSolid) :
    Meets r Q p q toFluid toSolid := by
  intro w clean here there
  refine Settles.alone asks able fun reply sums answered => ?_
  refine on reply sums answered _ ⟨clean.fluid, failures_snoc clean.solid answered.fine⟩ ?_ there
  exact (Mail.append_empty _).trans here

end Meets

/-! ## Notices -/

/-- A program, or the same after a notice that shows no failure. -/
def Ahead {γ : Type} (p p' : Program Parallel γ) : Prop :=
  p = p' ∨ ∃ notice next, failure? ⟨.note notice, ()⟩ = none ∧ p = .ask (.note notice) next ∧
    next () = p'

/-- The first ranks have gone on from one program to another. -/
def firstOn {γ : Type} (p p' : Fin (n + 1) → γ) (k : Nat) : Fin (n + 1) → γ :=
  fun i => if i.val < k then p' i else p i

theorem put_firstOn {γ : Type} {p p' : Fin (n + 1) → γ} {k : Nat} (h : k < n + 1) :
    put (firstOn p p' k) ⟨k, h⟩ (p' ⟨k, h⟩) = firstOn p p' (k + 1) := by
  funext i
  unfold put firstOn
  by_cases same : i = ⟨k, h⟩
  · subst same
    rw [if_pos rfl, if_pos (Nat.lt_succ_self k)]
  · have apart : i.val ≠ k := fun wrong => same (Fin.ext wrong)
    rw [if_neg same]
    by_cases before : i.val < k
    · rw [if_pos before, if_pos (Nat.lt_succ_of_lt before)]
    · rw [if_neg before, if_neg (by omega)]

namespace Meets

variable {p p' : Fin (n + 1) → Program Parallel α} {q : Program Parallel β} {toFluid toSolid : Mail}

/-- Each rank may have a notice to report.  The induction is on the number of ranks that have
done so. -/
theorem ahead (h : ∀ i, Ahead (p i) (p' i)) (on : Meets r Q p' q toFluid toSolid) :
    Meets r Q p q toFluid toSolid := by
  have before (k : Nat) (most : k ≤ n + 1) (later : Meets r Q (firstOn p p' k) q toFluid toSolid) :
      Meets r Q p q toFluid toSolid := by
    induction k with
    | zero => exact of_eq (fun i => (if_neg (Nat.not_lt_zero _)).symm) later
    | succ k ih =>
      refine ih (Nat.le_of_succ_le most) ?_
      have current : firstOn p p' k ⟨k, most⟩ = p ⟨k, most⟩ := if_neg (Nat.lt_irrefl k)
      rw [← put_firstOn most] at later
      rcases h ⟨k, most⟩ with same | ⟨notice, onward, quiet, asks, ends⟩
      · refine of_eq (fun i => ?_) later
        by_cases here : i = ⟨k, most⟩
        · subst here
          rw [put_same, current, same]
        · rw [put_other here]
      · refine rank ⟨k, most⟩ (current.trans asks) (sure_note notice) (.inr ⟨notice, rfl⟩) quiet ?_
        rw [Mail.append_empty, ends]
        exact later
  exact before (n + 1) (Nat.le_refl _) (of_eq (fun i => if_pos i.isLt) on)

/-- The structural solver may have a notice to report. -/
theorem solid_ahead {q' : Program Parallel β} (h : Ahead q q')
    (on : Meets r Q p q' toFluid toSolid) : Meets r Q p q toFluid toSolid := by
  rcases h with rfl | ⟨notice, onward, quiet, asks, rfl⟩
  · exact on
  · refine solid asks (sure_note notice) quiet ?_
    rwa [Mail.append_empty]

end Meets

/-! ## Whole messages -/

/-- A name that a header can hold. -/
def Legible (name : String) : Prop :=
  name.utf8ByteSize ≤ maxNameBytes ∧ Text.Label.clip maxNameBytes name = (name : Text.Label)

instance (name : String) : Decidable (Legible name) :=
  inferInstanceAs (Decidable (_ ∧ _))

/-- A message with values. -/
structure Message where
  iteration : Int32
  name : String
  kind : Kind
  payload : Payload

namespace Message

def count (m : Message) : Int32 := Int32.ofNat m.payload.length

def header (m : Message) : Header := ⟨m.iteration, m.count, m.kind.code, m.name⟩

/-- The message under way. -/
def mail (m : Message) : Mail := ⟨[m.header], [m.payload]⟩

/-- Sends the message. -/
def send (m : Message) (peer : Int32) : Program Parallel Status :=
  MessageChannel.sendMessage peer m.iteration m.name m.kind m.payload

/-- What a receive of the message waits for. -/
def expected (m : Message) (exact : Bool) : Expected :=
  ⟨m.iteration, m.name, m.kind, m.count, exact⟩

/-- The name arrives as it is, and there are as many values as a header can announce. -/
structure Proper (m : Message) : Prop where
  legible : Legible m.name
  some : 0 < m.payload.length
  most : m.payload.length < 2 ^ 31
  goesOn : m.kind ≠ .ending

variable {m : Message}

theorem Proper.count_pos (h : m.Proper) : 0 < m.count :=
  (Int32.ofNat_lt_iff_lt (by decide) h.most).2 h.some

theorem Proper.announced (h : m.Proper) (elementSize : Nat) :
    MessageChannel.announcedBytes m.header elementSize = m.payload.length * elementSize := by
  unfold MessageChannel.announcedBytes header count
  dsimp only
  rw [Int32.toNatClampNeg_ofNat_of_lt h.most]

theorem Proper.goes_on (h : m.Proper) : m.header.kind ≠ Kind.ending.code := by
  have other := h.goesOn
  unfold header
  dsimp only
  cases kind : m.kind with
  | ints => decide
  | reals => decide
  | field => decide
  | ending => exact absurd kind other

theorem Proper.send_eq (h : m.Proper) (peer : Int32) :
    m.send peer = .ask (.sendHeader peer m.header) fun
      | .error code =>
        .ask (.note (.headerSendFailed m.name code)) fun _ => .done Status.disconnected
      | .ok () => .ask (.sendPayload peer m.payload) fun
        | .error code =>
          .ask (.note (.payloadSendFailed m.name code)) fun _ => .done Status.disconnected
        | .ok () => .done m.count := by
  have some : 0 < Int32.ofNat m.payload.length := h.count_pos
  unfold send MessageChannel.sendMessage
  rw [if_neg (Nat.not_lt.2 h.legible.1)]
  refine congrArg (Program.ask _) ?_
  funext reply
  cases reply with
  | error code => rfl
  | ok _ =>
    dsimp only [Program.done_bind]
    rw [if_pos some]
    refine congrArg (Program.ask _) ?_
    funext reply
    cases reply <;> rfl

theorem Proper.accepted (h : m.Proper) (exact : Bool) :
    (m.expected exact).accepts m.header = true := by
  have legible : m.header.receivedName = (m.name : Text.Label) := h.legible.2
  have positive : 0 ≤ m.header.count := Int32.le_of_lt h.count_pos
  have fits : (if exact then m.header.count = m.count else m.header.count ≤ m.count) := by
    cases exact
    · exact Int32.le_refl _
    · rfl
  unfold Expected.accepts Expected.keyMatches Expected.countFits expected
  cases exact <;> simp_all [header]

theorem Proper.receive_ok (h : m.Proper) (exact : Bool) (peer : Int32) (buffer : ReceiveBuffer) :
    MessageChannel.afterHeader peer (m.expected exact) buffer (.ok m.header) =
      .ask (.receivePayload peer (m.payload.length * buffer.elementSize))
        (MessageChannel.afterPayload (m.expected exact) m.count buffer) := by
  unfold MessageChannel.afterHeader
  dsimp only
  rw [if_neg h.goes_on, if_pos (h.accepted exact), h.announced]
  exact if_pos h.count_pos

end Message

theorem put_put {γ : Type} {f : Fin (n + 1) → γ} {i : Fin (n + 1)} {x y : γ} :
    put (put f i x) i y = put f i y := by
  funext j
  unfold put
  split <;> rfl

namespace Meets

variable {p : Fin (n + 1) → Program Parallel α} {q : Program Parallel β} {m : Message}

/-- The structural solver receives what the root of the fluid solver sends. -/
theorem toSolid (proper : m.Proper) {exact : Bool} {buffer : ReceiveBuffer}
    (sort : m.payload.elementSize = buffer.elementSize)
    {f : Status → Program Parallel α} {g : Status × ReceiveBuffer → Program Parallel β}
    (sends : p 0 = (m.send r.solid).bind f)
    (receives : q = (MessageChannel.receiveMessage r.fluid (m.expected exact) buffer).bind g)
    (on : Meets r Q (put p 0 (f m.count)) (g (m.count, buffer.receive m.payload)) .empty .empty) :
    Meets r Q p q .empty .empty := by
  rw [proper.send_eq, Program.ask_bind] at sends
  rw [MessageChannel.receiveMessage_eq, Program.ask_bind] at receives
  refine rank 0 sends (sure_sendHeader _) (.inl rfl) rfl ?_
  refine rank 0 put_same (sure_sendPayload _) (.inl rfl) rfl ?_
  rw [put_put]
  refine solid receives (sure_receiveHeader m.header ⟨[], [m.payload]⟩) (if_neg proper.goes_on) ?_
  rw [proper.receive_ok, Program.ask_bind]
  refine solid rfl (sure_receivePayload ?_ .empty) rfl on
  rw [← sort]
  exact Nat.le_refl _

/-- The root of the fluid solver receives what the structural solver sends. -/
theorem toFluid (proper : m.Proper) {exact : Bool} {buffer : ReceiveBuffer}
    (sort : m.payload.elementSize = buffer.elementSize)
    {f : Status × ReceiveBuffer → Program Parallel α} {g : Status → Program Parallel β}
    (sends : q = (m.send r.fluid).bind g)
    (receives : p 0 = (MessageChannel.receiveMessage r.solid (m.expected exact) buffer).bind f)
    (on : Meets r Q (put p 0 (f (m.count, buffer.receive m.payload))) (g m.count) .empty .empty) :
    Meets r Q p q .empty .empty := by
  rw [proper.send_eq, Program.ask_bind] at sends
  rw [MessageChannel.receiveMessage_eq, Program.ask_bind] at receives
  refine solid sends (sure_sendHeader _) rfl ?_
  refine solid rfl (sure_sendPayload _) rfl ?_
  refine rank 0 receives (sure_receiveHeader m.header ⟨[], [m.payload]⟩) (.inl rfl)
    (if_neg proper.goes_on) ?_
  rw [proper.receive_ok, Program.ask_bind]
  refine rank 0 put_same (sure_receivePayload ?_ .empty) (.inl rfl) rfl ?_
  · rw [← sort]
    exact Nat.le_refl _
  · rw [put_put]
    exact on

/-! ## Control values -/

section Control

variable {iteration : Int32} {name : String}

theorem intToSolid (legible : Legible name) {value old : Int32} {f : Status → Program Parallel α}
    {g : Status × Int32 → Program Parallel β}
    (sends : p 0 = (MessageChannel.sendInts r.solid iteration name [value]).bind f)
    (receives : q = (MessageChannel.receiveInt r.fluid iteration name old).bind g)
    (on : Meets r Q (put p 0 (f 1)) (g (1, value)) .empty .empty) :
    Meets r Q p q .empty .empty := by
  have proper : (⟨iteration, name, .ints, .ints [value]⟩ : Message).Proper :=
    ⟨legible, Nat.zero_lt_one, (by decide : 1 < 2 ^ 31), Kind.noConfusion⟩
  have waits : q = (MessageChannel.receiveMessage r.fluid
      (Message.expected ⟨iteration, name, .ints, .ints [value]⟩ false) (.ints [old])).bind _ :=
    receives.trans ((Program.bind_assoc ..).trans (Program.bind_assoc ..))
  exact toSolid proper rfl sends waits on

theorem realToSolid (legible : Legible name) {value old : Float} {f : Status → Program Parallel α}
    {g : Status × Float → Program Parallel β}
    (sends : p 0 = (MessageChannel.sendReals r.solid iteration name [value]).bind f)
    (receives : q = (MessageChannel.receiveReal r.fluid iteration name old).bind g)
    (on : Meets r Q (put p 0 (f 1)) (g (1, value)) .empty .empty) :
    Meets r Q p q .empty .empty := by
  have proper : (⟨iteration, name, .reals, .reals [value]⟩ : Message).Proper :=
    ⟨legible, Nat.zero_lt_one, (by decide : 1 < 2 ^ 31), Kind.noConfusion⟩
  have waits : q = (MessageChannel.receiveMessage r.fluid
      (Message.expected ⟨iteration, name, .reals, .reals [value]⟩ false) (.ofReals [old])).bind _ :=
    receives.trans ((Program.bind_assoc ..).trans (Program.bind_assoc ..))
  exact toSolid proper rfl sends waits on

theorem realToFluid (legible : Legible name) {value old : Float} {g : Status → Program Parallel β}
    {f : Status × List Float → Program Parallel α}
    (sends : q = (MessageChannel.sendReals r.fluid iteration name [value]).bind g)
    (receives : p 0 = (MessageChannel.receiveReals r.solid iteration name [old]).bind f)
    (on : Meets r Q (put p 0 (f (1, [value]))) (g 1) .empty .empty) :
    Meets r Q p q .empty .empty := by
  have proper : (⟨iteration, name, .reals, .reals [value]⟩ : Message).Proper :=
    ⟨legible, Nat.zero_lt_one, (by decide : 1 < 2 ^ 31), Kind.noConfusion⟩
  have waits : p 0 = (MessageChannel.receiveMessage r.solid
      (Message.expected ⟨iteration, name, .reals, .reals [value]⟩ false) (.ofReals [old])).bind _ :=
    receives.trans (Program.bind_assoc ..)
  exact toFluid proper rfl sends waits on

end Control

end Meets

end FluidStructure.Network
