import FluidStructure.Proofs.Network.Receipts

/-!
# Messages that come one behind the other

The peer sends what it likes, headers on one tag and payloads on another, and each sort comes in
order.  As long as every payload has the kind and the count that its header states, a call that
succeeds takes one message off the front, and what it returns are the values of this message.
-/

namespace FluidStructure.Network

open FluidStructure.Parallel FluidStructure.Channel
open MessageChannel (Expected receiveMessage sendMessage announcedBytes)

/-! ## Exchanges that fail -/

/-- Has a message not been sent, or not come, or is it not the one that was waited for? -/
def misses : Exchange Parallel → Bool
  | ⟨.sendHeader .., .error _⟩ => true
  | ⟨.sendPayload .., .error _⟩ => true
  | ⟨.receiveHeader _, .error _⟩ => true
  | ⟨.receiveHeader _, .ok header⟩ => header.kind = Kind.ending.code
  | ⟨.receivePayload .., .error _⟩ => true
  | ⟨.note (.unexpectedMessage ..), _⟩ => true
  | _ => false

/-- No exchange with the peer has failed. -/
def Unbroken (log : Log Parallel) : Prop := ∀ made ∈ log, misses made = false

theorem Unbroken.nil : Unbroken [] := List.forall_mem_nil _

theorem Unbroken.cons {made : Exchange Parallel} {log : Log Parallel} (first : misses made = false)
    (h : Unbroken log) : Unbroken (made :: log) := List.forall_mem_cons.2 ⟨first, h⟩

theorem Unbroken.append {first second : Log Parallel} (h : Unbroken first) (k : Unbroken second) :
    Unbroken (first ++ second) := List.forall_mem_append.2 ⟨h, k⟩

section Calls

variable {peer iteration : Int32} {name : String} {kind : Kind} {payload : Payload} {e : Expected}
  {room after : ReceiveBuffer} {status : Status} {log : Log Parallel} {c d : MessageChannel}

/-- Sending takes nothing from the mail, and a send that succeeds has not been disturbed. -/
theorem runs_sendMessage (run : (sendMessage peer iteration name kind payload).Runs log status) :
    arrived log = .empty ∧ (Status.failed status = false → Unbroken log) := by
  unfold sendMessage at run
  split at run
  · obtain ⟨_, rest, rfl, ends⟩ := Program.runs_ask.1 run
    obtain ⟨rfl, rfl⟩ := Program.runs_done.1 ends
    exact ⟨rfl, nofun⟩
  obtain ⟨reply, rest, rfl, onward⟩ := Program.runs_ask.1 run
  cases reply with
  | error code =>
    obtain ⟨_, rest, rfl, ends⟩ := Program.runs_ask.1 onward
    obtain ⟨rfl, rfl⟩ := Program.runs_done.1 ends
    exact ⟨rfl, nofun⟩
  | ok _ =>
    dsimp only [Program.done_bind] at onward
    split at onward
    · obtain ⟨reply, rest, rfl, ending⟩ := Program.runs_ask.1 onward
      cases reply with
      | error code =>
        obtain ⟨_, rest, rfl, ends⟩ := Program.runs_ask.1 ending
        obtain ⟨rfl, rfl⟩ := Program.runs_done.1 ends
        exact ⟨rfl, nofun⟩
      | ok _ =>
        obtain ⟨rfl, rfl⟩ := Program.runs_done.1 ending
        exact ⟨rfl, fun _ => (Unbroken.nil.cons rfl).cons rfl⟩
    · obtain ⟨rfl, rfl⟩ := Program.runs_done.1 onward
      exact ⟨rfl, fun _ => Unbroken.nil.cons rfl⟩

/-- A receive that succeeds has not been disturbed. -/
theorem unbroken_of_receiveMessage (run : (receiveMessage peer e room).Runs log (status, after))
    (fine : Status.failed status = false) : Unbroken log := by
  have wrong {status' : Status} {room' : ReceiveBuffer} {P : Prop} (failed : Status.failed status' = true)
      (same : (status, after) = (status', room')) : P := by
    obtain ⟨rfl, -⟩ := Prod.mk.inj same
    exact Bool.noConfusion (fine.symm.trans failed)
  rw [MessageChannel.receiveMessage_eq] at run
  obtain ⟨reply, rest, rfl, onward⟩ := Program.runs_ask.1 run
  cases reply with
  | error code =>
    obtain ⟨_, rest, rfl, ends⟩ := Program.runs_ask.1 onward
    exact wrong rfl (Program.runs_done.1 ends).2
  | ok header =>
    unfold MessageChannel.afterHeader at onward
    dsimp only at onward
    split at onward
    · exact wrong rfl (Program.runs_done.1 onward).2
    rename_i going
    have opened : misses ⟨.receiveHeader peer, .ok header⟩ = false := decide_eq_false going
    split at onward
    · split at onward
      · obtain ⟨reply, rest, rfl, taking⟩ := Program.runs_ask.1 onward
        cases reply with
        | error code =>
          obtain ⟨_, rest, rfl, ends⟩ := Program.runs_ask.1 taking
          exact wrong rfl (Program.runs_done.1 ends).2
        | ok payload =>
          obtain ⟨rfl, -⟩ := Program.runs_done.1 taking
          exact (Unbroken.nil.cons rfl).cons opened
      · obtain ⟨rfl, -⟩ := Program.runs_done.1 onward
        exact Unbroken.nil.cons opened
    · obtain ⟨_, rest, rfl, refusing⟩ := Program.runs_ask.1 onward
      split at refusing
      · obtain ⟨_, rest, rfl, ends⟩ := Program.runs_ask.1 refusing
        exact wrong rfl (Program.runs_done.1 ends).2
      · exact wrong rfl (Program.runs_done.1 refusing).2

/-- A process that is alone shares its status with itself. -/
theorem runs_sharing {α : Type} {on : Status → Program Parallel (Except Fault α × MessageChannel)}
    {value : α} (run : (MessageChannel.sharing status c on).Runs log (.ok value, d))
    (lawful : ∀ made ∈ log, Lawful made) :
    ∃ rest, log = ⟨.broadcastInts .application 0 [status], .ok [status]⟩ :: rest ∧
      (on status).Runs rest (.ok value, d) := by
  obtain ⟨reply, rest, rfl, onward⟩ := Program.runs_ask.1 run
  cases reply with
  | error code =>
    obtain ⟨-, same⟩ := Program.runs_done.1 onward
    cases (Prod.mk.inj same).1
  | ok shared =>
    obtain rfl := shared_alone (lawful _ List.mem_cons_self)
    exact ⟨rest, rfl, onward⟩

variable {values : List Float}

/-- Sending a field takes nothing from the mail, and if it succeeds it has not been disturbed. -/
theorem runs_sendField (root : c.isLocalRoot = true) (lawful : ∀ made ∈ log, Lawful made)
    (run : (MessageChannel.sendField peer name values).Runs c log (.ok status) d) :
    arrived log = .empty ∧ d.isLocalRoot = true ∧ (Status.failed status = false → Unbroken log) := by
  unfold Act.Runs at run
  rw [MessageChannel.sendField_apply] at run
  obtain ⟨reply, rest, rfl, onward⟩ := Program.runs_ask.1 run
  cases reply with
  | error code => cases (Prod.mk.inj (Program.runs_done.1 onward).2).1
  | ok counts =>
    obtain ⟨reply, rest, rfl, sending⟩ := Program.runs_ask.1 onward
    cases reply with
    | error code => cases (Prod.mk.inj (Program.runs_done.1 sending).2).1
    | ok gathered =>
      have alone := (MessageChannel.isLocalRoot_resized counts).trans root
      dsimp only at sending
      rw [MessageChannel.sendGathered_root alone, Program.bind_assoc] at sending
      obtain ⟨first, sent, last, rfl, sends, shares⟩ := Program.runs_bind.1 sending
      have both := (List.forall_mem_append.1 (List.forall_mem_cons.1 (List.forall_mem_cons.1 lawful).2).2)
      obtain ⟨none, whole⟩ := runs_sendMessage sends
      dsimp only [Program.done_bind] at shares
      obtain ⟨tail, rfl, ends⟩ := runs_sharing shares both.2
      obtain ⟨rfl, same⟩ := Program.runs_done.1 ends
      obtain ⟨told, rfl⟩ := Prod.mk.inj same
      obtain rfl := Except.ok.inj told
      refine ⟨?_, alone, fun fine => ?_⟩
      · show Mail.empty ++ (Mail.empty ++ arrived (first ++ _)) = _
        rw [arrived_append, none]
        rfl
      · refine ((whole ?_).append (Unbroken.nil.cons rfl)).cons rfl |>.cons rfl
        by_contra failed
        rw [Bool.not_eq_false] at failed
        rw [if_pos failed] at fine
        exact Bool.noConfusion (fine.symm.trans failed)

/-- Receiving a field leaves the channel on its root, and if it succeeds it has not been disturbed. -/
theorem runs_receiveField (root : c.isLocalRoot = true) (lawful : ∀ made ∈ log, Lawful made)
    {received : Status × List Float}
    (run : (MessageChannel.receiveField peer name values).Runs c log (.ok received) d) :
    d.isLocalRoot = true ∧ (Status.failed received.1 = false → Unbroken log) := by
  unfold Act.Runs at run
  rw [MessageChannel.receiveField_apply] at run
  obtain ⟨reply, rest, rfl, onward⟩ := Program.runs_ask.1 run
  cases reply with
  | error code => cases (Prod.mk.inj (Program.runs_done.1 onward).2).1
  | ok counts =>
    have alone := (MessageChannel.isLocalRoot_resized counts).trans root
    dsimp only at onward
    rw [MessageChannel.receiveStaged_root alone, Program.bind_assoc] at onward
    obtain ⟨first, ⟨status, room⟩, last, rfl, fetches, shares⟩ := Program.runs_bind.1 onward
    dsimp only [Program.done_bind] at shares
    obtain ⟨tail, rfl, hands⟩ :=
      runs_sharing shares (List.forall_mem_append.1 (List.forall_mem_cons.1 lawful).2).2
    cases failed : Status.failed status with
    | true =>
      rw [MessageChannel.handOut_failed failed] at hands
      obtain ⟨rfl, same⟩ := Program.runs_done.1 hands
      obtain ⟨told, rfl⟩ := Prod.mk.inj same
      obtain rfl := Except.ok.inj told
      exact ⟨alone, fun fine => Bool.noConfusion (fine.symm.trans failed)⟩
    | false =>
      rw [MessageChannel.handOut_fine failed] at hands
      obtain ⟨reply, rest, rfl, ends⟩ := Program.runs_ask.1 hands
      cases reply with
      | error code => cases (Prod.mk.inj (Program.runs_done.1 ends).2).1
      | ok part =>
        obtain ⟨rfl, same⟩ := Program.runs_done.1 ends
        obtain ⟨-, rfl⟩ := Prod.mk.inj same
        have shared : Unbroken [⟨.broadcastInts .application 0 [status], .ok [status]⟩,
            ⟨.scatterReals .application (room.toSlots (c.resized counts).staging |>.map Slot.value)
              counts values, .ok part⟩] := (Unbroken.nil.cons rfl).cons rfl
        exact ⟨alone, fun _ => ((unbroken_of_receiveMessage fetches failed).append shared).cons rfl⟩

end Calls

/-! ## Messages as they come -/

/-- A header, and the payload that travels with it, if there is one. -/
structure Incoming where
  header : Header
  payload? : Option Payload

namespace Incoming

/-- The payload has the kind and the count that the header states. -/
structure Truthful (m : Incoming) : Prop where
  empty : m.header.count ≤ 0 → m.payload? = none
  counted : 0 < m.header.count →
    ∃ payload, m.payload? = some payload ∧ payload.length = m.header.count.toNatClampNeg
  ints : m.header.kind = Kind.ints.code → ∀ payload ∈ m.payload?, ∃ values, payload = .ints values
  reals : m.header.kind = Kind.reals.code ∨ m.header.kind = Kind.field.code →
    ∀ payload ∈ m.payload?, ∃ values, payload = .reals values

/-- The message under way. -/
def mail (m : Incoming) : Mail := ⟨[m.header], m.payload?.toList⟩

/-- A buffer after the values of the message have been written to its front. -/
def onto (m : Incoming) (old : Payload) : Payload := m.payload?.elim old (front old)

/-- The real that the message carries, or the old one. -/
def real (m : Incoming) (old : Float) : Float :=
  match m.payload? with
  | some (.reals (x :: _)) => x
  | _ => old

/-- The integer that the message carries, or the old one. -/
def int (m : Incoming) (old : Int32) : Int32 :=
  match m.payload? with
  | some (.ints (i :: _)) => i
  | _ => old

/-- A field after the values of the message have been written to its front. -/
def field (m : Incoming) (old : List Float) : List Float :=
  match m.payload? with
  | some (.reals new) => new ++ old.drop new.length
  | _ => old

end Incoming

/-- The mail that some messages make. -/
def mailOf (messages : List Incoming) : Mail :=
  ⟨messages.map Incoming.header, messages.filterMap Incoming.payload?⟩

/-- What is taken are the first headers and the first payloads of these messages. -/
structure From (incoming : List Incoming) (taken : Mail) : Prop where
  headers : taken.headers <+: (mailOf incoming).headers
  payloads : taken.payloads <+: (mailOf incoming).payloads

namespace Incoming

theorem headD_of_onto_ints {m : Incoming} {old : Int32} {values : List Int32}
    (h : .ints values = m.onto (.ints [old])) : values.headD old = m.int old := by
  obtain ⟨header, _ | (_ | ⟨i, _⟩) | _⟩ := m <;> cases h <;> rfl

theorem headD_of_onto_reals {m : Incoming} {old : Float} {values : List Float}
    (h : .reals values = m.onto (.reals [old])) : values.headD old = m.real old := by
  obtain ⟨header, _ | _ | (_ | ⟨x, _⟩)⟩ := m <;> cases h <;> rfl

theorem eq_field_of_onto {m : Incoming} {old values : List Float}
    (h : .reals values = m.onto (.reals old)) : values = m.field old := by
  obtain ⟨header, _ | _ | _⟩ := m <;> cases h <;> rfl

variable {m : Incoming} {e : Receiving} {staging : List Slot} {mail : Mail} {status : Status}
  {after : Payload} {incoming : List Incoming} {later : Mail}

/-- An accepted payload has the type of the buffer. -/
theorem Truthful.sameType (truthful : m.Truthful) (accepted : e.Accepts m.header) {payload : Payload}
    (carried : m.payload? = some payload) : SameType e.buffer payload := by
  have kind : m.header.kind = e.kind.code := by
    have key := accepted.key
    unfold Expected.keyMatches at key
    simp only [Bool.and_eq_true, decide_eq_true_eq] at key
    rw [key.2]
    cases e <;> rfl
  cases e with
  | ints =>
    obtain ⟨values, rfl⟩ := truthful.ints kind payload carried
    trivial
  | reals =>
    obtain ⟨values, rfl⟩ := truthful.reals (.inl kind) payload carried
    trivial
  | field =>
    obtain ⟨values, rfl⟩ := truthful.reals (.inr kind) payload carried
    trivial

/-- A message is taken off the front. -/
theorem from_tail (taken : From (m :: incoming) (m.mail ++ later)) : From incoming later where
  headers := (List.cons_prefix_cons.1 taken.headers).2
  payloads := by
    have payloads := taken.payloads
    unfold mailOf at payloads
    rw [List.filterMap_cons] at payloads
    show later.payloads <+: incoming.filterMap payload?
    cases carried : m.payload? with
    | none =>
      rw [carried] at payloads
      have same : (m.mail ++ later).payloads = later.payloads := by
        show m.payload?.toList ++ later.payloads = _
        rw [carried]
        rfl
      rwa [same] at payloads
    | some payload =>
      rw [carried] at payloads
      have same : (m.mail ++ later).payloads = payload :: later.payloads := by
        show m.payload?.toList ++ later.payloads = _
        rw [carried]
        rfl
      rw [same] at payloads
      exact (List.cons_prefix_cons.1 payloads).2

/-- A receipt with a status that is not a failure is one of the first message. -/
theorem take_of_receipt
    (receipt : Receipt e.Accepts e.buffer.elementSize e.buffer (e.filled staging) mail status after)
    (fine : Status.failed status = false) (truthful : ∀ m ∈ incoming, m.Truthful)
    (taken : From incoming (mail ++ later)) :
    ∃ m rest, incoming = m :: rest ∧ mail = m.mail ∧ e.Accepts m.header ∧
      after = m.onto e.buffer ∧ From rest later := by
  -- the first header that is taken is that of the first message
  have first {header : Header} {payloads : List Payload}
      (taken : From incoming (⟨[header], payloads⟩ ++ later)) :
      ∃ m rest, incoming = m :: rest ∧ m.header = header := by
    have headers := taken.headers
    cases incoming with
    | nil => cases List.prefix_nil.1 headers
    | cons m rest => exact ⟨m, rest, rfl, (List.cons_prefix_cons.1 headers).1.symm⟩
  cases receipt with
  | failed failed => exact Bool.noConfusion (fine.symm.trans failed)
  | @empty header accepted none =>
    obtain ⟨m, rest, rfl, rfl⟩ := first taken
    have bare := (truthful m List.mem_cons_self).empty (Int32.le_of_eq none)
    have mail : (⟨[m.header], []⟩ : Mail) = m.mail := by
      unfold Incoming.mail
      rw [bare]
      rfl
    rw [mail] at taken
    refine ⟨m, rest, rfl, mail, accepted, ?_, from_tail taken⟩
    unfold onto
    rw [bare]
    rfl
  | @filled header payload accepted some room =>
    obtain ⟨m, rest, rfl, rfl⟩ := first taken
    have honest := truthful m List.mem_cons_self
    obtain ⟨own, carried, count⟩ := honest.counted some
    obtain rfl : own = payload := by
      have payloads := taken.payloads
      unfold mailOf at payloads
      rw [List.filterMap_cons, carried] at payloads
      exact (List.cons_prefix_cons.1 payloads).1.symm
    have mail : (⟨[m.header], [own]⟩ : Mail) = m.mail := by
      unfold Incoming.mail
      rw [carried]
      rfl
    rw [mail] at taken
    refine ⟨m, rest, rfl, mail, accepted, ?_, from_tail taken⟩
    unfold onto
    rw [carried]
    exact Receiving.filled_of_announced accepted (honest.sameType accepted carried) count

end Incoming

/-- Nothing has failed, and these messages have been taken. -/
structure Consumed (log : Log Parallel) (incoming : List Incoming) (later : Mail)
    (messages rest : List Incoming) : Prop where
  incoming : incoming = messages ++ rest
  arrived : arrived log = mailOf messages
  unbroken : Unbroken log
  onward : From rest later

theorem mailOf_append (first second : List Incoming) :
    mailOf (first ++ second) = mailOf first ++ mailOf second := by
  unfold mailOf
  rw [List.map_append, List.filterMap_append]
  rfl

theorem mailOf_singleton (m : Incoming) : mailOf [m] = m.mail := by
  obtain ⟨header, _ | payload⟩ := m <;> rfl

namespace Consumed

variable {first second : Log Parallel} {incoming messages rest messages' rest' : List Incoming}
  {later : Mail}

theorem append (h : Consumed first incoming (Network.arrived second ++ later) messages rest)
    (k : Consumed second rest later messages' rest') :
    Consumed (first ++ second) incoming later (messages ++ messages') rest' where
  incoming := by rw [h.incoming, k.incoming, List.append_assoc]
  arrived := by rw [arrived_append, h.arrived, k.arrived, mailOf_append]
  unbroken := h.unbroken.append k.unbroken
  onward := k.onward

/-- Nothing was taken. -/
theorem nothing (none : Network.arrived first = .empty) (whole : Unbroken first)
    (taken : From incoming (Network.arrived first ++ later)) :
    Consumed first incoming later [] incoming where
  incoming := rfl
  arrived := none
  unbroken := whole
  onward := by rwa [none, Mail.empty_append] at taken

end Consumed

/-! ## Calls for one value, and for a field -/

section Calls

variable {peer iteration : Int32} {name : String} {status : Status} {log : Log Parallel}
  {c d : MessageChannel} {incoming : List Incoming} {later : Mail}

/-- What a call has done that succeeded: one message has been taken. -/
def Took (log : Log Parallel) (incoming : List Incoming) (later : Mail) (accepts : Header → Prop)
    (gives : Incoming → Prop) : Prop :=
  ∃ m rest, Consumed log incoming later [m] rest ∧ accepts m.header ∧ gives m

theorem took_of_fetch (e : Receiving) {room after : ReceiveBuffer} (view : ReceiveBuffer → Payload)
    {gives : Incoming → Prop} (scalars : e.kind ≠ .field) (same : view room = e.buffer)
    (sizes : room.elementSize = e.buffer.elementSize)
    (filled : ∀ payload, view (room.receive payload) = e.filled [] payload)
    (lawful : ∀ made ∈ log, Lawful made)
    (run : (receiveMessage peer e.expected room).Runs log (status, after))
    (fine : Status.failed status = false) (truthful : ∀ m ∈ incoming, m.Truthful)
    (taken : From incoming (arrived log ++ later))
    (reads : ∀ m ∈ incoming, view after = m.onto e.buffer → gives m) :
    Took log incoming later e.Accepts gives := by
  have fetched : Fetched e.expected room (arrived log) (status, after) :=
    brings_receiveMessage peer e.expected room log (status, after) run lawful
  have receipt := Receipt.map view (fun _ => Receiving.accepts_of_expected scalars) fetched
  rw [same, sizes, funext filled] at receipt
  obtain ⟨m, rest, rfl, mail, accepted, after, taken⟩ :=
    Incoming.take_of_receipt receipt fine truthful taken
  exact ⟨m, rest, ⟨rfl, mail.trans (mailOf_singleton m).symm, unbroken_of_receiveMessage run fine, taken⟩,
    accepted, reads m List.mem_cons_self after⟩

theorem runs_receiveInt {old value : Int32} (lawful : ∀ made ∈ log, Lawful made)
    (run : (MessageChannel.receiveInt peer iteration name old).Runs log (status, value))
    (fine : Status.failed status = false) (truthful : ∀ m ∈ incoming, m.Truthful)
    (taken : From incoming (arrived log ++ later)) :
    Took log incoming later (Receiving.ints iteration name [old]).Accepts
      fun m => value = m.int old := by
  obtain ⟨⟨_, values⟩, receiving, read⟩ := Program.runs_bind_done.1 run
  obtain ⟨rfl, rfl⟩ := Prod.mk.inj read
  obtain ⟨⟨_, after⟩, fetching, seen⟩ := Program.runs_bind_done.1 receiving
  obtain ⟨rfl, rfl⟩ := Prod.mk.inj seen
  exact took_of_fetch (.ints iteration name [old]) (fun room => .ints (room.toInts [old]))
    Kind.noConfusion rfl rfl (fun _ => rfl) lawful fetching fine truthful taken
    fun _ _ => Incoming.headD_of_onto_ints

theorem runs_receiveReal {old value : Float} (lawful : ∀ made ∈ log, Lawful made)
    (run : (MessageChannel.receiveReal peer iteration name old).Runs log (status, value))
    (fine : Status.failed status = false) (truthful : ∀ m ∈ incoming, m.Truthful)
    (taken : From incoming (arrived log ++ later)) :
    Took log incoming later (Receiving.reals iteration name [old]).Accepts
      fun m => value = m.real old := by
  obtain ⟨⟨_, values⟩, receiving, read⟩ := Program.runs_bind_done.1 run
  obtain ⟨rfl, rfl⟩ := Prod.mk.inj read
  obtain ⟨⟨_, after⟩, fetching, seen⟩ := Program.runs_bind_done.1 receiving
  obtain ⟨rfl, rfl⟩ := Prod.mk.inj seen
  exact took_of_fetch (.reals iteration name [old])
    (fun room => .reals ((room.toSlots []).map Slot.value))
    Kind.noConfusion rfl rfl (fun _ => rfl) lawful fetching fine truthful taken
    fun _ _ => Incoming.headD_of_onto_reals

theorem took_field {old values : List Float} (root : c.isLocalRoot = true)
    (lawful : ∀ made ∈ log, Lawful made)
    (run : (MessageChannel.receiveField peer name old).Runs c log (.ok (status, values)) d)
    (fine : Status.failed status = false) (truthful : ∀ m ∈ incoming, m.Truthful)
    (taken : From incoming (arrived log ++ later)) :
    Took log incoming later (Receiving.field name old).Accepts fun m => values = m.field old := by
  have performs : ((Receiving.field name old).perform peer).Runs c log (.ok (status, .reals values)) d :=
    Act.runs_bind_pure.2 ⟨_, run, rfl⟩
  have receipt : Receipt _ _ _ _ (arrived log) status (Payload.reals values) :=
    Receiving.brings_perform peer (.field name old) (fun _ => root) log (.ok (status, .reals values), d)
      performs lawful _ rfl
  obtain ⟨m, rest, rfl, mail, accepted, after, taken⟩ :=
    Incoming.take_of_receipt receipt fine truthful taken
  exact ⟨m, rest, ⟨rfl, mail.trans (mailOf_singleton m).symm,
    (runs_receiveField root lawful run).2 fine, taken⟩, accepted, Incoming.eq_field_of_onto after⟩

end Calls

end FluidStructure.Network
