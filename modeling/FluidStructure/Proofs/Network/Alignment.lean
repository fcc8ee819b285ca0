import FluidStructure.Proofs.Network.Transfer

/-!
# Message by message

One process makes calls that send, in any order and with any keys; another makes calls that
receive, with keys and buffers of its own choice.  Each receive takes one message, the next one.
It obtains the values if the message is the expected one, and else keeps its buffer; it never
disturbs the receive behind it.
-/

namespace FluidStructure.Network

open FluidStructure.Parallel FluidStructure.Channel
open MessageChannel (Expected total sendField receiveField sharing sendGathered)

/-! ## Calls that send -/

/-- A call that sends. -/
inductive Sending where
  | ints (iteration : Int32) (name : String) (values : List Int32)
  | reals (iteration : Int32) (name : String) (values : List Float)
  | field (name : String) (values : List Float)
  | close

namespace Sending

/-- The message of a call. -/
def message : Sending → Message
  | ints iteration name values => ⟨iteration, name, .ints, .ints values⟩
  | reals iteration name values => ⟨iteration, name, .reals, .reals values⟩
  | field name values => .field name values
  | close => ⟨-1, Variable.ending, .ending, .ints []⟩

/-- The name has no zeros, and a header can announce the values. -/
structure Fit (s : Sending) : Prop where
  plain : '\x00' ∉ s.message.name.toList
  most : s.message.payload.length < 2 ^ 31

/-- Makes the call; a closing call has no status of its own. -/
def perform (peer : Int32) : Sending → Act Parallel MessageChannel Status
  | ints iteration name values => Act.lift (MessageChannel.sendInts peer iteration name values)
  | reals iteration name values => Act.lift (MessageChannel.sendReals peer iteration name values)
  | field name values => sendField peer name values
  | close => do
    Act.lift ((← Act.get).close peer)
    return Status.ok

/-- Makes one call after the other. -/
def performAll (peer : Int32) : List Sending → Act Parallel MessageChannel (List Status)
  | [] => return []
  | s :: later => do
    let status ← s.perform peer
    let statuses ← performAll peer later
    return status :: statuses

/-- The messages that calls send: those whose name has room in a header. -/
def messages (ss : List Sending) : List Message :=
  (ss.map message).filter fun m => decide m.Short

theorem Fit.sendable {s : Sending} (h : s.Fit) (short : s.message.Short) : s.message.Sendable := by
  refine ⟨legible_of_plain short h.plain, h.most, ?_⟩
  cases s with
  | close => rfl
  | _ => trivial

end Sending

/-! ## Calls that receive -/

theorem Message.Sendable.ints_of_kind {m : Message} (h : m.Sendable) (kind : m.kind = .ints) :
    ∃ new, m.payload = .ints new := by
  have sorted := h.sorted
  unfold Message.Sorted at sorted
  rw [kind] at sorted
  cases payload : m.payload with
  | ints new => exact ⟨new, rfl⟩
  | reals new =>
    rw [payload] at sorted
    exact sorted.elim

theorem Message.Sendable.reals_of_kind {m : Message} (h : m.Sendable) (kind : m.kind = .reals) :
    ∃ new, m.payload = .reals new := by
  have sorted := h.sorted
  unfold Message.Sorted at sorted
  rw [kind] at sorted
  cases payload : m.payload with
  | reals new => exact ⟨new, rfl⟩
  | ints new =>
    rw [payload] at sorted
    exact sorted.elim

/-- New values in front of what is left of the old ones. -/
def front : (old new : Payload) → Payload
  | .ints old, .ints new => .ints (new ++ old.drop new.length)
  | .reals old, .reals new => .reals (new ++ old.drop new.length)
  | old, _ => old

/-- A call that receives into a buffer. -/
inductive Receiving where
  | ints (iteration : Int32) (name : String) (buffer : List Int32)
  | reals (iteration : Int32) (name : String) (buffer : List Float)
  | field (name : String) (buffer : List Float)

namespace Receiving

/-- What the call waits for. -/
def iteration : Receiving → Int32
  | ints iteration _ _ => iteration
  | reals iteration _ _ => iteration
  | field _ _ => 0

def name : Receiving → String
  | ints _ name _ => name
  | reals _ name _ => name
  | field name _ => name

def kind : Receiving → Kind
  | ints .. => .ints
  | reals .. => .reals
  | field .. => .field

def buffer : Receiving → Payload
  | ints _ _ buffer => .ints buffer
  | reals _ _ buffer => .reals buffer
  | field _ buffer => .reals buffer

/-- Makes the call. -/
def perform (peer : Int32) : Receiving → Act Parallel MessageChannel (Status × Payload)
  | ints iteration name buffer => do
    let (status, values) ← Act.lift (MessageChannel.receiveInts peer iteration name buffer)
    return (status, .ints values)
  | reals iteration name buffer => do
    let (status, values) ← Act.lift (MessageChannel.receiveReals peer iteration name buffer)
    return (status, .reals values)
  | field name buffer => do
    let (status, values) ← receiveField peer name buffer
    return (status, .reals values)

/-- Makes one call after the other. -/
def performAll (peer : Int32) :
    List Receiving → Act Parallel MessageChannel (List (Status × Payload))
  | [] => return []
  | e :: later => do
    let result ← e.perform peer
    let results ← performAll peer later
    return result :: results

/-- Is this message the expected one?  A field has to fill its buffer. -/
def Agrees (e : Receiving) (m : Message) : Prop :=
  m.name = e.name ∧ m.iteration = e.iteration ∧ m.kind = e.kind ∧
    if e.kind = .field then m.payload.length = e.buffer.length
    else m.payload.length ≤ e.buffer.length

instance (e : Receiving) (m : Message) : Decidable (e.Agrees m) :=
  inferInstanceAs (Decidable (_ ∧ _))

/-- What a message should bring the call. -/
def outcome (e : Receiving) (m : Message) : Status × Payload :=
  if m.kind = .ending then (Status.terminated, e.buffer)
  else if e.Agrees m then (m.count, front e.buffer m.payload)
  else (Status.protocolError, e.buffer)

/-- What the channel waits for in a call for scalars. -/
def expected (e : Receiving) : Expected :=
  ⟨e.iteration, e.name, e.kind, Int32.ofNat e.buffer.length, false⟩

theorem perform_ints {γ : Type} (peer iteration : Int32) (name : String) (buffer : List Int32)
    (d : MessageChannel) (f : Except Fault (Status × Payload) × MessageChannel → Program Parallel γ) :
    ((ints iteration name buffer).perform peer d).bind f =
      (MessageChannel.receiveMessage peer (ints iteration name buffer).expected
        (.ints buffer)).bind fun got => f (.ok (got.1, .ints (got.2.toInts buffer)), d) :=
  (act_bind ..).trans ((Program.bind_assoc ..).trans (Program.bind_assoc ..))

theorem perform_reals {γ : Type} (peer iteration : Int32) (name : String) (buffer : List Float)
    (d : MessageChannel) (f : Except Fault (Status × Payload) × MessageChannel → Program Parallel γ) :
    ((reals iteration name buffer).perform peer d).bind f =
      (MessageChannel.receiveMessage peer (reals iteration name buffer).expected
        (.ofReals buffer)).bind fun got =>
          f (.ok (got.1, .reals ((got.2.toSlots []).map Slot.value)), d) :=
  (act_bind ..).trans ((Program.bind_assoc ..).trans (Program.bind_assoc ..))

/-- What a message does bring the call, also if the buffer is too long for a message. -/
def result (m : Message) : Receiving → Status × Payload
  | ints iteration name buffer =>
    let got := m.received (ints iteration name buffer).expected (.ints buffer)
    (got.1, .ints (got.2.toInts buffer))
  | reals iteration name buffer =>
    let got := m.received (reals iteration name buffer).expected (.ofReals buffer)
    (got.1, .reals ((got.2.toSlots []).map Slot.value))
  | field name buffer =>
    let got := m.handed name (fun _ : Fin 1 => buffer) (Fin.last 0)
    (got.1, .reals got.2)

theorem map_value_whole (values : List Float) : (values.map Slot.whole).map Slot.value = values := by
  rw [List.map_map]
  exact List.map_id _

/-- Without values there is nothing to take, and the buffer stays. -/
theorem filled_ints (old new : List Int32) :
    (if (Payload.ints new).length = 0 then ReceiveBuffer.ints old
      else ReceiveBuffer.receive (.ints old) (.ints new)) = .ints (overwrite old new) := by
  by_cases none : (Payload.ints new).length = 0
  · have empty : new = [] := List.eq_nil_of_length_eq_zero none
    rw [if_pos none, empty]
    simp [overwrite]
  · exact if_neg none

theorem filled_reals (old new : List Float) :
    (if (Payload.reals new).length = 0 then ReceiveBuffer.ofReals old
      else ReceiveBuffer.receive (.ofReals old) (.reals new)) = .ofReals (overwrite old new) := by
  by_cases none : (Payload.reals new).length = 0
  · have empty : new = [] := List.eq_nil_of_length_eq_zero none
    rw [if_pos none, empty]
    simp [overwrite]
  · exact (if_neg none).trans (congrArg ReceiveBuffer.reals (overwrite_map ..))

variable {m : Message}

/-- A call for scalars accepts the messages that agree with it. -/
theorem received_eq {e : Receiving} (fit : m.Sendable) (most : e.buffer.length < 2 ^ 31)
    (scalars : e.kind ≠ .field) (room : ReceiveBuffer) :
    m.received e.expected room =
      if m.kind = .ending then (Status.terminated, room)
      else if e.Agrees m then
        (m.count, if m.payload.length = 0 then room else room.receive m.payload)
      else (Status.protocolError, room) := by
  have fits : m.count ≤ Int32.ofNat e.buffer.length ↔ m.payload.length ≤ e.buffer.length :=
    Int32.ofNat_le_iff_le fit.most most
  have agrees : e.expected.accepts m.header = true ↔ e.Agrees m := by
    rw [fit.accepts_iff]
    unfold Agrees expected
    rw [if_neg scalars, ← fits]
    simp
  unfold Message.received
  simp only [agrees]

theorem result_ints {iteration : Int32} {name : String} {buffer : List Int32} (fit : m.Sendable)
    (most : buffer.length < 2 ^ 31) :
    (ints iteration name buffer).result m = (ints iteration name buffer).outcome m := by
  unfold result outcome
  dsimp only
  rw [@received_eq m (ints iteration name buffer) fit most Kind.noConfusion]
  by_cases ending : m.kind = .ending
  · rw [if_pos ending, if_pos ending]
    rfl
  rw [if_neg ending, if_neg ending]
  by_cases agrees : (ints iteration name buffer).Agrees m
  · rw [if_pos agrees, if_pos agrees]
    obtain ⟨-, -, kind, fits⟩ := agrees
    obtain ⟨new, payload⟩ := fit.ints_of_kind kind
    rw [payload] at fits
    have enough : new.length ≤ buffer.length := fits
    rw [payload, filled_ints, overwrite_of_le enough]
    rfl
  · rw [if_neg agrees, if_neg agrees]
    rfl

theorem result_reals {iteration : Int32} {name : String} {buffer : List Float} (fit : m.Sendable)
    (most : buffer.length < 2 ^ 31) :
    (reals iteration name buffer).result m = (reals iteration name buffer).outcome m := by
  have kept : ((ReceiveBuffer.ofReals buffer).toSlots []).map Slot.value = buffer :=
    map_value_whole buffer
  unfold result outcome
  dsimp only
  rw [@received_eq m (reals iteration name buffer) fit most Kind.noConfusion]
  by_cases ending : m.kind = .ending
  · rw [if_pos ending, if_pos ending, kept]
    rfl
  rw [if_neg ending, if_neg ending]
  by_cases agrees : (reals iteration name buffer).Agrees m
  · rw [if_pos agrees, if_pos agrees]
    obtain ⟨-, -, kind, fits⟩ := agrees
    obtain ⟨new, payload⟩ := fit.reals_of_kind kind
    rw [payload] at fits
    have enough : new.length ≤ buffer.length := fits
    have values : ((ReceiveBuffer.ofReals (overwrite buffer new)).toSlots []).map Slot.value =
        overwrite buffer new := map_value_whole _
    rw [payload, filled_reals, values, overwrite_of_le enough]
    rfl
  · rw [if_neg agrees, if_neg agrees, kept]
    rfl

theorem result_field {name : String} {buffer : List Float} (fit : m.Sendable)
    (most : buffer.length < 2 ^ 31) :
    (field name buffer).result m = (field name buffer).outcome m := by
  have one : total (layout fun _ : Fin 1 => buffer) = buffer.length :=
    Int32.toNatClampNeg_ofNat_of_lt most
  have agrees : (m.name = name ∧ m.iteration = 0 ∧ m.kind = .field ∧
      m.payload.length = total (layout fun _ : Fin 1 => buffer)) ↔ (field name buffer).Agrees m := by
    rw [one]
    rfl
  unfold result outcome Message.handed
  dsimp only
  by_cases ending : m.kind = .ending
  · rw [if_pos ending, if_pos ending]
    rfl
  rw [if_neg ending, if_neg ending]
  by_cases fits : (field name buffer).Agrees m
  · rw [if_pos fits, if_pos (agrees.2 fits)]
    obtain ⟨-, -, kind, size⟩ := fits
    have reals := fit.payload_of_field kind
    have long : (values m.payload).length = buffer.length :=
      (congrArg Payload.length reals).symm.trans size
    have all : part (fun _ : Fin 1 => buffer) (values m.payload) (Fin.last 0) = values m.payload := by
      unfold part
      rw [Fin.val_last, offset_zero, List.drop_zero, ← long, List.take_length]
    have kept : front (.reals buffer) m.payload = .reals (values m.payload) := by
      rw [reals]
      show Payload.reals (values m.payload ++ buffer.drop (values m.payload).length) = _
      rw [long, List.drop_length, List.append_nil]
      rfl
    have count : m.count = Int32.ofNat buffer.length := congrArg Int32.ofNat size
    rw [all, overwrite_of_eq long, count]
    exact congrArg (Prod.mk _) kept.symm
  · rw [if_neg fits, if_neg (mt agrees.1 fits)]
    rfl

/-- Within the lengths that a message can announce, the call obtains what it should. -/
theorem result_eq_outcome {e : Receiving} (fit : m.Sendable) (most : e.buffer.length < 2 ^ 31) :
    e.result m = e.outcome m := by
  cases e with
  | ints iteration name buffer => exact result_ints fit most
  | reals iteration name buffer => exact result_reals fit most
  | field name buffer => exact result_field fit most

theorem ofNat_lt_zero {n : Nat} (least : 2 ^ 31 ≤ n) (most : n < 2 ^ 32) : Int32.ofNat n < 0 := by
  have size : Int32.size = 2 ^ 32 := rfl
  have zero : (0 : Int32).toInt = 0 := rfl
  rw [Int32.lt_iff_toInt_lt, Int32.toInt_ofNat', zero, size, Int.bmod_def]
  omega

/-- Past that, the count that a call for scalars goes by is negative.  It takes whatever comes, and
refuses it, even if it agrees.  A call for a field has no such result: as it sizes the staging slots
by that count, the program fails before it takes anything. -/
theorem result_of_overlong {e : Receiving} (fit : m.Sendable) (scalars : e.kind ≠ .field)
    (least : 2 ^ 31 ≤ e.buffer.length) (most : e.buffer.length < 2 ^ 32) :
    e.result m =
      (if m.kind = .ending then Status.terminated else Status.protocolError, e.buffer) := by
  have refused : ¬e.expected.accepts m.header = true := by
    intro accepted
    obtain ⟨-, -, -, fits⟩ := fit.accepts_iff.1 accepted
    have count : m.count ≤ Int32.ofNat e.buffer.length := fits
    have negative := Int32.lt_of_le_of_lt count (ofNat_lt_zero least most)
    exact Int32.not_lt.2 (Int32.zero_le_ofNat_of_lt fit.most) negative
  have received (room : ReceiveBuffer) : m.received e.expected room =
      (if m.kind = .ending then Status.terminated else Status.protocolError, room) := by
    unfold Message.received
    rw [if_neg refused]
    split <;> rfl
  cases e with
  | ints iteration name buffer =>
    dsimp only [result]
    rw [received]
    rfl
  | reals iteration name buffer =>
    dsimp only [result]
    rw [received]
    exact congrArg (Prod.mk _) (congrArg Payload.reals (map_value_whole buffer))
  | field name buffer => exact absurd rfl scalars

end Receiving

/-- The mail that some messages make. -/
def waiting : List Message → Mail
  | [] => .empty
  | m :: later => m.post ++ waiting later

theorem waiting_messages (s : Sending) (later : List Sending) :
    waiting (Sending.messages (s :: later)) =
      s.message.sent ++ waiting (Sending.messages later) := by
  unfold Sending.messages Message.sent
  rw [List.map_cons, List.filter_cons]
  by_cases short : s.message.Short
  · rw [if_pos (decide_eq_true short), if_pos short]
    rfl
  · rw [if_neg (by simpa using short), if_neg short, Mail.empty_append]

section Sends

variable {n : Nat} {α β : Type} {r : Roots} {Q : (Fin (n + 1) → α) → β → Traffic n → Prop}
  {p : Fin (n + 1) → Program Parallel α} {toFluid toSolid : Mail} {d : MessageChannel}

/-- The structural solver sends a field of its own. -/
theorem meets_sendField_alone {name : String} {values : List Float}
    (fit : (Message.field name values).Short → (Message.field name values).Sendable)
    (single : d.isLocalRoot = true)
    {g : Except Fault Status × MessageChannel → Program Parallel β}
    (on : ∀ d' : MessageChannel, d'.place = d.place →
      Meets r Q p (g (.ok (Message.field name values).sentStatus, d'))
        (toFluid ++ (Message.field name values).sent) toSolid) :
    Meets r Q p ((sendField r.fluid name values d).bind g) toFluid toSolid := by
  let m := Message.field name values
  let own := Int32.ofNat values.length
  let d' := d.resized [own]
  let d'' : MessageChannel := { d' with staging := values.map .whole }
  have gives := (congrArg (Program.bind · g) (MessageChannel.sendField_apply r.fluid name values d)).trans
    (Program.ask_bind _ _ _)
  apply Meets.gatherCount_alone gives
  apply Meets.gatherReals_alone rfl
  have single' : d'.isLocalRoot = true := (MessageChannel.isLocalRoot_resized [own]).trans single
  let after (status : Status) (d : MessageChannel) : Program Parallel β :=
    (sharing status d fun shared => .done
      (.ok (if Status.failed shared then shared else own), d)).bind g
  have root : (sendGathered r.fluid name values d').bind (fun x => after x.1 x.2) =
      (m.send r.fluid).bind fun status => after status d'' := by
    rw [MessageChannel.sendGathered_root single', Program.bind_assoc]
    rfl
  suffices gathered : Meets r Q p ((sendGathered r.fluid name values d').bind
      fun x => after x.1 x.2) toFluid toSolid by
    have same := Program.bind_assoc (sendGathered r.fluid name values d')
      (fun x => sharing x.1 x.2 fun shared => .done
        (.ok (if Status.failed shared then shared else own), x.2)) g
    exact same ▸ gathered
  apply Meets.solid_sends fit root
  refine Meets.sharing_alone rfl ?_
  have status : (if Status.failed m.sentStatus then m.sentStatus else own) = m.sentStatus := by
    split
    · rfl
    · rename_i fine
      unfold Message.sentStatus at fine ⊢
      split at fine
      · rw [if_pos ‹_›]
        rfl
      · exact absurd (by decide) fine
  rw [status]
  exact on d'' (MessageChannel.place_resized d [own])

/-- The structural solver makes a call that sends. -/
theorem meets_perform {s : Sending} (fit : s.Fit) (single : d.isLocalRoot = true)
    {g : Except Fault Status × MessageChannel → Program Parallel β}
    (on : ∀ d' : MessageChannel, d'.place = d.place →
      Meets r Q p (g (.ok s.message.sentStatus, d')) (toFluid ++ s.message.sent) toSolid) :
    Meets r Q p ((s.perform r.fluid d).bind g) toFluid toSolid := by
  have sends (m : Message) (same : m = s.message) :
      Meets r Q p ((Act.lift (m.send r.fluid) d).bind g) toFluid toSolid := by
    subst same
    have program : (Act.lift (s.message.send r.fluid) d).bind g =
        (s.message.send r.fluid).bind fun status => g (.ok status, d) :=
      Program.bind_assoc _ _ _
    exact Meets.solid_sends fit.sendable program (on d rfl)
  cases s with
  | ints iteration name values => exact sends _ rfl
  | reals iteration name values => exact sends _ rfl
  | field name values => exact meets_sendField_alone fit.sendable single on
  | close =>
    have program : Sending.close.perform r.fluid d =
        (d.close r.fluid).bind fun _ => .done (.ok Status.ok, d) :=
      Act.lift_bind_apply (d.close r.fluid) _ d
    have closes : d.close r.fluid = (Sending.close.message.send r.fluid).bind fun status =>
        if Status.failed status then ask (.note (.endingNotDelivered r.fluid)) else pure () :=
      if_pos single
    rw [program, closes, Program.bind_assoc, Program.bind_assoc]
    exact Meets.solid_sends fit.sendable rfl (on d rfl)

/-- The structural solver makes one call after the other. -/
theorem meets_performAll {ss : List Sending} (fit : ∀ s ∈ ss, s.Fit) (single : d.isLocalRoot = true)
    {g : Except Fault (List Status) × MessageChannel → Program Parallel β}
    (on : ∀ d' : MessageChannel, Meets r Q p
      (g (.ok (ss.map fun s => s.message.sentStatus), d'))
      (toFluid ++ waiting (Sending.messages ss)) toSolid) :
    Meets r Q p ((Sending.performAll r.fluid ss d).bind g) toFluid toSolid := by
  induction ss generalizing d toFluid g with
  | nil =>
    have ends := on d
    have none : toFluid ++ waiting (Sending.messages []) = toFluid := Mail.append_empty _
    rwa [none] at ends
  | cons s later ih =>
    have first := fit s List.mem_cons_self
    have rest : ∀ s ∈ later, s.Fit := fun s member => fit s (List.mem_cons_of_mem _ member)
    unfold Sending.performAll
    rw [act_bind]
    apply meets_perform first single
    intro d' place
    have single' : d'.isLocalRoot = true := by
      rw [← single]
      exact congrArg Place.isRoot place
    unfold follows
    dsimp only
    rw [act_bind]
    apply ih rest single'
    intro d''
    rw [Mail.append_assoc, ← waiting_messages]
    exact on d''

end Sends

section Receives

variable {α β : Type} {r : Roots} {Q : (Fin 1 → α) → β → Traffic 0 → Prop} {q : Program Parallel β}
  {rest toSolid : Mail} {d : MessageChannel} {m : Message}

/-- The fluid solver makes a call that receives, and the oldest message is taken. -/
theorem meets_receiving (blind : Blind Q) (fit : m.Sendable) {e : Receiving}
    (single : d.isLocalRoot = true)
    {f : Except Fault (Status × Payload) × MessageChannel → Program Parallel α}
    (on : ∀ d' : MessageChannel, d'.place = d.place →
      Meets r Q (fun _ => f (.ok (e.result m), d')) q rest toSolid) :
    Meets r Q (fun _ => (e.perform r.solid d).bind f) q (m.post ++ rest) toSolid := by
  have alone (x y : Program Parallel α) : put (fun _ : Fin 1 => x) 0 y = fun _ => y := by
    funext i
    exact if_pos (Fin.fin_one_eq_zero i)
  cases e with
  | ints iteration name buffer =>
    have sort (kind : m.kind = .ints) : m.payload.elementSize = 4 := by
      obtain ⟨new, payload⟩ := fit.ints_of_kind kind
      rw [payload]
      rfl
    apply Meets.root_receives blind fit sort
      (Receiving.perform_ints r.solid iteration name buffer d f)
    rw [alone]
    exact on d rfl
  | reals iteration name buffer =>
    have sort (kind : m.kind = .reals) : m.payload.elementSize = 8 := by
      obtain ⟨new, payload⟩ := fit.reals_of_kind kind
      rw [payload]
      rfl
    apply Meets.root_receives blind fit sort
      (Receiving.perform_reals r.solid iteration name buffer d f)
    rw [alone]
    exact on d rfl
  | field name buffer =>
    have room : total (layout fun _ : Fin 1 => buffer) < 2 ^ 31 :=
      Int32.toNatClampNeg_lt (Int32.ofNat buffer.length)
    have receives (i : Fin 1) : ((Receiving.field name buffer).perform r.solid d).bind f =
        (receiveField r.solid name buffer d).bind (follows (fun got => pure (got.1, .reals got.2)) f) :=
      act_bind ..
    have roots (i : Fin 1) : d.isLocalRoot = decide (i = 0) := by
      rw [single, Fin.fin_one_eq_zero i]
      rfl
    apply Meets.group_receives blind fit roots room receives
    intro d' places
    refine Meets.of_eq (fun i => ?_) (on (d' 0) (places 0))
    rw [Fin.fin_one_eq_zero i]
    rfl

/-- The fluid solver makes one call after the other, and each takes one message. -/
theorem meets_receivingAll (blind : Blind Q) {es : List Receiving} {ms : List Message}
    (fit : ∀ m ∈ ms, m.Sendable) (enough : es.length ≤ ms.length) (single : d.isLocalRoot = true)
    {f : Except Fault (List (Status × Payload)) × MessageChannel → Program Parallel α}
    (on : ∀ d' : MessageChannel,
      Meets r Q (fun _ => f (.ok (es.zipWith (fun e m => e.result m) ms), d')) q
        (waiting (ms.drop es.length)) toSolid) :
    Meets r Q (fun _ => (Receiving.performAll r.solid es d).bind f) q (waiting ms) toSolid := by
  induction es generalizing ms d f with
  | nil => exact on d
  | cons e later ih =>
    cases ms with
    | nil => exact absurd enough (Nat.not_succ_le_zero _)
    | cons m behind =>
      have first := fit m List.mem_cons_self
      have rest : ∀ m ∈ behind, m.Sendable := fun m member => fit m (List.mem_cons_of_mem _ member)
      refine Meets.of_eq (fun i => act_bind (e.perform r.solid) _ d f) ?_
      apply meets_receiving blind first single
      intro d' place
      have single' : d'.isLocalRoot = true := by
        rw [← single]
        exact congrArg Place.isRoot place
      refine Meets.of_eq (fun i => act_bind (Receiving.performAll r.solid later) _ d' f) ?_
      exact ih rest (Nat.le_of_succ_le_succ enough) single' on

end Receives

/-! ## A whole conversation -/

/-- The structural solver makes calls that send, and the fluid solver calls that receive. -/
def conversation (r : Roots) (c d : MessageChannel) (ss : List Sending) (es : List Receiving) :
    State 0 (Except Fault (List (Status × Payload)) × MessageChannel)
      (Except Fault (List Status) × MessageChannel) where
  fluid _ := Receiving.performAll r.solid es d
  solid := Sending.performAll r.fluid ss c

/-- How a conversation ends.  Each call that sends has its status.  Each call that receives has
what its message does bring it, and the messages that nobody asked for are left as they are. -/
structure Ended (ss : List Sending) (es : List Receiving)
    (x : Fin 1 → Except Fault (List (Status × Payload)) × MessageChannel)
    (y : Except Fault (List Status) × MessageChannel) (w : Traffic 0) : Prop where
  sent : y.1 = .ok (ss.map fun s => s.message.sentStatus)
  received : (x 0).1 = .ok (es.zipWith (fun e m => e.result m) (Sending.messages ss))
  left : w.toFluid = waiting ((Sending.messages ss).drop es.length)

/-- The same, and each call that receives has what its message should bring it. -/
structure Aligned (ss : List Sending) (es : List Receiving)
    (x : Fin 1 → Except Fault (List (Status × Payload)) × MessageChannel)
    (y : Except Fault (List Status) × MessageChannel) (w : Traffic 0) : Prop where
  sent : y.1 = .ok (ss.map fun s => s.message.sentStatus)
  received : ∃ results, (x 0).1 = .ok results ∧ results.length = es.length ∧
    ∀ (k : Nat) (e : Receiving) (m : Message), es[k]? = some e →
      (Sending.messages ss)[k]? = some m → results[k]? = some (e.outcome m)
  left : w.toFluid = waiting ((Sending.messages ss).drop es.length)

theorem blind_ended (ss : List Sending) (es : List Receiving) : Blind (Ended ss es) :=
  fun _ _ _ _ same _ h => ⟨h.sent, h.received, same.symm.trans h.left⟩

theorem sendable_messages {ss : List Sending} (fit : ∀ s ∈ ss, s.Fit) :
    ∀ m ∈ Sending.messages ss, m.Sendable := by
  intro m member
  obtain ⟨listed, short⟩ := List.mem_filter.1 member
  obtain ⟨s, among, rfl⟩ := List.mem_map.1 listed
  exact (fit s among).sendable (of_decide_eq_true short)

/-- Within the lengths that a message can announce, the two are the same. -/
theorem Ended.aligned {ss : List Sending} {es : List Receiving}
    {x : Fin 1 → Except Fault (List (Status × Payload)) × MessageChannel}
    {y : Except Fault (List Status) × MessageChannel} {w : Traffic 0} (fit : ∀ s ∈ ss, s.Fit)
    (enough : es.length ≤ (Sending.messages ss).length)
    (most : ∀ e ∈ es, e.buffer.length < 2 ^ 31) (h : Ended ss es x y w) : Aligned ss es x y w := by
  refine ⟨h.sent, ⟨_, h.received, ?_, fun k e m expects sends => ?_⟩, h.left⟩
  · rw [List.length_zipWith]
    exact Nat.min_eq_left enough
  · have fits : m.Sendable := sendable_messages fit m (List.mem_of_getElem? sends)
    rw [List.getElem?_zipWith, expects, sends]
    exact congrArg some (Receiving.result_eq_outcome fits (most e (List.mem_of_getElem? expects)))

/-- One process makes calls that send, another calls that receive, as many as there are messages
or fewer.  Whatever the calls are and however their steps are interleaved, neither process waits
in vain, both come to an end, and the k-th receive obtains what the k-th message does bring it. -/
theorem conversation_ends {r : Roots} {c d : MessageChannel} {ss : List Sending}
    {es : List Receiving} (fit : ∀ s ∈ ss, s.Fit) (enough : es.length ≤ (Sending.messages ss).length)
    (sender : c.isLocalRoot = true) (receiver : d.isLocalRoot = true) :
    Acc (fun after before => ∃ who, Step r before who after) (conversation r c d ss es) ∧
    ∀ a, Reaches r (conversation r c d ss es) a →
      (∃ who b, Step r a who b) ∨
      ∃ x y, (∀ i, a.fluid i = .done (x i)) ∧ a.solid = .done y ∧ Ended ss es x y a.traffic := by
  have blind := blind_ended ss es
  have meets : Meets r (Ended ss es) (fun _ => (Receiving.performAll r.solid es d).bind .done)
      ((Sending.performAll r.fluid ss c).bind .done) .empty .empty := by
    apply meets_performAll fit sender
    intro c'
    rw [Mail.empty_append]
    apply meets_receivingAll blind (sendable_messages fit) enough receiver
    intro d' w _ here _
    exact .done (fun _ => rfl) rfl ⟨rfl, rfl, here⟩
  have same : Meets r (Ended ss es) (conversation r c d ss es).fluid
      (conversation r c d ss es).solid .empty .empty := by
    rw [Program.bind_done, Program.bind_done] at meets
    exact meets
  refine ⟨acc_step _, fun a reached => ?_⟩
  exact ((same.settles blind {} rfl rfl).reaches reached).goes_on

/-- If no buffer is too long for a message, the k-th receive obtains what the k-th message should
bring it. -/
theorem receives_aligned {r : Roots} {c d : MessageChannel} {ss : List Sending}
    {es : List Receiving} (fit : ∀ s ∈ ss, s.Fit) (enough : es.length ≤ (Sending.messages ss).length)
    (most : ∀ e ∈ es, e.buffer.length < 2 ^ 31)
    (sender : c.isLocalRoot = true) (receiver : d.isLocalRoot = true) :
    Acc (fun after before => ∃ who, Step r before who after) (conversation r c d ss es) ∧
    ∀ a, Reaches r (conversation r c d ss es) a →
      (∃ who b, Step r a who b) ∨
      ∃ x y, (∀ i, a.fluid i = .done (x i)) ∧ a.solid = .done y ∧ Aligned ss es x y a.traffic := by
  obtain ⟨ending, goes⟩ := conversation_ends (r := r) fit enough sender receiver
  refine ⟨ending, fun a reached => (goes a reached).imp_right ?_⟩
  rintro ⟨x, y, fluid, solid, ended⟩
  exact ⟨x, y, fluid, solid, ended.aligned fit enough most⟩

namespace Mixed

/-- A name that has no room, a message without values and a field, before the end. -/
def sent : List Sending :=
  [.ints 3 "NBPDTM" [1, 2], .reals 0 "a name of more than thirty-one bytes" [1.0],
    .reals 1 "DTCALC" [], .field "fluid_forces" [1.0, 2.0], .close]

/-- The second call waits for integers, the third for a longer field. -/
def expected : List Receiving :=
  [.ints 3 "NBPDTM" [0, 0, 0], .ints 1 "DTCALC" [7], .field "fluid_forces" [0.0, 0.0, 0.0],
    .reals 0 "PDTREF" [0.0]]

def place : MessageChannel where
  place := ⟨0, 1⟩

/-- Two of four calls fail, and the last one still learns of the end. -/
theorem receives_aligned_mixed :
    (∀ s ∈ sent, s.Fit) ∧ expected.length ≤ (Sending.messages sent).length ∧
    (∀ e ∈ expected, e.buffer.length < 2 ^ 31) ∧
    ∀ a, Reaches ⟨0, 1⟩ (conversation ⟨0, 1⟩ place place sent expected) a →
      (∃ who b, Step ⟨0, 1⟩ a who b) ∨
      ∃ x y, (∀ i, a.fluid i = .done (x i)) ∧ a.solid = .done y ∧
        Aligned sent expected x y a.traffic := by
  have fit : ∀ s ∈ sent, s.Fit := by
    unfold sent
    simp only [List.forall_mem_cons]
    exact ⟨⟨by decide, by decide⟩, ⟨by decide, by decide⟩, ⟨by decide, by decide⟩,
      ⟨by decide, by decide⟩, ⟨by decide, by decide⟩, fun _ none => nomatch none⟩
  have enough : expected.length ≤ (Sending.messages sent).length := by decide
  have most : ∀ e ∈ expected, e.buffer.length < 2 ^ 31 := by
    unfold expected
    simp only [List.forall_mem_cons]
    exact ⟨by decide, by decide, by decide, by decide, fun _ none => nomatch none⟩
  exact ⟨fit, enough, most, (receives_aligned (r := ⟨0, 1⟩) fit enough most rfl rfl).2⟩

end Mixed

namespace Overlong

open Mixed (place)

/-- One integer. -/
def sent : Sending := .ints 0 "NBPDTM" [7]

/-- It is expected, in a buffer of so many integers. -/
def expected (size : Nat) : Receiving := .ints 0 "NBPDTM" (List.replicate size 0)

theorem length_buffer (size : Nat) : (expected size).buffer.length = size := List.length_replicate

theorem agrees_expected {size : Nat} (some : 1 ≤ size) : (expected size).Agrees sent.message := by
  refine ⟨rfl, rfl, rfl, ?_⟩
  rw [length_buffer]
  exact some

theorem fit_sent : ∀ s ∈ [sent], s.Fit := List.forall_mem_singleton.2 ⟨by decide, by decide⟩

/-- The call refuses the message, which it should accept. -/
theorem result_expected {size : Nat} (least : 2 ^ 31 ≤ size) (most : size < 2 ^ 32) :
    (expected size).result sent.message = (Status.protocolError, (expected size).buffer) := by
  have fit : sent.message.Sendable := sendable_messages fit_sent _ List.mem_cons_self
  rw [← length_buffer size] at least most
  rw [Receiving.result_of_overlong fit Kind.noConfusion least most]
  rfl

theorem not_aligned {size : Nat}
    {x : Fin 1 → Except Fault (List (Status × Payload)) × MessageChannel}
    {y : Except Fault (List Status) × MessageChannel} {w : Traffic 0} (some : 1 ≤ size)
    (refused : (x 0).1 = .ok [(Status.protocolError, (expected size).buffer)]) :
    ¬Aligned [sent] [expected size] x y w := by
  intro aligned
  obtain ⟨results, received, -, each⟩ := aligned.received
  obtain rfl := Except.ok.inj (received.symm.trans refused)
  have outcome := Option.some.inj (each 0 _ sent.message rfl rfl)
  unfold Receiving.outcome at outcome
  rw [if_neg (by decide), if_pos (agrees_expected some)] at outcome
  have status : Status.protocolError = sent.message.count := congrArg Prod.fst outcome
  exact absurd status (by decide)

/-- In a buffer of 2^31 integers the one is refused that agrees.  A field, too, does not arrive if
the group of one cannot gather its length: nothing is taken. -/
theorem receives_not_aligned :
    sent.Fit ∧ (expected (2 ^ 31)).Agrees sent.message ∧
    Acc (fun after before => ∃ who, Step ⟨0, 1⟩ before who after)
      (conversation ⟨0, 1⟩ place place [sent] [expected (2 ^ 31)]) ∧
    (∀ a, Reaches ⟨0, 1⟩ (conversation ⟨0, 1⟩ place place [sent] [expected (2 ^ 31)]) a →
      (∃ who b, Step ⟨0, 1⟩ a who b) ∨
      ∃ x y, (∀ i, a.fluid i = .done (x i)) ∧ a.solid = .done y ∧
        (x 0).1 = .ok [(Status.protocolError, (expected (2 ^ 31)).buffer)] ∧
        ¬Aligned [sent] [expected (2 ^ 31)] x y a.traffic) ∧
    (receiveField 1 "fluid_forces" [0.0]).Runs place [⟨.gatherCount .application 1, .error 5⟩]
      (.error (.messagePassing "MPI_Gather" 5)) place := by
  have some : 1 ≤ 2 ^ 31 := by decide
  have result := @result_expected (2 ^ 31) (Nat.le_refl _) (by decide)
  have enough : [expected (2 ^ 31)].length ≤ (Sending.messages [sent]).length := Nat.le_refl 1
  obtain ⟨ending, goes⟩ :=
    conversation_ends (r := ⟨0, 1⟩) (c := place) (d := place) fit_sent enough rfl rfl
  refine ⟨fit_sent _ List.mem_cons_self, agrees_expected some, ending,
    fun a reached => (goes a reached).imp_right ?_, ?_⟩
  · rintro ⟨x, y, fluid, solid, ended⟩
    have refused : (x 0).1 = .ok [(Status.protocolError, (expected (2 ^ 31)).buffer)] :=
      ended.received.trans (congrArg (fun got => Except.ok [got]) result)
    exact ⟨x, y, fluid, solid, refused, not_aligned some refused⟩
  · exact Program.runs_ask.2 ⟨.error 5, [], rfl, .done _⟩

end Overlong

end FluidStructure.Network
