import FluidStructure.Proofs.Network.Mailbox

/-!
# Fields between partitions

A field that is spread over the ranks of one group goes to the ranks of another group, which may
be more or fewer and hold other numbers of values.  In rank order the values stay the same.  If
the numbers of all values differ, every receiving rank learns so and keeps its buffer, and the
message behind the field is received as if nothing had happened.
-/

namespace FluidStructure.Network

open FluidStructure.Parallel FluidStructure.Channel
open MessageChannel (Expected total sendField receiveField sharing sendGathered receiveStaged)

/-! ## Parts of a field -/

/-- How many values each rank has. -/
def layout {n : Nat} (buffers : Fin n → List Float) : List Int32 :=
  List.ofFn fun i => Int32.ofNat (buffers i).length

/-- The part of a field that a rank gets, if the field is laid out in rank order. -/
def part {n : Nat} (buffers : Fin n → List Float) (field : List Float) (i : Fin n) : List Float :=
  (field.drop (offset (layout buffers) i)).take (buffers i).length

theorem layout_succ {n : Nat} (buffers : Fin (n + 1) → List Float) :
    layout buffers = Int32.ofNat (buffers 0).length :: layout fun i => buffers i.succ :=
  List.ofFn_succ

theorem offset_zero (counts : List Int32) : offset counts 0 = 0 := rfl

theorem offset_succ (count : Int32) (counts : List Int32) (rank : Nat) :
    offset (count :: counts) (rank + 1) = count.toNatClampNeg + offset counts rank := rfl

/-- Every part is as long as its buffer, and in rank order the parts are the field. -/
theorem flatten_parts {n : Nat} {buffers : Fin n → List Float} {field : List Float}
    (same : (List.ofFn buffers).flatten.length = field.length) (most : field.length < 2 ^ 31) :
    (∀ i, (part buffers field i).length = (buffers i).length) ∧
      (List.ofFn (part buffers field)).flatten = field := by
  induction n generalizing field with
  | zero =>
    have none : field = [] := by
      apply List.eq_nil_of_length_eq_zero
      simpa using same.symm
    exact ⟨fun i => i.elim0, by simp [none]⟩
  | succ n ih =>
    rw [List.ofFn_succ, List.flatten_cons, List.length_append] at same
    have first : (Int32.ofNat (buffers 0).length).toNatClampNeg = (buffers 0).length :=
      Int32.toNatClampNeg_ofNat_of_lt (by omega)
    have rest : (List.ofFn fun i : Fin n => buffers i.succ).flatten.length =
        (field.drop (buffers 0).length).length := by
      rw [List.length_drop]
      omega
    have fewer : (field.drop (buffers 0).length).length < 2 ^ 31 := by
      rw [List.length_drop]
      omega
    obtain ⟨sizes, whole⟩ := ih rest fewer
    have head : part buffers field 0 = field.take (buffers 0).length := by
      unfold part
      rw [Fin.val_zero, offset_zero, List.drop_zero]
    have tail (i : Fin n) : part buffers field i.succ =
        part (fun i => buffers i.succ) (field.drop (buffers 0).length) i := by
      unfold part
      rw [layout_succ, Fin.val_succ, offset_succ, first, List.drop_drop]
    constructor
    · intro i
      cases i using Fin.cases with
      | zero =>
        rw [head, List.length_take]
        omega
      | succ i => exact (congrArg List.length (tail i)).trans (sizes i)
    · have others : (fun i : Fin n => part buffers field i.succ) =
          part (fun i => buffers i.succ) (field.drop (buffers 0).length) := funext tail
      rw [List.ofFn_succ, List.flatten_cons, head, others, whole]
      exact List.take_append_drop _ _

/-! ## A group sends and receives -/

/-- The values of a payload. -/
def values : Payload → List Float
  | .ints _ => []
  | .reals values => values

namespace Message

/-- The message that carries a field. -/
def field (name : String) (values : List Float) : Message := ⟨0, name, .field, .reals values⟩

/-- What a rank makes of a message if its group expects a field. -/
def handed {n : Nat} (m : Message) (name : String) (buffers : Fin n → List Float) (i : Fin n) :
    Status × List Float :=
  if m.kind = .ending then (Status.terminated, buffers i)
  else if m.name = name ∧ m.iteration = 0 ∧ m.kind = .field ∧
      m.payload.length = total (layout buffers) then
    (Int32.ofNat (buffers i).length, overwrite (buffers i) (part buffers (values m.payload) i))
  else (Status.protocolError, buffers i)

theorem sendable_field {name : String} {values : List Float} (legible : Legible name)
    (most : values.length < 2 ^ 31) : (field name values).Sendable :=
  ⟨legible, most, trivial⟩

/-- A message of a field carries reals. -/
theorem Sendable.payload_of_field {m : Message} (h : m.Sendable) (kind : m.kind = .field) :
    m.payload = .reals (values m.payload) := by
  have sorted := h.sorted
  unfold Sorted at sorted
  rw [kind] at sorted
  cases payload : m.payload with
  | ints _ =>
    rw [payload] at sorted
    exact sorted.elim
  | reals _ => rfl

/-- A field is accepted if the numbers of all values agree. -/
theorem Sendable.accepts_field_iff {m : Message} (h : m.Sendable) (name : String) {most : Nat}
    (room : most < 2 ^ 31) :
    (⟨0, name, .field, Int32.ofNat most, true⟩ : Expected).accepts m.header = true ↔
      m.name = name ∧ m.iteration = 0 ∧ m.kind = .field ∧ m.payload.length = most := by
  have count : m.count = Int32.ofNat most ↔ m.payload.length = most := by
    refine ⟨fun same => ?_, fun same => by rw [← same]; rfl⟩
    have numbers := congrArg Int32.toNatClampNeg same
    unfold Message.count at numbers
    rwa [Int32.toNatClampNeg_ofNat_of_lt h.most, Int32.toNatClampNeg_ofNat_of_lt room] at numbers
  rw [h.accepts_iff, if_pos rfl, count]

/-- The root has the values of the field in its staging slots. -/
theorem Sendable.staged {m : Message} (h : m.Sendable) (kind : m.kind = .field)
    {slots : List Slot} (room : slots.length = m.payload.length) :
    ((if m.payload.length = 0 then ReceiveBuffer.reals slots
      else ReceiveBuffer.receive (.reals slots) m.payload).toSlots slots).map Slot.value =
        values m.payload := by
  have reals := h.payload_of_field kind
  have long : (values m.payload).length = m.payload.length := (congrArg Payload.length reals).symm
  by_cases none : m.payload.length = 0
  · have left : slots = [] := List.eq_nil_of_length_eq_zero (room.trans none)
    have right : values m.payload = [] := List.eq_nil_of_length_eq_zero (long.trans none)
    rw [if_pos none, right, left]
    rfl
  · have same : ((values m.payload).map Slot.whole).length = slots.length := by
      rw [List.length_map, long, room]
    rw [if_neg none, reals]
    show (overwrite slots ((values m.payload).map Slot.whole)).map Slot.value = values m.payload
    rw [overwrite_of_eq same, List.map_map]
    exact List.map_id _

end Message

namespace Meets

variable {n : Nat} {α β : Type} {r : Roots} {Q : (Fin (n + 1) → α) → β → Traffic n → Prop}
  {p : Fin (n + 1) → Program Parallel α} {q : Program Parallel β} {toFluid toSolid rest : Mail}
  {name : String} {c : Fin (n + 1) → MessageChannel}

theorem place_put {d : MessageChannel} (same : d.place = (c 0).place) (i : Fin (n + 1)) :
    (put c 0 d i).place = (c i).place := by
  by_cases here : i = 0
  · subst here
    rw [put_same, same]
  · rw [put_other here]

/-- The root tells how its exchange went, after which its channel is another one. -/
theorem root_tells {γ : Type} {status : Status} {d : MessageChannel}
    {k : Fin (n + 1) → MessageChannel → Status → Program Parallel (Except Fault γ × MessageChannel)}
    {f : Fin (n + 1) → Except Fault γ × MessageChannel → Program Parallel α}
    (root : p 0 = (sharing status d (k 0 d)).bind (f 0))
    (others : ∀ i, i ≠ 0 → p i = (sharing Status.ok (c i) (k i (c i))).bind (f i))
    (on : Meets r Q (fun i => (k i (put c 0 d i) status).bind (f i)) q toFluid toSolid) :
    Meets r Q p q toFluid toSolid := by
  have asks i : p i = (sharing (put (fun _ => Status.ok) 0 status i) (put c 0 d i)
      (k i (put c 0 d i))).bind (f i) := by
    by_cases here : i = 0
    · subst here
      rw [put_same, put_same]
      exact root
    · rw [put_other here, put_other here]
      exact others i here
  refine sharing_group asks ?_
  rw [put_same]
  exact on

/-- The ranks of a group send a field; each learns how many values are its own. -/
theorem group_sends (legible : Legible name) {parts : Fin (n + 1) → List Float}
    {f : Fin (n + 1) → Except Fault Status × MessageChannel → Program Parallel α}
    (roots : ∀ i, (c i).isLocalRoot = decide (i = 0))
    (most : (List.ofFn parts).flatten.length < 2 ^ 31)
    (sends : ∀ i, p i = (sendField r.solid name (parts i) (c i)).bind (f i))
    (on : ∀ c' : Fin (n + 1) → MessageChannel, (∀ i, (c' i).place = (c i).place) →
      Meets r Q (fun i => f i (.ok (Int32.ofNat (parts i).length), c' i)) q toFluid
        (toSolid ++ (Message.field name (List.ofFn parts).flatten).post)) :
    Meets r Q p q toFluid toSolid := by
  let field := Message.field name (List.ofFn parts).flatten
  have fit : field.Sendable := Message.sendable_field legible most
  -- the field is gathered on the root
  have asks i := (sends i).trans ((congrArg (Program.bind · (f i))
    (MessageChannel.sendField_apply _ _ _ _)).trans (Program.ask_bind _ _ _))
  apply gatherCount asks
  apply gatherReals (fun i => rfl) (if_pos rfl)
  -- the root sends it
  let counts (i : Fin (n + 1)) : List Int32 := if i = 0 then layout parts else []
  let gathered (i : Fin (n + 1)) : List Float := if i = 0 then (List.ofFn parts).flatten else []
  let c₁ i := (c i).resized (counts i)
  have root₁ i : (c₁ i).isLocalRoot = decide (i = 0) :=
    (MessageChannel.isLocalRoot_resized _).trans (roots i)
  let answer (i : Fin (n + 1)) (d : MessageChannel) (shared : Status) :
      Program Parallel (Except Fault Status × MessageChannel) :=
    .done (.ok (if Status.failed shared then shared else Int32.ofNat (parts i).length), d)
  let after (i : Fin (n + 1)) (status : Status) (d : MessageChannel) : Program Parallel α :=
    (sharing status d (answer i d)).bind (f i)
  have root : (sendGathered r.solid name (gathered 0) (c₁ 0)).bind
      (fun x => after 0 x.1 x.2) = (field.send r.solid).bind fun status =>
        after 0 status { c₁ 0 with staging := (gathered 0).map .whole } := by
    rw [MessageChannel.sendGathered_root (root₁ 0), Program.bind_assoc]
    rfl
  have others i (apart : i ≠ 0) : (sendGathered r.solid name (gathered i) (c₁ i)).bind
      (fun x => after i x.1 x.2) = after i Status.ok (c₁ i) := by
    rw [MessageChannel.sendGathered_other ((root₁ i).trans (decide_eq_false apart))]
    rfl
  apply of_eq fun i => show _ = (sendGathered r.solid name (gathered i) (c₁ i)).bind
    (fun x => after i x.1 x.2) from Program.bind_assoc _ _ _
  apply root_sends fit root
  -- the root tells how that went
  refine root_tells (k := answer) put_same
    (fun i apart => (put_other apart).trans (others i apart)) ?_
  have fine : Status.failed field.count = false := fit.failed_count
  let sent : MessageChannel := { c₁ 0 with staging := (gathered 0).map .whole }
  refine of_eq (fun i => ?_) (on (put c₁ 0 sent) fun i =>
    (place_put (by rfl) i).trans (MessageChannel.place_resized _ _))
  exact congrArg (fun status => f i (.ok status, put c₁ 0 sent i))
    (if_neg (by rw [fine]; exact Bool.false_ne_true))

/-- A field that the root has received is handed out; if it is none, every rank learns so. -/
theorem group_hands {m : Message} (fit : m.Sendable) {buffers : Fin (n + 1) → List Float}
    {f : Fin (n + 1) → Except Fault (Status × List Float) × MessageChannel → Program Parallel α}
    {layouts : Fin (n + 1) → List Int32} (whole : layouts 0 = layout buffers) {slots : List Slot}
    (size : slots.length = total (layout buffers)) (room : total (layout buffers) < 2 ^ 31)
    {got : Status × ReceiveBuffer}
    (received : got = m.received ⟨0, name, .field, Int32.ofNat slots.length, true⟩ (.reals slots))
    (staged : (c 0).staging = got.2.toSlots slots)
    (on : Meets r Q (fun i => f i (.ok (m.handed name buffers i), c i)) q toFluid toSolid) :
    Meets r Q (fun i => (MessageChannel.handOut (layouts i) (buffers i) (c i) got.1).bind (f i)) q
      toFluid toSolid := by
  have accepts := fit.accepts_field_iff name (size ▸ room)
  unfold Message.received at received
  unfold Message.handed at on
  by_cases ending : m.kind = .ending
  · rw [if_pos ending] at received
    refine of_eq (fun i => ?_) on
    rw [received, MessageChannel.handOut_failed rfl, if_pos ending]
    rfl
  rw [if_neg ending] at received
  by_cases fits :
      (⟨0, name, .field, Int32.ofNat slots.length, true⟩ : Expected).accepts m.header = true
  · have agrees := accepts.1 fits
    rw [if_pos fits] at received
    have taken : (c 0).staging.map Slot.value = values m.payload := by
      rw [staged, received]
      exact fit.staged agrees.2.2.1 agrees.2.2.2.symm
    have fine : Status.failed got.1 = false := by
      rw [received]
      exact fit.failed_count
    have long : (values m.payload).length = m.payload.length :=
      (congrArg Payload.length (fit.payload_of_field agrees.2.2.1)).symm
    refine of_eq (fun i => congrArg (Program.bind · (f i)) (MessageChannel.handOut_fine fine)) ?_
    apply scatterReals (fun i => rfl) whole
    · rw [whole, taken, long, agrees.2.2.2, size]
    · refine of_eq (fun i => ?_) on
      rw [taken, whole, if_neg ending, if_pos (size ▸ agrees)]
      rfl
  · rw [if_neg fits] at received
    refine of_eq (fun i => ?_) on
    rw [received, MessageChannel.handOut_failed rfl, if_neg ending,
      if_neg fun wrong => fits (accepts.2 (size ▸ wrong))]
    rfl

/-- The ranks of a group receive the oldest message, whatever it is. -/
theorem group_receives (blind : Blind Q) {m : Message} (fit : m.Sendable)
    {buffers : Fin (n + 1) → List Float}
    {f : Fin (n + 1) → Except Fault (Status × List Float) × MessageChannel → Program Parallel α}
    (roots : ∀ i, (c i).isLocalRoot = decide (i = 0)) (room : total (layout buffers) < 2 ^ 31)
    (receives : ∀ i, p i = (receiveField r.solid name (buffers i) (c i)).bind (f i))
    (on : ∀ c' : Fin (n + 1) → MessageChannel, (∀ i, (c' i).place = (c i).place) →
      Meets r Q (fun i => f i (.ok (m.handed name buffers i), c' i)) q rest toSolid) :
    Meets r Q p q (m.post ++ rest) toSolid := by
  -- the root makes room for the whole field
  have asks i := (receives i).trans ((congrArg (Program.bind · (f i))
    (MessageChannel.receiveField_apply _ _ _ _)).trans (Program.ask_bind _ _ _))
  apply gatherCount asks
  let layouts (i : Fin (n + 1)) : List Int32 := if i = 0 then layout buffers else []
  let c₁ i := (c i).resized (layouts i)
  have whole : layouts 0 = layout buffers := if_pos rfl
  have root₁ i : (c₁ i).isLocalRoot = decide (i = 0) :=
    (MessageChannel.isLocalRoot_resized _).trans (roots i)
  have size : (c₁ 0).staging.length = total (layout buffers) := by
    rw [← whole]
    exact MessageChannel.length_staging_resized (roots 0) _
  -- it takes the message
  let e : Expected := ⟨0, name, .field, Int32.ofNat (c₁ 0).staging.length, true⟩
  let hands (i : Fin (n + 1)) (d : MessageChannel) :=
    MessageChannel.handOut (layouts i) (buffers i) d
  let after (i : Fin (n + 1)) (status : Status) (d : MessageChannel) : Program Parallel α :=
    (sharing status d (hands i d)).bind (f i)
  have root : (receiveStaged r.solid name (c₁ 0)).bind (fun x => after 0 x.1 x.2) =
      (MessageChannel.receiveMessage r.solid e (.reals (c₁ 0).staging)).bind fun x =>
        after 0 x.1 { c₁ 0 with staging := x.2.toSlots (c₁ 0).staging } := by
    rw [MessageChannel.receiveStaged_root (root₁ 0), Program.bind_assoc]
    rfl
  have others i (apart : i ≠ 0) : (receiveStaged r.solid name (c₁ i)).bind
      (fun x => after i x.1 x.2) = after i Status.ok (c₁ i) := by
    rw [MessageChannel.receiveStaged_other ((root₁ i).trans (decide_eq_false apart))]
    rfl
  have sort (kind : m.kind = .field) : m.payload.elementSize = 8 := by
    rw [fit.payload_of_field kind]
    rfl
  suffices staged : Meets r Q (fun i => (receiveStaged r.solid name (c₁ i)).bind
      fun x => after i x.1 x.2) q (m.post ++ rest) toSolid from
    of_eq (fun i => Program.bind_assoc _ _ _) staged
  apply root_receives blind fit sort root
  -- it tells how that went, and hands out what it has
  refine root_tells (k := hands) put_same
    (fun i apart => (put_other apart).trans (others i apart)) ?_
  exact group_hands fit whole size room rfl (congrArg MessageChannel.staging put_same)
    (on _ fun i => (place_put (by rfl) i).trans (MessageChannel.place_resized _ _))

end Meets

/-! ## Field after field -/

/-- A field that goes from the ranks of one group to the ranks of another. -/
structure Transfer (m n : Nat) where
  name : String
  parts : Fin (m + 1) → List Float
  buffers : Fin (n + 1) → List Float

namespace Transfer

variable {m n : Nat}

/-- All values in rank order. -/
def whole (t : Transfer m n) : List Float := (List.ofFn t.parts).flatten

/-- All places for values in rank order. -/
def space (t : Transfer m n) : List Float := (List.ofFn t.buffers).flatten

/-- A field that a message can carry, and buffers that a message can fill. -/
structure Fit (t : Transfer m n) : Prop where
  short : t.name.utf8ByteSize ≤ maxNameBytes
  plain : '\x00' ∉ t.name.toList
  whole : t.whole.length < 2 ^ 31
  space : t.space.length < 2 ^ 31

/-- The message that carries the field. -/
def message (t : Transfer m n) : Message := .field t.name t.whole

theorem Fit.sendable {t : Transfer m n} (h : t.Fit) : t.message.Sendable :=
  Message.sendable_field (legible_of_plain h.short h.plain) h.whole

/-- What the receiving ranks make of a transfer: with equal totals the field, in rank order and
in parts as long as the buffers; otherwise an error, with the buffers as they were. -/
def Received (t : Transfer m n) (results : Fin (n + 1) → Status × List Float) : Prop :=
  if t.whole.length = t.space.length then
    (∀ j, (results j).1 = Int32.ofNat (t.buffers j).length ∧
      (results j).2.length = (t.buffers j).length) ∧
      (List.ofFn fun j => (results j).2).flatten = t.whole
  else ∀ j, results j = (Status.protocolError, t.buffers j)

theorem Fit.received {t : Transfer m n} (h : t.Fit) :
    t.Received (t.message.handed t.name t.buffers) := by
  have goesOn : ¬ t.message.kind = .ending := Kind.noConfusion
  have count : total (layout t.buffers) = t.space.length := total_layout h.space
  unfold Received
  by_cases same : t.whole.length = t.space.length
  · obtain ⟨sizes, field⟩ := flatten_parts same.symm h.whole
    have agrees : t.message.name = t.name ∧ t.message.iteration = 0 ∧ t.message.kind = .field ∧
        t.message.payload.length = total (layout t.buffers) :=
      ⟨rfl, rfl, rfl, same.trans count.symm⟩
    have result j : t.message.handed t.name t.buffers j =
        (Int32.ofNat (t.buffers j).length, part t.buffers t.whole j) := by
      unfold Message.handed
      rw [if_neg goesOn, if_pos agrees]
      exact congrArg (Prod.mk _) (overwrite_of_eq (sizes j))
    rw [if_pos same]
    refine ⟨fun j => ⟨congrArg Prod.fst (result j), ?_⟩, ?_⟩
    · rw [result]
      exact sizes j
    · simp only [result]
      exact field
  · have differs : ¬ (t.message.name = t.name ∧ t.message.iteration = 0 ∧ t.message.kind = .field ∧
        t.message.payload.length = total (layout t.buffers)) :=
      fun wrong => same (wrong.2.2.2.trans count)
    rw [if_neg same]
    intro j
    unfold Message.handed
    rw [if_neg goesOn, if_neg differs]

/-- One rank sends its parts of some fields. -/
def sendAll (peer : Int32) (i : Fin (m + 1)) :
    List (Transfer m n) → Act Parallel MessageChannel (List Status)
  | [] => return []
  | t :: later => do
    let status ← sendField peer t.name (t.parts i)
    let statuses ← sendAll peer i later
    return status :: statuses

/-- One rank receives its parts of some fields. -/
def receiveAll (peer : Int32) (j : Fin (n + 1)) :
    List (Transfer m n) → Act Parallel MessageChannel (List (Status × List Float))
  | [] => return []
  | t :: later => do
    let result ← receiveField peer t.name (t.buffers j)
    let results ← receiveAll peer j later
    return result :: results

/-- The messages of some fields, one behind the other. -/
def posts : List (Transfer m n) → Mail
  | [] => .empty
  | t :: later => t.message.post ++ posts later

/-- The sending group, whose messages nobody receives yet. -/
def senders (r : Roots) (c : Fin (m + 1) → MessageChannel) (ts : List (Transfer m n)) :
    State m (Except Fault (List Status) × MessageChannel) Unit where
  fluid i := sendAll r.solid i ts (c i)
  solid := .done ()

/-- The receiving group, for which some messages wait. -/
def receivers (r : Roots) (d : Fin (n + 1) → MessageChannel) (ts : List (Transfer m n))
    (waiting : Mail) :
    State n (Except Fault (List (Status × List Float)) × MessageChannel) Unit where
  fluid j := receiveAll r.solid j ts (d j)
  solid := .done ()
  traffic := { toFluid := waiting }

/-- How the sending ends: every rank knows its counts, and the messages are on their way. -/
def Sent (ts : List (Transfer m n)) (x : Fin (m + 1) → Except Fault (List Status) × MessageChannel)
    (_ : Unit) (w : Traffic m) : Prop :=
  (∀ i, (x i).1 = .ok (ts.map fun t => Int32.ofNat (t.parts i).length)) ∧ w.toSolid = posts ts

/-- How the receiving ends: every transfer is received, and what waits behind still waits. -/
def Taken (ts : List (Transfer m n)) (behind : Mail)
    (x : Fin (n + 1) → Except Fault (List (Status × List Float)) × MessageChannel) (_ : Unit)
    (w : Traffic n) : Prop :=
  (∃ results : List (Fin (n + 1) → Status × List Float), List.Forall₂ Received ts results ∧
    ∀ j, (x j).1 = .ok (results.map fun result => result j)) ∧ w.toFluid = behind

variable {α β : Type} {r : Roots}

/-- The group sends field after field.  The induction is on the fields; the channels keep nothing
but their places. -/
theorem meets_sendAll {Q : (Fin (m + 1) → α) → β → Traffic m → Prop} {q : Program Parallel β}
    {toFluid toSolid : Mail} {c : Fin (m + 1) → MessageChannel} {ts : List (Transfer m n)}
    {f : Fin (m + 1) → Except Fault (List Status) × MessageChannel → Program Parallel α}
    (fit : ∀ t ∈ ts, t.Fit) (roots : ∀ i, (c i).isLocalRoot = decide (i = 0))
    (on : ∀ c' : Fin (m + 1) → MessageChannel,
      Meets r Q (fun i => f i (.ok (ts.map fun t => Int32.ofNat (t.parts i).length), c' i)) q toFluid
        (toSolid ++ posts ts)) :
    Meets r Q (fun i => (sendAll r.solid i ts (c i)).bind (f i)) q toFluid toSolid := by
  induction ts generalizing c toSolid f with
  | nil =>
    have ends := on c
    unfold posts at ends
    rwa [Mail.append_empty] at ends
  | cons t later ih =>
    have first := fit t List.mem_cons_self
    have rest : ∀ t ∈ later, t.Fit := fun t member => fit t (List.mem_cons_of_mem _ member)
    apply Meets.group_sends (legible_of_plain first.short first.plain) roots first.whole
      fun i => act_bind (sendField r.solid t.name (t.parts i)) _ (c i) (f i)
    intro c' places
    have roots' i : (c' i).isLocalRoot = decide (i = 0) := by
      rw [← roots i]
      exact congrArg Place.isRoot (places i)
    refine Meets.of_eq (fun i => act_bind (sendAll r.solid i later) _ (c' i) (f i)) ?_
    apply ih rest roots'
    intro c''
    rw [Mail.append_assoc]
    exact on c''

/-- The group receives field after field. -/
theorem meets_receiveAll {Q : (Fin (n + 1) → α) → β → Traffic n → Prop} (blind : Blind Q)
    {q : Program Parallel β} {toSolid behind : Mail} {d : Fin (n + 1) → MessageChannel}
    {ts : List (Transfer m n)}
    {f : Fin (n + 1) → Except Fault (List (Status × List Float)) × MessageChannel →
      Program Parallel α}
    (fit : ∀ t ∈ ts, t.Fit) (roots : ∀ j, (d j).isLocalRoot = decide (j = 0))
    (on : ∀ (d' : Fin (n + 1) → MessageChannel) (results : List (Fin (n + 1) → Status × List Float)),
      List.Forall₂ Received ts results →
      Meets r Q (fun j => f j (.ok (results.map fun result => result j), d' j)) q behind toSolid) :
    Meets r Q (fun j => (receiveAll r.solid j ts (d j)).bind (f j)) q (posts ts ++ behind)
      toSolid := by
  induction ts generalizing d f with
  | nil => exact on d [] .nil
  | cons t later ih =>
    have first := fit t List.mem_cons_self
    have rest : ∀ t ∈ later, t.Fit := fun t member => fit t (List.mem_cons_of_mem _ member)
    have room : total (layout t.buffers) < 2 ^ 31 := by
      have count : total (layout t.buffers) = t.space.length := total_layout first.space
      rw [count]
      exact first.space
    have front : posts (t :: later) ++ behind = t.message.post ++ (posts later ++ behind) :=
      Mail.append_assoc ..
    rw [front]
    apply Meets.group_receives blind first.sendable roots room
      fun j => act_bind (receiveField r.solid t.name (t.buffers j)) _ (d j) (f j)
    intro d' places
    have roots' j : (d' j).isLocalRoot = decide (j = 0) := by
      rw [← roots j]
      exact congrArg Place.isRoot (places j)
    refine Meets.of_eq (fun j => act_bind (receiveAll r.solid j later) _ (d' j) (f j)) ?_
    apply ih rest roots'
    intro d'' results received
    exact on d'' (t.message.handed t.name t.buffers :: results) (.cons first.received received)

theorem blind_sent (ts : List (Transfer m n)) : Blind (Sent ts) :=
  fun _ _ _ _ _ same h => ⟨h.1, same ▸ h.2⟩

theorem blind_taken (ts : List (Transfer m n)) (behind : Mail) : Blind (Taken ts behind) :=
  fun _ _ _ _ same _ h => ⟨h.1, same ▸ h.2⟩

theorem settles_senders {c : Fin (m + 1) → MessageChannel} {ts : List (Transfer m n)}
    (fit : ∀ t ∈ ts, t.Fit) (roots : ∀ i, (c i).isLocalRoot = decide (i = 0)) :
    Settles r (Sent ts) (senders r c ts) := by
  have meets : Meets r (Sent ts) (fun i => (sendAll r.solid i ts (c i)).bind .done) (.done ())
      .empty .empty := by
    apply meets_sendAll fit roots
    intro c' w _ _ there
    exact .done (fun _ => rfl) rfl ⟨fun _ => rfl, there⟩
  have same : Meets r (Sent ts) (fun i => sendAll r.solid i ts (c i)) (.done ()) .empty .empty :=
    Meets.of_eq (fun i => (Program.bind_done _).symm) meets
  exact same.settles (blind_sent ts) {} rfl rfl

theorem settles_receivers {d : Fin (n + 1) → MessageChannel} {ts : List (Transfer m n)}
    (fit : ∀ t ∈ ts, t.Fit) (roots : ∀ j, (d j).isLocalRoot = decide (j = 0)) (behind : Mail) :
    Settles r (Taken ts behind) (receivers r d ts (posts ts ++ behind)) := by
  have blind := blind_taken ts behind
  have meets : Meets r (Taken ts behind) (fun j => (receiveAll r.solid j ts (d j)).bind .done)
      (.done ()) (posts ts ++ behind) .empty := by
    apply meets_receiveAll blind fit roots
    intro d' results received w _ here _
    exact .done (fun _ => rfl) rfl ⟨⟨results, received, fun _ => rfl⟩, here⟩
  have same : Meets r (Taken ts behind) (fun j => receiveAll r.solid j ts (d j)) (.done ())
      (posts ts ++ behind) .empty :=
    Meets.of_eq (fun j => (Program.bind_done _).symm) meets
  exact same.settles blind _ rfl rfl

/-- A group of any size sends fields, and another group of any size receives them.  Neither waits
in vain and both come to an end.  Every sending rank learns its counts.  Every field arrives whole
and in rank order, or, if its total is not that of the buffers, every receiving rank learns so and
keeps its buffer; either way the fields behind it arrive, and the messages behind them are kept. -/
theorem fields_transferred {c : Fin (m + 1) → MessageChannel} {d : Fin (n + 1) → MessageChannel}
    {ts : List (Transfer m n)} (fit : ∀ t ∈ ts, t.Fit)
    (senderRoots : ∀ i, (c i).isLocalRoot = decide (i = 0))
    (receiverRoots : ∀ j, (d j).isLocalRoot = decide (j = 0)) :
    Acc (fun after before => ∃ who, Step r before who after) (senders r c ts) ∧
    ∀ a, Reaches r (senders r c ts) a →
      (∃ who b, Step r a who b) ∨
      ∃ x y, (∀ i, a.fluid i = .done (x i)) ∧ a.solid = .done y ∧ Sent ts x y a.traffic ∧
        ∀ behind,
          Acc (fun after before => ∃ who, Step r before who after)
            (receivers r d ts (a.traffic.toSolid ++ behind)) ∧
          ∀ b, Reaches r (receivers r d ts (a.traffic.toSolid ++ behind)) b →
            (∃ who b', Step r b who b') ∨
            ∃ x y, (∀ j, b.fluid j = .done (x j)) ∧ b.solid = .done y ∧
              Taken ts behind x y b.traffic := by
  refine ⟨acc_step _, fun a reached => ?_⟩
  rcases ((settles_senders fit senderRoots).reaches reached).goes_on with
    goes | ⟨x, y, fluid, solid, sent⟩
  · exact .inl goes
  · refine .inr ⟨x, y, fluid, solid, sent, fun behind => ⟨acc_step _, fun b reached => ?_⟩⟩
    rw [sent.2] at reached
    exact ((settles_receivers fit receiverRoots behind).reaches reached).goes_on

namespace TwoToThree

/-- Two ranks with three values and none, three ranks with room for two, none and one. -/
def even : Transfer 1 2 where
  name := "fluid_forces"
  parts i := if i = 0 then [1.0, 2.0, 3.0] else []
  buffers j := if j = 0 then [0.0, 0.0] else if j = 1 then [] else [0.0]

/-- The same values with too much room. -/
def odd : Transfer 1 2 := { even with buffers := fun _ => [0.0, 0.0] }

def place {n : Nat} (i : Fin (n + 1)) : MessageChannel where
  place := ⟨Int32.ofNat i, Int32.ofNat (n + 1)⟩

theorem fits : ∀ t ∈ [even, odd, even], t.Fit := by
  have even : even.Fit := ⟨by decide, by decide, by decide, by decide⟩
  have odd : odd.Fit := ⟨by decide, by decide, by decide, by decide⟩
  simp [even, odd]

/-- The second of three fields does not fit, and the third arrives all the same. -/
theorem fields_transferred_twoToThree : (∀ t ∈ [even, odd, even], t.Fit) ∧
    ∀ a, Reaches ⟨0, 2⟩ (senders ⟨0, 2⟩ place [even, odd, even]) a →
      (∃ who b, Step ⟨0, 2⟩ a who b) ∨
      ∃ x y, (∀ i, a.fluid i = .done (x i)) ∧ a.solid = .done y ∧
        Sent [even, odd, even] x y a.traffic ∧
        ∀ b, Reaches ⟨0, 2⟩ (receivers ⟨0, 2⟩ place [even, odd, even] (a.traffic.toSolid ++ .empty)) b →
          (∃ who b', Step ⟨0, 2⟩ b who b') ∨
          ∃ x y, (∀ j, b.fluid j = .done (x j)) ∧ b.solid = .done y ∧
            Taken [even, odd, even] .empty x y b.traffic := by
  have places : ∀ i : Fin 2, (place i).isLocalRoot = decide (i = 0) := by decide
  have places' : ∀ j : Fin 3, (place j).isLocalRoot = decide (j = 0) := by decide
  obtain ⟨-, transferred⟩ := fields_transferred (r := ⟨0, 2⟩) fits places places'
  refine ⟨fits, fun a reached => ?_⟩
  rcases transferred a reached with goes | ⟨x, y, fluid, solid, sent, taken⟩
  · exact .inl goes
  · exact .inr ⟨x, y, fluid, solid, sent, (taken .empty).2⟩

end TwoToThree

end Transfer

end FluidStructure.Network
