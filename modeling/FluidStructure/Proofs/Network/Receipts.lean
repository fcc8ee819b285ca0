import FluidStructure.Proofs.Network.Alignment

/-!
# What a receive obtains

The header and the payload of a message travel apart, and a receive checks the header only.
Here nothing is assumed about the peer: any header, any payload that has room and any error
can come.  A receive that fails leaves its buffer alone.  One that succeeds reports the count
of the header and does not write beyond it.  It has obtained that many values exactly if the
payload is the one that the header announced; a shorter one, or one of the other element type,
goes unnoticed, and old contents pass for values.
-/

namespace FluidStructure.Channel

/-! ## What a payload does not reach -/

theorem Slot.drop_storeInts {new : List Int32} {slots : List Slot} {n : Nat}
    (reach : new.length ≤ 2 * n) : (storeInts new slots).drop n = slots.drop n := by
  induction new, slots using storeInts.induct generalizing n with
  | case1 low high rest slot slots ih =>
    cases n with
    | zero => exact absurd reach (by simp)
    | succ n => exact ih (by simp only [List.length_cons] at reach; omega)
  | case2 low slot slots =>
    cases n with
    | zero => exact absurd reach (by simp)
    | succ n => rfl
  | case3 new slots pair single => rw [storeInts.eq_3 new slots pair single]

theorem length_halves (xs : List Float) : (xs.flatMap halvesOf).length = 2 * xs.length := by
  induction xs with
  | nil => rfl
  | cons x xs ih =>
    rw [List.flatMap_cons, List.length_append, ih, List.length_cons]
    show 2 + _ = _
    omega

namespace ReceiveBuffer

/-- The elements from some place on. -/
def beyond (n : Nat) : ReceiveBuffer → ReceiveBuffer
  | ints values => ints (values.drop n)
  | reals slots => reals (slots.drop n)

/-- A payload of at most the bytes of n elements leaves the others alone, also if its elements
are of the other type. -/
theorem beyond_receive {n : Nat} {room : ReceiveBuffer} {payload : Payload}
    (small : payload.size ≤ n * room.elementSize) :
    (room.receive payload).beyond n = room.beyond n := by
  unfold Payload.size at small
  cases room with
  | ints old =>
    cases payload with
    | ints new =>
      have bytes : new.length * 4 ≤ n * 4 := small
      have reach : new.length ≤ n := by omega
      exact congrArg ReceiveBuffer.ints (drop_overwrite reach)
    | reals new =>
      have bytes : new.length * 8 ≤ n * 4 := small
      have reach : (new.flatMap halvesOf).length ≤ n := by
        rw [length_halves]
        omega
      exact congrArg ReceiveBuffer.ints (drop_overwrite reach)
  | reals old =>
    cases payload with
    | ints new =>
      have bytes : new.length * 4 ≤ n * 8 := small
      exact congrArg ReceiveBuffer.reals (Slot.drop_storeInts (by omega))
    | reals new =>
      have bytes : new.length * 8 ≤ n * 8 := small
      have reach : (new.map Slot.whole).length ≤ n := by
        rw [List.length_map]
        omega
      exact congrArg ReceiveBuffer.reals (drop_overwrite reach)

theorem drop_toInts {n : Nat} {room : ReceiveBuffer} {rest : List Int32} (old : List Int32)
    (h : room.beyond n = ints rest) : (room.toInts old).drop n = rest := by
  cases room with
  | ints values => exact ReceiveBuffer.ints.inj h
  | reals slots => cases h

theorem drop_toSlots {n : Nat} {room : ReceiveBuffer} {rest : List Slot} (old : List Slot)
    (h : room.beyond n = reals rest) : (room.toSlots old).drop n = rest := by
  cases room with
  | ints values => cases h
  | reals slots => exact ReceiveBuffer.reals.inj h

end ReceiveBuffer

end FluidStructure.Channel

namespace FluidStructure.Network

open FluidStructure.Parallel FluidStructure.Channel
open MessageChannel (Expected total resize announcedBytes receiveMessage)

/-! ## What comes -/

/-- What a process takes from its mail in an exchange. -/
def arrival : Exchange Parallel → Mail
  | ⟨.receiveHeader _, .ok header⟩ => ⟨[header], []⟩
  | ⟨.receivePayload .., .ok payload⟩ => ⟨[], [payload]⟩
  | _ => .empty

/-- All that a process takes. -/
def arrived : Log Parallel → Mail
  | [] => .empty
  | made :: later => arrival made ++ arrived later

/-- A collective request of a process that is alone in its group. -/
def AnsweredAlone (request : Request) (reply : request.Reply) : Prop :=
  ∃ sums, Answered (fun _ : Fin 1 => request) sums (Fin.last 0) request reply

/-- What is known of the surroundings of a process that is alone in its group.  A payload that is
received has room, and a collective operation that succeeds is one of this group.  The headers,
the payloads and all errors are left open. -/
def Lawful : Exchange Parallel → Prop
  | ⟨.receivePayload _ limit, .ok payload⟩ => payload.size ≤ limit
  | ⟨.gatherCount c own, .ok counts⟩ => AnsweredAlone (.gatherCount c own) (.ok counts)
  | ⟨.broadcastInts c root own, .ok values⟩ =>
    AnsweredAlone (.broadcastInts c root own) (.ok values)
  | ⟨.scatterReals c field layout buffer, .ok part⟩ =>
    AnsweredAlone (.scatterReals c field layout buffer) (.ok part)
  | _ => True

/-- However the program ends, if the surroundings are lawful, what it has taken and its value are
in a relation.  Some of the mail was taken before. -/
def Brings {γ : Type} (R : Mail → γ → Prop) (before : Mail) (p : Program Parallel γ) : Prop :=
  ∀ log value, p.Runs log value → (∀ made ∈ log, Lawful made) → R (before ++ arrived log) value

section Brings

variable {γ δ : Type} {R : Mail → γ → Prop} {before : Mail}

theorem brings_done {value : γ} (h : R before value) : Brings R before (.done value) := by
  intro log value' run _
  obtain ⟨rfl, rfl⟩ := Program.runs_done.1 run
  show R (before ++ .empty) value'
  rwa [Mail.append_empty]

theorem brings_ask {request : Request} {next : request.Reply → Program Parallel γ}
    (h : ∀ reply, Lawful ⟨request, reply⟩ → Brings R (before ++ arrival ⟨request, reply⟩) (next reply)) :
    Brings R before (.ask request next) := by
  intro log value run lawful
  obtain ⟨reply, later, rfl, onward⟩ := Program.runs_ask.1 run
  obtain ⟨first, others⟩ := List.forall_mem_cons.1 lawful
  have brought := h reply first later value onward others
  rwa [Mail.append_assoc] at brought

/-- A request that takes nothing from the mail. -/
theorem brings_aside {request : Request} {next : request.Reply → Program Parallel γ}
    (quiet : ∀ reply, arrival ⟨request, reply⟩ = .empty)
    (h : ∀ reply, Lawful ⟨request, reply⟩ → Brings R before (next reply)) :
    Brings R before (.ask request next) := by
  refine brings_ask fun reply lawful => ?_
  rw [quiet, Mail.append_empty]
  exact h reply lawful

theorem arrived_append (first second : Log Parallel) :
    arrived (first ++ second) = arrived first ++ arrived second := by
  induction first with
  | nil => rfl
  | cons made later ih =>
    show arrival made ++ arrived (later ++ second) = arrival made ++ arrived later ++ arrived second
    rw [ih, Mail.append_assoc]

theorem brings_bind {S : Mail → δ → Prop} {p : Program Parallel δ} {f : δ → Program Parallel γ}
    (first : Brings S before p) (later : ∀ taken value, S taken value → Brings R taken (f value)) :
    Brings R before (p.bind f) := by
  intro log value run lawful
  obtain ⟨log, middle, log', rfl, runs, onward⟩ := Program.runs_bind.1 run
  obtain ⟨here, there⟩ := List.forall_mem_append.1 lawful
  rw [arrived_append, ← Mail.append_assoc]
  exact later _ middle (first log middle runs here) log' value onward there

end Brings

section Alone

theorem gathered_alone {own : Int32} {counts : List Int32}
    (h : AnsweredAlone (.gatherCount .application own) (.ok counts)) : counts = [own] := by
  obtain ⟨sums, answered⟩ := h
  have replied := @answered_gatherCount 0 sums (Fin.last 0) (fun _ => own) (.ok counts)
  exact Except.ok.inj (replied.1 answered)

theorem shared_alone {own values : List Int32}
    (h : AnsweredAlone (.broadcastInts .application 0 own) (.ok values)) : values = own := by
  obtain ⟨sums, answered⟩ := h
  have replied := @answered_broadcastInts 0 sums (Fin.last 0) (fun _ => own) own.length (.ok values) fun _ => rfl
  exact Except.ok.inj (replied.1 answered)

theorem scattered_alone {field buffer part : List Float} {layout : List Int32}
    (h : AnsweredAlone (.scatterReals .application field layout buffer) (.ok part)) :
    part = overwrite buffer (field.take buffer.length) := by
  obtain ⟨sums, fields, layouts, buffers, asked, -, -, same⟩ := h
  obtain ⟨-, rfl, rfl, rfl⟩ := Request.scatterReals.inj (asked 0)
  exact Except.ok.inj same

end Alone

/-! ## The ways a receive can go -/

/-- A receive fails and keeps its buffer, takes a header that announces no values, or takes a
header and a payload. -/
inductive Receipt {γ : Type} (accepts : Header → Prop) (elementSize : Nat) (kept : γ)
    (filled : Payload → γ) : Mail → Status → γ → Prop
  | failed {mail : Mail} {status : Status} (failed : Status.failed status = true) :
    Receipt accepts elementSize kept filled mail status kept
  | empty {header : Header} (accepted : accepts header) (none : header.count = 0) :
    Receipt accepts elementSize kept filled ⟨[header], []⟩ header.count kept
  | filled {header : Header} {payload : Payload} (accepted : accepts header)
    (some : 0 < header.count) (room : payload.size ≤ announcedBytes header elementSize) :
    Receipt accepts elementSize kept filled ⟨[header], [payload]⟩ header.count (filled payload)

/-- A buffer that is seen in another form. -/
theorem Receipt.map {γ δ : Type} {accepts accepts' : Header → Prop} {elementSize : Nat} {kept x : γ}
    {filled : Payload → γ} {mail : Mail} {status : Status} (g : γ → δ)
    (weaker : ∀ header, accepts header → accepts' header)
    (h : Receipt accepts elementSize kept filled mail status x) :
    Receipt accepts' elementSize (g kept) (fun payload => g (filled payload)) mail status (g x) := by
  cases h with
  | failed failed => exact .failed failed
  | empty accepted none => exact .empty (weaker _ accepted) none
  | filled accepted some room => exact .filled (weaker _ accepted) some room

/-- A receipt of a message, with its status. -/
def Fetched (e : Expected) (room : ReceiveBuffer) (mail : Mail) (got : Status × ReceiveBuffer) :
    Prop :=
  Receipt (e.accepts · = true) room.elementSize room room.receive mail got.1 got.2

theorem brings_receiveMessage (peer : Int32) (e : Expected) (room : ReceiveBuffer) :
    Brings (Fetched e room) .empty (receiveMessage peer e room) := by
  rw [MessageChannel.receiveMessage_eq]
  refine brings_ask fun reply _ => ?_
  cases reply with
  | error code => exact brings_ask fun _ _ => brings_done (.failed rfl)
  | ok header =>
    unfold MessageChannel.afterHeader
    dsimp only
    by_cases ending : header.kind = Kind.ending.code
    · rw [if_pos ending]
      exact brings_done (.failed rfl)
    rw [if_neg ending]
    by_cases accepted : e.accepts header = true
    · rw [if_pos accepted]
      by_cases some : 0 < header.count
      · rw [if_pos some]
        refine brings_ask fun reply lawful => ?_
        cases reply with
        | error code => exact brings_ask fun _ _ => brings_done (.failed rfl)
        | ok payload => exact brings_done (.filled accepted some lawful)
      · rw [if_neg some]
        have fine := Int32.not_lt.1 (of_decide_eq_false (MessageChannel.Expected.failed_count accepted))
        exact brings_done (.empty accepted (Int32.le_antisymm (Int32.not_lt.1 some) fine))
    · rw [if_neg accepted]
      refine brings_ask fun _ _ => ?_
      by_cases some : 0 < header.count
      · rw [if_pos some]
        exact brings_ask fun _ _ => brings_done (.failed rfl)
      · rw [if_neg some]
        exact brings_done (.failed rfl)

/-! ## Calls -/

/-- The elements from some place on. -/
def beyond (n : Nat) : Payload → Payload
  | .ints values => .ints (values.drop n)
  | .reals values => .reals (values.drop n)

/-- Values of the same type. -/
def SameType : Payload → Payload → Prop
  | .ints _, .ints _ => True
  | .reals _, .reals _ => True
  | _, _ => False

/-- A count never exceeds the number that it stands for. -/
theorem toNatClampNeg_ofNat_le (n : Nat) : (Int32.ofNat n).toNatClampNeg ≤ n := by
  unfold Int32.toNatClampNeg
  rw [Int32.toInt_ofNat', Int.bmod_def]
  have part : (n : Int) % (Int32.size : Int) ≤ n := by exact_mod_cast Nat.mod_le n Int32.size
  split <;> omega

namespace Receiving

/-- The header has the key that the call waits for, and the buffer has room for its values; those
of a field fill it. -/
structure Accepts (e : Receiving) (h : Header) : Prop where
  key : e.expected.keyMatches h = true
  fine : Status.failed h.count = false
  room : h.count.toNatClampNeg ≤ e.buffer.length
  whole : e.kind = .field → h.count = Int32.ofNat e.buffer.length

/-- The staging slots that a field passes through. -/
def staged (staging : List Slot) (buffer : List Float) : List Slot :=
  resize staging (total [Int32.ofNat buffer.length])

/-- What a payload leaves in the buffer of a call.  A field comes by way of the staging slots, and
so does what the payload does not reach. -/
def filled (staging : List Slot) : Receiving → Payload → Payload
  | ints _ _ buffer, payload => .ints (((ReceiveBuffer.ints buffer).receive payload).toInts buffer)
  | reals _ _ buffer, payload =>
    .reals ((((ReceiveBuffer.ofReals buffer).receive payload).toSlots []).map Slot.value)
  | field _ buffer, payload =>
    let slots := staged staging buffer
    .reals (overwrite buffer
      (((((ReceiveBuffer.reals slots).receive payload).toSlots slots).map Slot.value).take
        buffer.length))

/-- A call ends with a fault of its group, or with a receipt. -/
def Brought (e : Receiving) (staging : List Slot) (mail : Mail)
    (x : Except Fault (Status × Payload) × MessageChannel) : Prop :=
  ∀ got, x.1 = .ok got →
    Receipt e.Accepts e.buffer.elementSize e.buffer (e.filled staging) mail got.1 got.2

variable {mail : Mail}

theorem accepts_of_expected {e : Receiving} (scalars : e.kind ≠ .field) {h : Header}
    (accepted : e.expected.accepts h = true) : e.Accepts h := by
  obtain ⟨key, fits⟩ := (Bool.and_eq_true _ _).mp accepted
  unfold Expected.countFits expected at fits
  simp only [Bool.false_eq_true, if_false, Bool.and_eq_true, decide_eq_true_eq] at fits
  exact ⟨key, MessageChannel.Expected.failed_count accepted,
    (Int32.toNatClampNeg_le fits.1).trans (toNatClampNeg_ofNat_le _), fun field => absurd field scalars⟩

theorem brings_ints (peer iteration : Int32) (name : String) (buffer : List Int32)
    (c : MessageChannel) :
    Brings ((ints iteration name buffer).Brought c.staging) .empty
      ((ints iteration name buffer).perform peer c) := by
  rw [← Program.bind_done (perform ..), perform_ints]
  refine brings_bind (brings_receiveMessage _ _ _) fun mail got fetched => ?_
  refine brings_done fun _ same => ?_
  cases same
  exact Receipt.map (fun room => Payload.ints (room.toInts buffer))
    (fun _ => accepts_of_expected Kind.noConfusion) fetched

theorem brings_reals (peer iteration : Int32) (name : String) (buffer : List Float)
    (c : MessageChannel) :
    Brings ((reals iteration name buffer).Brought c.staging) .empty
      ((reals iteration name buffer).perform peer c) := by
  rw [← Program.bind_done (perform ..), perform_reals]
  refine brings_bind (brings_receiveMessage _ _ _) fun mail got fetched => ?_
  refine brings_done fun _ same => ?_
  cases same
  have seen := Receipt.map (fun room => Payload.reals ((room.toSlots []).map Slot.value))
    (fun _ => accepts_of_expected Kind.noConfusion) fetched
  have kept : ((ReceiveBuffer.ofReals buffer).toSlots []).map Slot.value = buffer :=
    map_value_whole buffer
  rwa [kept] at seen

section Field

variable {name : String} {buffer : List Float} {staging : List Slot}

theorem length_staged :
    (staged staging buffer).length = (Int32.ofNat buffer.length).toNatClampNeg :=
  MessageChannel.length_resize _ _

/-- What the channel waits for in a call for a field. -/
def stagedExpected (name : String) (slots : List Slot) : Expected :=
  ⟨0, name, .field, Int32.ofNat slots.length, true⟩

/-- A field that is accepted fills the staging slots.  A buffer whose length has no count goes
without. -/
theorem count_of_staged {h : Header}
    (accepted : (stagedExpected name (staged staging buffer)).accepts h = true) :
    h.count = Int32.ofNat buffer.length ∨
      Status.failed (Int32.ofNat buffer.length) = true ∧ h.count = 0 ∧ staged staging buffer = [] := by
  obtain ⟨-, fits⟩ := (Bool.and_eq_true _ _).mp accepted
  unfold Expected.countFits stagedExpected at fits
  simp only [if_true, Bool.and_eq_true, decide_eq_true_eq] at fits
  have count := fits.1
  rw [length_staged] at count
  by_cases negative : Int32.ofNat buffer.length < 0
  · have none : (Int32.ofNat buffer.length).toNatClampNeg = 0 := by
      have below : (Int32.ofNat buffer.length).toInt < 0 := Int32.lt_iff_toInt_lt.1 negative
      exact Int.toNat_of_nonpos (Int.le_of_lt below)
    rw [none] at count
    exact .inr ⟨decide_eq_true negative, count, List.eq_nil_of_length_eq_zero (length_staged.trans none)⟩
  · exact .inl (count.trans (Int32.ofNat_toNatClampNeg _ (Int32.not_lt.1 negative)))

theorem accepts_of_staged {h : Header}
    (accepted : (stagedExpected name (staged staging buffer)).accepts h = true)
    (count : h.count = Int32.ofNat buffer.length) : (field name buffer).Accepts h where
  key := ((Bool.and_eq_true _ _).mp accepted).1
  fine := MessageChannel.Expected.failed_count accepted
  room := count ▸ toNatClampNeg_ofNat_le _
  whole _ := count

/-- What the root has fetched into its staging slots and handed out to itself. -/
theorem receipt_handed {got : Status × ReceiveBuffer}
    (fetched : Fetched (stagedExpected name (staged staging buffer))
      (.reals (staged staging buffer)) mail got)
    (fine : Status.failed got.1 = false) :
    Receipt (field name buffer).Accepts 8 (.reals buffer) ((field name buffer).filled staging) mail
      (Int32.ofNat buffer.length) (.reals (overwrite buffer
        (((got.2.toSlots (staged staging buffer)).map Slot.value).take buffer.length))) := by
  obtain ⟨status, received⟩ := got
  cases fetched with
  | failed failed => exact absurd failed (by rw [fine]; exact Bool.false_ne_true)
  | @empty header accepted none =>
    have kept (bare : staged staging buffer = []) :
        overwrite buffer (((staged staging buffer).map Slot.value).take buffer.length) = buffer := by
      rw [bare]
      simp [overwrite]
    show Receipt _ _ _ _ _ _ (Payload.reals
      (overwrite buffer (((staged staging buffer).map Slot.value).take buffer.length)))
    rcases count_of_staged accepted with count | ⟨negative, -, bare⟩
    · have bare : staged staging buffer = [] := by
        refine List.eq_nil_of_length_eq_zero ?_
        rw [length_staged, ← count, none]
        rfl
      rw [kept bare, ← count]
      exact .empty (accepts_of_staged accepted count) none
    · rw [kept bare]
      exact .failed negative
  | @filled header payload accepted some room =>
    rcases count_of_staged accepted with count | ⟨-, none, -⟩
    · rw [← count]
      exact .filled (accepts_of_staged accepted count) some room
    · rw [none] at some
      exact absurd some (by decide)

theorem brings_field (peer : Int32) (name : String) (buffer : List Float) {c : MessageChannel}
    (root : c.isLocalRoot = true) :
    Brings ((field name buffer).Brought c.staging) .empty
      ((field name buffer).perform peer c) := by
  have alone := (MessageChannel.isLocalRoot_resized [Int32.ofNat buffer.length]).trans root
  have slots : (c.resized [Int32.ofNat buffer.length]).staging = staged c.staging buffer :=
    MessageChannel.staging_resized root _
  rw [← Program.bind_done (perform ..), perform, act_bind, MessageChannel.receiveField_apply]
  refine brings_aside (fun _ => rfl) fun reply lawful => ?_
  cases reply with
  | error code => exact brings_done fun _ wrong => nomatch wrong
  | ok counts =>
    obtain rfl := gathered_alone lawful
    dsimp only
    rw [Program.bind_assoc, MessageChannel.receiveStaged_root alone, Program.bind_assoc, slots]
    -- the message comes, and its status goes round
    refine brings_bind (brings_receiveMessage _ _ _) fun mail got fetched => ?_
    refine brings_aside (fun _ => rfl) fun reply lawful => ?_
    cases reply with
    | error code => exact brings_done fun _ wrong => nomatch wrong
    | ok shared =>
      obtain rfl := shared_alone lawful
      dsimp only [List.headD_cons]
      cases failed : Status.failed got.1 with
      | true =>
        rw [MessageChannel.handOut_failed failed]
        refine brings_done fun _ same => ?_
        cases same
        exact .failed failed
      | false =>
        rw [MessageChannel.handOut_fine failed]
        refine brings_aside (fun _ => rfl) fun reply lawful => ?_
        cases reply with
        | error code => exact brings_done fun _ wrong => nomatch wrong
        | ok part =>
          obtain rfl := scattered_alone lawful
          refine brings_done fun _ same => ?_
          cases same
          exact receipt_handed fetched failed

end Field

/-- However a call ends, unless its group faults, there is a receipt. -/
theorem brings_perform (peer : Int32) (e : Receiving) {c : MessageChannel}
    (root : e.kind = .field → c.isLocalRoot = true) :
    Brings (e.Brought c.staging) .empty (e.perform peer c) := by
  cases e with
  | ints iteration name buffer => exact brings_ints peer iteration name buffer c
  | reals iteration name buffer => exact brings_reals peer iteration name buffer c
  | field name buffer => exact brings_field peer name buffer (root rfl)

/-! ## Values and old contents -/

variable {staging : List Slot} {header : Header} {payload : Payload}

/-- Nothing is written beyond the count of the header. -/
theorem beyond_filled {e : Receiving} (accepted : e.Accepts header)
    (room : payload.size ≤ announcedBytes header e.buffer.elementSize) :
    beyond header.count.toNatClampNeg (e.filled staging payload) =
      beyond header.count.toNatClampNeg e.buffer := by
  cases e with
  | ints iteration name buffer =>
    have small : payload.size ≤ _ * (ReceiveBuffer.ints buffer).elementSize := room
    exact congrArg Payload.ints (ReceiveBuffer.drop_toInts buffer (ReceiveBuffer.beyond_receive small))
  | reals iteration name buffer =>
    have small : payload.size ≤ _ * (ReceiveBuffer.ofReals buffer).elementSize := room
    have kept := ReceiveBuffer.drop_toSlots [] (ReceiveBuffer.beyond_receive small)
    refine congrArg Payload.reals ?_
    rw [← List.map_drop, kept, List.map_drop, map_value_whole]
  | field name buffer =>
    have long : (staged staging buffer).length = header.count.toNatClampNeg := by
      rw [length_staged, accepted.whole rfl]
      rfl
    have small : payload.size ≤ _ * (ReceiveBuffer.reals (staged staging buffer)).elementSize := room
    have kept := ReceiveBuffer.drop_toSlots (staged staging buffer) (ReceiveBuffer.beyond_receive small)
    refine congrArg Payload.reals (drop_overwrite ?_)
    have short := List.drop_eq_nil_iff.1 (kept.trans (List.drop_eq_nil_of_le (Nat.le_of_eq long)))
    simp only [List.length_take, List.length_map]
    omega

/-- What the values of a payload do not reach of a field is what the staging slots held. -/
theorem filled_field {name : String} {buffer new : List Float}
    (short : new.length ≤ (staged staging buffer).length) :
    (field name buffer).filled staging (.reals new) =
      .reals (overwrite buffer (new ++ ((staged staging buffer).drop new.length).map Slot.value)) := by
  have fits : (new.map Slot.whole).length ≤ (staged staging buffer).length := by
    rw [List.length_map]
    exact short
  have values : (overwrite (staged staging buffer) (new.map .whole)).map Slot.value =
      new ++ ((staged staging buffer).drop new.length).map Slot.value := by
    rw [overwrite_of_le fits, List.map_append, map_value_whole, List.length_map]
  have most : (staged staging buffer).length ≤ buffer.length := by
    rw [length_staged]
    exact toNatClampNeg_ofNat_le _
  have size : (new ++ ((staged staging buffer).drop new.length).map Slot.value).length ≤
      buffer.length := by
    simp only [List.length_append, List.length_map, List.length_drop]
    omega
  show Payload.reals (overwrite buffer (((overwrite (staged staging buffer) (new.map .whole)).map
    Slot.value).take buffer.length)) = _
  rw [values, List.take_of_length_le size]

/-- The payload that the header announced replaces the first elements of the buffer. -/
theorem filled_of_announced {e : Receiving} (accepted : e.Accepts header)
    (sort : SameType e.buffer payload) (count : payload.length = header.count.toNatClampNeg) :
    e.filled staging payload = front e.buffer payload := by
  have fits : payload.length ≤ e.buffer.length := count.trans_le accepted.room
  cases e with
  | ints iteration name buffer =>
    cases payload with
    | ints new => exact congrArg Payload.ints (overwrite_of_le fits)
    | reals new => exact sort.elim
  | reals iteration name buffer =>
    cases payload with
    | ints new => exact sort.elim
    | reals new =>
      refine congrArg Payload.reals ?_
      show (overwrite (buffer.map Slot.whole) (new.map .whole)).map Slot.value = _
      rw [overwrite_map, map_value_whole]
      exact overwrite_of_le fits
  | field name buffer =>
    cases payload with
    | ints new => exact sort.elim
    | reals new =>
      have long : (staged staging buffer).length = new.length := by
        rw [length_staged]
        exact ((congrArg Int32.toNatClampNeg (accepted.whole rfl)).symm.trans count.symm)
      rw [filled_field (Nat.le_of_eq long.symm), ← long, List.drop_length, List.map_nil,
        List.append_nil]
      exact congrArg Payload.reals (overwrite_of_le fits)

end Receiving

/-! ## Whether the values were obtained -/

/-- So many values were obtained: they are the payload that came, in front of what is left of the
old contents. -/
def Obtained (count : Nat) (came : List Payload) (before after : Payload) : Prop :=
  count = 0 ∧ after = before ∨
    ∃ payload, came = [payload] ∧ SameType before payload ∧ payload.length = count ∧
      after = front before payload

/-- The payload that came is the one that a header with this count announced. -/
def AsAnnounced (count : Nat) (came : List Payload) (before : Payload) : Prop :=
  count = 0 ∨ ∃ payload, came = [payload] ∧ SameType before payload ∧ payload.length = count

/-- What the status of a call says about its buffer, whatever has come. -/
structure Honest (e : Receiving) (staging : List Slot) (mail : Mail) (status : Status)
    (after : Payload) : Prop where
  failed : Status.failed status = true → after = e.buffer
  header : Status.failed status = false →
    ∃ header, mail.headers = [header] ∧ e.Accepts header ∧ header.count = status
  payload : Status.failed status = false → 0 < status → ∃ payload, mail.payloads = [payload] ∧
    payload.size ≤ status.toNatClampNeg * e.buffer.elementSize ∧ after = e.filled staging payload
  rest : Status.failed status = false →
    beyond status.toNatClampNeg after = beyond status.toNatClampNeg e.buffer
  obtained : Status.failed status = false →
    (Obtained status.toNatClampNeg mail.payloads e.buffer after ↔
      AsAnnounced status.toNatClampNeg mail.payloads e.buffer)

theorem Receipt.honest {e : Receiving} {staging : List Slot} {mail : Mail} {status : Status}
    {after : Payload}
    (h : Receipt e.Accepts e.buffer.elementSize e.buffer (e.filled staging) mail status after) :
    Honest e staging mail status after := by
  have clash {status : Status} {P : Prop} (failed : Status.failed status = true)
      (fine : Status.failed status = false) : P := Bool.noConfusion (fine.symm.trans failed)
  cases h with
  | failed failed => exact ⟨fun _ => rfl, clash failed, clash failed, clash failed, clash failed⟩
  | @empty header accepted none =>
    have zero : header.count.toNatClampNeg = 0 := by
      rw [none]
      rfl
    refine ⟨(clash · accepted.fine), fun _ => ⟨header, rfl, accepted, rfl⟩, fun _ some => ?_,
      fun _ => rfl, fun _ => ⟨fun _ => .inl zero, fun _ => .inl ⟨zero, rfl⟩⟩⟩
    rw [none] at some
    exact absurd some (by decide)
  | @filled header payload accepted some room =>
    have positive : header.count.toNatClampNeg ≠ 0 := by
      intro zero
      have count := Int32.ofNat_toNatClampNeg _ (Int32.le_of_lt some)
      rw [zero] at count
      rw [← count] at some
      exact absurd some (by decide)
    refine ⟨(clash · accepted.fine), fun _ => ⟨header, rfl, accepted, rfl⟩,
      fun _ _ => ⟨payload, rfl, room, rfl⟩, fun _ => Receiving.beyond_filled accepted room,
      fun _ => ⟨?_, ?_⟩⟩
    · rintro (⟨zero, -⟩ | ⟨came, same, sort, count, -⟩)
      · exact absurd zero positive
      · exact .inr ⟨came, same, sort, count⟩
    · rintro (zero | ⟨came, same, sort, count⟩)
      · exact absurd zero positive
      · obtain rfl := List.head_eq_of_cons_eq same
        exact .inr ⟨payload, rfl, sort, count, Receiving.filled_of_announced accepted sort count⟩

/-- Whatever comes, a call that fails keeps its buffer.  One that succeeds has taken a header that
it accepts, reports its count and writes no further; it has obtained as many values exactly if the
payload is as announced. -/
theorem receives_honestly {peer : Int32} {e : Receiving} {c d : MessageChannel} {log : Log Parallel}
    {status : Status} {after : Payload} (root : e.kind = .field → c.isLocalRoot = true)
    (lawful : ∀ made ∈ log, Lawful made)
    (run : (e.perform peer).Runs c log (.ok (status, after)) d) :
    Honest e c.staging (arrived log) status after := by
  have brought := Receiving.brings_perform peer e root
  have receipt := brought log (.ok (status, after), d) run lawful (status, after) rfl
  exact Receipt.honest receipt

/-- Once a header is accepted, every payload that comes makes the receive succeed. -/
theorem runs_receiveMessage {peer : Int32} {e : Expected} {room : ReceiveBuffer} {header : Header}
    (going : header.kind ≠ Kind.ending.code) (accepted : e.accepts header = true)
    (some : 0 < header.count) (payload : Payload) :
    (receiveMessage peer e room).Runs
      [⟨.receiveHeader peer, .ok header⟩,
        ⟨.receivePayload peer (announcedBytes header room.elementSize), .ok payload⟩]
      (header.count, room.receive payload) := by
  have onward : MessageChannel.afterHeader peer e room (.ok header) =
      .ask (.receivePayload peer (announcedBytes header room.elementSize))
        (MessageChannel.afterPayload e header.count room) :=
    (if_neg going).trans ((if_pos accepted).trans (if_pos some))
  rw [MessageChannel.receiveMessage_eq]
  refine Program.runs_ask.2 ⟨.ok header, _, rfl, ?_⟩
  rw [onward]
  exact Program.runs_ask.2 ⟨.ok payload, _, rfl, .done _⟩

namespace ShortPayload

/-- The header announces two integers, and one comes. -/
def log : Log Parallel :=
  [⟨.receiveHeader 1, .ok ⟨5, 2, Kind.ints.code, "NBPDTM"⟩⟩,
    ⟨.receivePayload 1 8, .ok (.ints [7])⟩]

def call : Receiving := .ints 5 "NBPDTM" [-1, -1, -1]

def place : MessageChannel where
  place := ⟨0, 1⟩

theorem runs_call : (call.perform 1).Runs place log (.ok (2, .ints [7, -1, -1])) place := by
  have fetches : (receiveMessage 1 call.expected (.ints [-1, -1, -1])).Runs log
      (2, .ints [7, -1, -1]) :=
    runs_receiveMessage (by decide) (by decide) (by decide) (.ints [7])
  show (call.perform 1 place).Runs _ _
  unfold call
  rw [← Program.bind_done (Receiving.perform ..), Receiving.perform_ints]
  exact Program.runs_bind.2 ⟨log, _, [], rfl, fetches, .done _⟩

theorem lawful_log : ∀ made ∈ log, Lawful made := by
  unfold log
  simp only [List.forall_mem_cons]
  have room : (Payload.ints [7]).size ≤ 8 := by decide
  exact ⟨trivial, room, fun _ none => nomatch none⟩

theorem receives_honestly_short :
    (call.kind = .field → place.isLocalRoot = true) ∧ (∀ made ∈ log, Lawful made) ∧
    (call.perform 1).Runs place log (.ok (2, .ints [7, -1, -1])) place ∧
    Honest call place.staging (arrived log) 2 (.ints [7, -1, -1]) :=
  ⟨fun _ => rfl, lawful_log, runs_call, receives_honestly (fun _ => rfl) lawful_log runs_call⟩

/-- The status says two, and one value was obtained. -/
theorem counts_more_than_came :
    (∀ made ∈ log, Lawful made) ∧
    (call.perform 1).Runs place log (.ok (2, .ints [7, -1, -1])) place ∧
    (arrived log).payloads = [.ints [7]] ∧
    ¬ Obtained 2 (arrived log).payloads call.buffer (.ints [7, -1, -1]) := by
  refine ⟨lawful_log, runs_call, rfl, ?_⟩
  rintro (⟨two, -⟩ | ⟨payload, came, -, two, -⟩)
  · exact absurd two (by decide)
  · obtain rfl : Payload.ints [7] = payload := List.head_eq_of_cons_eq came
    exact absurd two (by decide)

end ShortPayload

end FluidStructure.Network
