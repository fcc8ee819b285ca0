import FluidStructure.Proofs.Network.Fields

/-!
# Messages that wait

A message is sent without regard to its receiver, and a receive takes the oldest message that
waits, whatever it is.  Only its header and its own payload leave the mailbox, also when the
receive fails; the failure is of no account for the messages behind it.
-/

namespace FluidStructure.Network

open FluidStructure.Parallel FluidStructure.Channel
open MessageChannel (Expected)

variable {n : Nat} {α β : Type} {r : Roots} {Q : (Fin (n + 1) → α) → β → Traffic n → Prop}

/-! ## Without regard to the logs -/

/-- A relation that the logs do not matter to. -/
def Blind (Q : (Fin (n + 1) → α) → β → Traffic n → Prop) : Prop :=
  ∀ x y (t u : Traffic n), t.toFluid = u.toFluid → t.toSolid = u.toSolid → Q x y t → Q x y u

/-- The same programs and messages, perhaps with other logs. -/
structure Alike (s t : State n α β) : Prop where
  fluid : s.fluid = t.fluid
  solid : s.solid = t.solid
  toFluid : s.traffic.toFluid = t.traffic.toFluid
  toSolid : s.traffic.toSolid = t.traffic.toSolid

/-- A step can be taken with other logs. -/
theorem Alike.step {s t a : State n α β} {who : Who n} (h : Alike s t) (taken : Step r s who a) :
    ∃ b, Step r t who b ∧ Alike a b := by
  cases taken with
  | rank i asks handled root mail =>
    have asks' := (congrFun h.fluid i).symm.trans asks
    have mail' := h.toFluid.symm.trans mail
    refine ⟨_, .rank i asks' handled root mail', ?_, h.solid, rfl, ?_⟩
    · exact congrArg (put · i _) h.fluid
    · exact congrArg (· ++ _) h.toSolid
  | group asks answered =>
    have asks' i := (congrFun h.fluid i).symm.trans (asks i)
    exact ⟨_, .group asks' answered, rfl, h.solid, h.toFluid, h.toSolid⟩
  | solid asks served mail =>
    have asks' := h.solid.symm.trans asks
    have mail' := h.toSolid.symm.trans mail
    refine ⟨_, .solid asks' served mail', h.fluid, rfl, ?_, rfl⟩
    exact congrArg (· ++ _) h.toFluid

theorem Alike.symm {s t : State n α β} (h : Alike s t) : Alike t s :=
  ⟨h.fluid.symm, h.solid.symm, h.toFluid.symm, h.toSolid.symm⟩

theorem Settles.alike (blind : Blind Q) {s t : State n α β} (h : Settles r Q s) (same : Alike s t) :
    Settles r Q t := by
  induction h generalizing t with
  | done fluid solid h =>
    have ends := blind _ _ _ _ same.toFluid same.toSolid h
    exact .done (fun i => (congrFun same.fluid i).symm.trans (fluid i)) (same.solid.symm.trans solid)
      ends
  | turn who able on ih =>
    obtain ⟨a, taken⟩ := able
    obtain ⟨b, taken', -⟩ := same.step taken
    refine .turn who ⟨b, taken'⟩ fun b taken => ?_
    obtain ⟨a, taken', alike⟩ := same.symm.step taken
    exact ih a taken' alike.symm

namespace Meets

variable {p : Fin (n + 1) → Program Parallel α} {q : Program Parallel β} {toFluid toSolid : Mail}

/-- What settles after a clean log settles after any. -/
theorem settles (blind : Blind Q) (h : Meets r Q p q toFluid toSolid) (w : Traffic n)
    (here : w.toFluid = toFluid) (there : w.toSolid = toSolid) : Settles r Q ⟨p, q, w⟩ := by
  let clean : Traffic n := { toFluid, toSolid }
  have settled : Settles r Q ⟨p, q, clean⟩ := h clean ⟨fun _ => rfl, rfl⟩ rfl rfl
  exact settled.alike blind ⟨rfl, rfl, here.symm, there.symm⟩

/-- The root takes a step of which the log may show a failure. -/
theorem root_any (blind : Blind Q) {request : Request} {next : request.Reply → Program Parallel α}
    {reply : request.Reply} {rest gives : Mail} (asks : p 0 = .ask request next)
    (sure : Sure r.solid request toFluid reply rest gives)
    (on : Meets r Q (put p 0 (next reply)) q rest (toSolid ++ gives)) :
    Meets r Q p q toFluid toSolid := by
  intro w _ here there
  subst here there
  apply Settles.rank 0 asks sure (.inl rfl)
  exact on.settles blind _ rfl rfl

/-- The root takes a payload off the channel and does not look at it. -/
theorem root_discards (blind : Blind Q) {limit : Nat} {payload : Payload} {rest : Mail}
    {next : Except Code Payload → Program Parallel α} {after : Program Parallel α}
    (asks : p 0 = .ask (.receivePayload r.solid limit) next) (same : ∀ reply, next reply = after)
    (on : Meets r Q (put p 0 after) q rest toSolid) :
    Meets r Q p q (⟨[], [payload]⟩ ++ rest) toSolid := by
  intro w _ here there
  have able : ∃ reply, Handled r.solid (.receivePayload r.solid limit) reply ⟨[], [payload]⟩ .empty := by
    by_cases fits : payload.size ≤ limit
    · exact ⟨.ok payload, rfl, rfl, payload, rfl, .inl ⟨fits, rfl⟩⟩
    · exact ⟨.error 0, rfl, rfl, payload, rfl, .inr ⟨Nat.lt_of_not_le fits, 0, rfl⟩⟩
  obtain ⟨reply, handled⟩ := able
  refine .turn (.rank 0) ⟨_, .rank 0 asks handled (.inl rfl) here⟩ fun a taken => ?_
  cases taken with
  | rank _ asks' handled' _ mail =>
    obtain ⟨rfl, onward⟩ := Program.ask.inj (asks.symm.trans asks')
    obtain rfl := eq_of_heq onward
    obtain ⟨-, rfl, payload', rfl, -⟩ := handled'
    obtain ⟨-, kept⟩ := Mail.append_inj (here.symm.trans mail) ⟨rfl, rfl⟩
    unfold State.afterRank
    rw [same]
    exact on.settles blind _ kept.symm ((Mail.append_empty _).trans there)

end Meets

/-! ## Names -/

theorem utf8ByteSize_cons (c : Char) (cs : List Char) :
    (String.ofList (c :: cs)).utf8ByteSize = c.utf8Size + (String.ofList cs).utf8ByteSize := by
  rw [String.ofList_cons]
  simp

/-- Characters that have room, none of them zero, are all kept. -/
theorem clipChars_of_plain {width : Nat} {cs : List Char} (plain : '\x00' ∉ cs)
    (room : (String.ofList cs).utf8ByteSize ≤ width) : Text.clipChars width cs = (cs, []) := by
  induction cs generalizing width with
  | nil => rfl
  | cons c cs ih =>
    rw [utf8ByteSize_cons] at room
    have visible : c ≠ '\x00' := fun wrong => plain (by simp [wrong])
    have later : '\x00' ∉ cs := fun wrong => plain (List.mem_cons_of_mem _ wrong)
    have enough : c.utf8Size ≤ width := by omega
    have rest : (String.ofList cs).utf8ByteSize ≤ width - c.utf8Size := by omega
    unfold Text.clipChars
    rw [if_neg visible, if_pos enough, ih later rest]

/-- A short name without zeros arrives as it is. -/
theorem legible_of_plain {name : String} (short : name.utf8ByteSize ≤ maxNameBytes)
    (plain : '\x00' ∉ name.toList) : Legible name := by
  have room : (String.ofList name.toList).utf8ByteSize ≤ maxNameBytes := by
    rw [String.ofList_toList]
    exact short
  refine ⟨short, ?_⟩
  unfold Text.Label.clip
  rw [clipChars_of_plain plain room]
  dsimp only
  rw [String.ofList_toList]

/-! ## Sending -/

namespace Message

/-- Header and payload, which is missing if there are no values. -/
def post (m : Message) : Mail := ⟨[m.header], if m.payload.length = 0 then [] else [m.payload]⟩

/-- The payload is of the kind that the header tells. -/
def Sorted (m : Message) : Prop :=
  match m.kind, m.payload with
  | .ints, .ints _ => True
  | .reals, .reals _ => True
  | .field, .reals _ => True
  | .ending, .ints values => values = []
  | _, _ => False

/-- A message whose name arrives as it is, with no more values than a header can announce. -/
structure Sendable (m : Message) : Prop where
  legible : Legible m.name
  most : m.payload.length < 2 ^ 31
  sorted : m.Sorted

variable {m : Message}

theorem Sendable.count_pos (h : m.Sendable) : 0 < m.count ↔ 0 < m.payload.length :=
  Int32.ofNat_lt_iff_lt (by decide) h.most

theorem Sendable.failed_count (h : m.Sendable) : Status.failed m.count = false := by
  have positive : 0 ≤ m.count := Int32.zero_le_ofNat_of_lt h.most
  exact decide_eq_false (Int32.not_lt.2 positive)

theorem Sendable.announced (h : m.Sendable) (elementSize : Nat) :
    MessageChannel.announcedBytes m.header elementSize = m.payload.length * elementSize := by
  unfold MessageChannel.announcedBytes header count
  dsimp only
  rw [Int32.toNatClampNeg_ofNat_of_lt h.most]

theorem post_of_pos (some : 0 < m.payload.length) : m.post = ⟨[m.header], []⟩ ++ ⟨[], [m.payload]⟩ := by
  have filled : m.payload.length ≠ 0 := by omega
  unfold post
  rw [if_neg filled]
  rfl

theorem post_of_empty (none : m.payload.length = 0) : m.post = ⟨[m.header], []⟩ := by
  unfold post
  rw [if_pos none]

/-- The name has room in a header. -/
def Short (m : Message) : Prop := m.name.utf8ByteSize ≤ maxNameBytes

instance (m : Message) : Decidable m.Short := inferInstanceAs (Decidable (_ ≤ _))

/-- What a send returns: the count, or an error if the name is too long. -/
def sentStatus (m : Message) : Status := if m.Short then m.count else Status.protocolError

/-- What a send puts on the channel. -/
def sent (m : Message) : Mail := if m.Short then m.post else .empty

/-- What follows on the header. -/
def afterSending (m : Message) (peer : Int32) : Except Code Unit → Program Parallel Status
  | .error code => .ask (.note (.headerSendFailed m.name code)) fun _ => .done Status.disconnected
  | .ok () =>
    if 0 < m.count then .ask (.sendPayload peer m.payload) fun
      | .error code =>
        .ask (.note (.payloadSendFailed m.name code)) fun _ => .done Status.disconnected
      | .ok () => .done m.count
    else .done m.count

theorem send_eq_ask (legible : Legible m.name) (peer : Int32) :
    m.send peer = .ask (.sendHeader peer m.header) (m.afterSending peer) := by
  have short : ¬ maxNameBytes < m.name.utf8ByteSize := Nat.not_lt.2 legible.1
  unfold send MessageChannel.sendMessage
  rw [if_neg short]
  refine congrArg (Program.ask _) ?_
  funext reply
  cases reply with
  | error code => rfl
  | ok _ =>
    unfold afterSending count
    dsimp only [Program.done_bind]
    by_cases some : 0 < Int32.ofNat m.payload.length
    · rw [if_pos some, if_pos some]
      refine congrArg (Program.ask _) ?_
      funext reply
      cases reply <;> rfl
    · rw [if_neg some, if_neg some]
      rfl

/-- A name that is too long is reported, and nothing is sent. -/
theorem send_eq_note (long : maxNameBytes < m.name.utf8ByteSize) (peer : Int32) :
    m.send peer = .ask (.note (.nameTooLong m.name maxNameBytes)) fun _ =>
      .done Status.protocolError := by
  unfold send MessageChannel.sendMessage
  rw [if_pos long]
  rfl

end Message

namespace Meets

variable {p : Fin (n + 1) → Program Parallel α} {q : Program Parallel β} {toFluid toSolid : Mail}
  {m : Message}

/-- The structural solver sends a message, or finds its name too long. -/
theorem solid_sends (fit : m.Short → m.Sendable) {g : Status → Program Parallel β}
    (sends : q = (m.send r.fluid).bind g)
    (on : Meets r Q p (g m.sentStatus) (toFluid ++ m.sent) toSolid) :
    Meets r Q p q toFluid toSolid := by
  unfold Message.sentStatus Message.sent at on
  by_cases short : m.Short
  · have fit := fit short
    rw [if_pos short, if_pos short] at on
    rw [Message.send_eq_ask fit.legible, Program.ask_bind] at sends
    apply solid sends (sure_sendHeader _) rfl
    by_cases some : 0 < m.payload.length
    · have goes : (m.afterSending r.fluid (.ok ())).bind g = _ :=
        congrArg (Program.bind · g) (if_pos (fit.count_pos.2 some))
      apply solid goes (sure_sendPayload _) rfl
      rw [Message.post_of_pos some, ← Mail.append_assoc] at on
      exact on
    · have none : m.payload.length = 0 := by omega
      have ends : m.afterSending r.fluid (.ok ()) = .done m.count :=
        if_neg fun wrong => some (fit.count_pos.1 wrong)
      rw [Message.post_of_empty none] at on
      rw [ends]
      exact on
  · rw [if_neg short, if_neg short] at on
    rw [Message.send_eq_note (Nat.lt_of_not_le short), Program.ask_bind] at sends
    apply solid sends (sure_note _) rfl
    exact on

/-- The root of the fluid solver sends a message. -/
theorem root_sends (fit : m.Sendable) {f : Status → Program Parallel α}
    (sends : p 0 = (m.send r.solid).bind f)
    (on : Meets r Q (put p 0 (f m.count)) q toFluid (toSolid ++ m.post)) :
    Meets r Q p q toFluid toSolid := by
  rw [Message.send_eq_ask fit.legible, Program.ask_bind] at sends
  apply rank 0 sends (sure_sendHeader _) (.inl rfl) rfl
  by_cases some : 0 < m.payload.length
  · have goes : (m.afterSending r.solid (.ok ())).bind f = _ :=
      congrArg (Program.bind · f) (if_pos (fit.count_pos.2 some))
    apply rank 0 (put_same.trans goes) (sure_sendPayload _) (.inl rfl) rfl
    rw [Message.post_of_pos some, ← Mail.append_assoc] at on
    rw [put_put]
    exact on
  · have none : m.payload.length = 0 := by omega
    have ends : m.afterSending r.solid (.ok ()) = .done m.count :=
      if_neg fun wrong => some (fit.count_pos.1 wrong)
    rw [Message.post_of_empty none] at on
    rw [ends]
    exact on

end Meets

/-! ## Receiving -/

theorem code_injective {k l : Kind} (h : k.code = l.code) : k = l := by
  cases k <;> cases l <;> first | rfl | exact absurd h (by decide)

namespace Message

/-- What a receive makes of a message. -/
def received (m : Message) (e : Expected) (buffer : ReceiveBuffer) : Status × ReceiveBuffer :=
  if m.kind = .ending then (Status.terminated, buffer)
  else if e.accepts m.header then
    (m.count, if m.payload.length = 0 then buffer else buffer.receive m.payload)
  else (Status.protocolError, buffer)

variable {m : Message} {e : Expected} {buffer : ReceiveBuffer}

theorem Sendable.empty_of_ending (h : m.Sendable) (ending : m.kind = .ending) :
    m.payload.length = 0 := by
  have sorted := h.sorted
  unfold Sorted at sorted
  rw [ending] at sorted
  cases payload : m.payload with
  | ints values =>
    rw [payload] at sorted
    rw [show values = [] from sorted]
    rfl
  | reals values =>
    rw [payload] at sorted
    exact sorted.elim

/-- A header is accepted if name, iteration and kind agree and the count fits. -/
theorem Sendable.accepts_iff (h : m.Sendable) :
    e.accepts m.header = true ↔
      m.name = e.name ∧ m.iteration = e.iteration ∧ m.kind = e.kind ∧
        (if e.exact then m.count = e.count else m.count ≤ e.count) := by
  have name : m.header.receivedName = (e.name : Text.Label) ↔ m.name = e.name := by
    unfold Header.receivedName header
    rw [h.legible.2]
    exact ⟨fun same => congrArg Text.Label.text same, fun same => by rw [same]⟩
  have kind : m.header.kind = e.kind.code ↔ m.kind = e.kind :=
    ⟨code_injective, fun same => congrArg Kind.code same⟩
  have iteration : m.header.iteration = m.iteration := rfl
  have count : m.header.count = m.count := rfl
  have positive : 0 ≤ m.count := Int32.zero_le_ofNat_of_lt h.most
  unfold Expected.accepts Expected.keyMatches Expected.countFits
  rw [iteration, count]
  cases e.exact <;>
    simp only [Bool.and_eq_true, decide_eq_true_eq, name, kind, positive, and_true, and_assoc,
      if_true, Bool.false_eq_true, if_false]

end Message

namespace Meets

variable {p : Fin (n + 1) → Program Parallel α} {q : Program Parallel β} {toSolid rest : Mail}
  {m : Message}

/-- The root of the fluid solver receives the oldest message, whatever it is. -/
theorem root_receives (blind : Blind Q) (fit : m.Sendable) {e : Expected} {buffer : ReceiveBuffer}
    (sort : m.kind = e.kind → m.payload.elementSize = buffer.elementSize)
    {f : Status × ReceiveBuffer → Program Parallel α}
    (receives : p 0 = (MessageChannel.receiveMessage r.solid e buffer).bind f)
    (on : Meets r Q (put p 0 (f (m.received e buffer))) q rest toSolid) :
    Meets r Q p q (m.post ++ rest) toSolid := by
  rw [MessageChannel.receiveMessage_eq, Program.ask_bind] at receives
  have quiet : toSolid ++ Mail.empty = toSolid := Mail.append_empty _
  -- the header leaves the mailbox, then the payload, if there is one
  suffices payload : Meets r Q
      (put p 0 ((MessageChannel.afterHeader r.solid e buffer (.ok m.header)).bind f)) q
      (⟨[], if m.payload.length = 0 then [] else [m.payload]⟩ ++ rest) toSolid by
    have whole : m.post ++ rest =
        ⟨[m.header], []⟩ ++ (⟨[], if m.payload.length = 0 then [] else [m.payload]⟩ ++ rest) := rfl
    rw [whole]
    apply root_any blind receives (sure_receiveHeader m.header _)
    rw [quiet]
    exact payload
  unfold MessageChannel.afterHeader
  unfold Message.received at on
  dsimp only
  have same : m.header.kind = Kind.ending.code ↔ m.kind = .ending :=
    ⟨code_injective, fun same => congrArg Kind.code same⟩
  by_cases ending : m.kind = .ending
  · have none := fit.empty_of_ending ending
    rw [if_pos ending] at on
    rw [if_pos (same.2 ending), if_pos none]
    exact on
  rw [if_neg ending] at on
  rw [if_neg fun wrong => ending (same.1 wrong)]
  have count : m.header.count = m.count := rfl
  rw [count, fit.announced]
  by_cases some : 0 < m.payload.length
  · have filled : m.payload.length ≠ 0 := by omega
    rw [if_neg filled] at on ⊢
    rw [if_pos (fit.count_pos.2 some)]
    by_cases accepted : e.accepts m.header = true
    · have kind := (fit.accepts_iff.1 accepted).2.2.1
      have fits : m.payload.size ≤ m.payload.length * buffer.elementSize := by
        rw [← sort kind]
        exact Nat.le_refl _
      rw [if_pos accepted] at on ⊢
      apply rank 0 put_same (sure_receivePayload fits rest) (.inl rfl) rfl
      rw [put_put, quiet]
      exact on
    · rw [if_neg accepted] at on ⊢
      apply root_any blind put_same (sure_note _)
      rw [put_put, quiet, if_pos (fit.count_pos.2 some)]
      apply root_discards blind put_same fun _ => rfl
      rw [put_put]
      exact on
  · have none : m.payload.length = 0 := by omega
    have zero : ¬ 0 < m.count := fun wrong => some (fit.count_pos.1 wrong)
    rw [if_pos none] at on ⊢
    rw [if_neg zero]
    by_cases accepted : e.accepts m.header = true
    · rw [if_pos accepted] at on ⊢
      exact on
    · rw [if_neg accepted] at on ⊢
      apply root_any blind put_same (sure_note _)
      rw [put_put, quiet, if_neg zero]
      exact on

end Meets

end FluidStructure.Network
