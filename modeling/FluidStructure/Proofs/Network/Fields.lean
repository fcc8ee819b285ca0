import FluidStructure.Proofs.Network.Messages

/-!
# Collective operations and fields

What a collective request brings each rank, and the exchange of a whole field: gathered on
the root of one application, sent to the other, and handed out there.
-/

namespace FluidStructure.Network

open FluidStructure.Parallel FluidStructure.Channel
open MessageChannel (Expected total)

variable {n : Nat} {α β : Type} {r : Roots} {Q : (Fin (n + 1) → α) → β → Traffic n → Prop}

/-! ## Replies to collective requests -/

section Answered

variable {sums : List Float} {i : Fin (n + 1)}

theorem answered_gatherCount {own : Fin (n + 1) → Int32} {reply : Except Code (List Int32)} :
    Answered (fun j => .gatherCount .application (own j)) sums i
        (.gatherCount .application (own i)) reply ↔
      reply = .ok (if i = 0 then List.ofFn own else []) := by
  constructor
  · rintro ⟨counts, asked, rfl⟩
    obtain rfl : own = counts := funext fun j => (Request.gatherCount.inj (asked j)).2
    rfl
  · rintro rfl
    exact ⟨own, fun _ => rfl, rfl⟩

theorem answered_gatherReals {parts : Fin (n + 1) → List Float}
    {layouts : Fin (n + 1) → List Int32} {reply : Except Code (List Float)}
    (layout : layouts 0 = List.ofFn fun j => Int32.ofNat (parts j).length) :
    Answered (fun j => .gatherReals .application (parts j) (layouts j)) sums i
        (.gatherReals .application (parts i) (layouts i)) reply ↔
      reply = .ok (if i = 0 then (List.ofFn parts).flatten else []) := by
  constructor
  · rintro ⟨parts', layouts', asked, -, rfl⟩
    obtain rfl : parts = parts' := funext fun j => (Request.gatherReals.inj (asked j)).2.1
    rfl
  · rintro rfl
    exact ⟨parts, layouts, fun _ => rfl, layout, rfl⟩

theorem answered_broadcastInts {values : Fin (n + 1) → List Int32} {size : Nat}
    {reply : Except Code (List Int32)} (same : ∀ j, (values j).length = size) :
    Answered (fun j => .broadcastInts .application 0 (values j)) sums i
        (.broadcastInts .application 0 (values i)) reply ↔ reply = .ok (values 0) := by
  constructor
  · rintro ⟨-, given, asked, rfl⟩
    rw [(Request.broadcastInts.inj asked).2.2]
  · rintro rfl
    exact ⟨fun j => ⟨values j, rfl, (same j).trans (same i).symm⟩, values 0, rfl, rfl⟩

theorem answered_broadcastReals {values : Fin (n + 1) → List Float} {size : Nat}
    {reply : Except Code (List Float)} (same : ∀ j, (values j).length = size) :
    Answered (fun j => .broadcastReals .application 0 (values j)) sums i
        (.broadcastReals .application 0 (values i)) reply ↔ reply = .ok (values 0) := by
  constructor
  · rintro ⟨-, given, asked, rfl⟩
    rw [(Request.broadcastReals.inj asked).2.2]
  · rintro rfl
    exact ⟨fun j => ⟨values j, rfl, (same j).trans (same i).symm⟩, values 0, rfl, rfl⟩

theorem answered_reduceReals {values : Fin (n + 1) → List Float} {size : Nat}
    {reply : Except Code (List Float)} (same : ∀ j, (values j).length = size) :
    Answered (fun j => .reduceReals .application .sum (values j)) sums i
        (.reduceReals .application .sum (values i)) reply ↔
      sums.length = size ∧ reply = .ok sums := by
  constructor
  · rintro ⟨-, long, rfl⟩
    exact ⟨long.trans (same i), rfl⟩
  · rintro ⟨long, rfl⟩
    exact ⟨fun j => ⟨values j, rfl, (same j).trans (same i).symm⟩, long.trans (same i).symm, rfl⟩

theorem answered_scatterReals {fields buffers : Fin (n + 1) → List Float}
    {layouts : Fin (n + 1) → List Int32} {reply : Except Code (List Float)}
    (layout : layouts 0 = List.ofFn fun j => Int32.ofNat (buffers j).length)
    (enough : total (layouts 0) ≤ (fields 0).length) :
    Answered (fun j => .scatterReals .application (fields j) (layouts j) (buffers j)) sums i
        (.scatterReals .application (fields i) (layouts i) (buffers i)) reply ↔
      reply = .ok (overwrite (buffers i)
        (((fields 0).drop (offset (layouts 0) i)).take (buffers i).length)) := by
  constructor
  · rintro ⟨fields', layouts', buffers', asked, -, -, rfl⟩
    obtain rfl : fields = fields' := funext fun j => (Request.scatterReals.inj (asked j)).2.1
    obtain rfl : layouts = layouts' := funext fun j => (Request.scatterReals.inj (asked j)).2.2.1
    obtain rfl : buffers = buffers' := funext fun j => (Request.scatterReals.inj (asked j)).2.2.2
    rfl
  · rintro rfl
    exact ⟨fields, layouts, buffers, fun _ => rfl, layout, enough, rfl⟩

end Answered

/-! ## Collective steps -/

namespace Meets

variable {p : Fin (n + 1) → Program Parallel α} {q : Program Parallel β} {toFluid toSolid : Mail}

theorem gatherCount {own : Fin (n + 1) → Int32}
    {next : Fin (n + 1) → Except Code (List Int32) → Program Parallel α}
    (asks : ∀ i, p i = .ask (.gatherCount .application (own i)) (next i))
    (on : Meets r Q (fun i => next i (.ok (if i = 0 then List.ofFn own else []))) q toFluid toSolid) :
    Meets r Q p q toFluid toSolid := by
  refine group asks ⟨_, [], fun i => answered_gatherCount.2 rfl⟩ fun replies sums answered => ?_
  exact of_eq (fun i => congrArg (next i) (answered_gatherCount.1 (answered i))) on

theorem gatherReals {parts : Fin (n + 1) → List Float} {layouts : Fin (n + 1) → List Int32}
    {next : Fin (n + 1) → Except Code (List Float) → Program Parallel α}
    (asks : ∀ i, p i = .ask (.gatherReals .application (parts i) (layouts i)) (next i))
    (layout : layouts 0 = List.ofFn fun j => Int32.ofNat (parts j).length)
    (on : Meets r Q (fun i => next i (.ok (if i = 0 then (List.ofFn parts).flatten else []))) q
      toFluid toSolid) :
    Meets r Q p q toFluid toSolid := by
  refine group asks ⟨_, [], fun i => (answered_gatherReals layout).2 rfl⟩ fun replies _ answered => ?_
  exact of_eq (fun i => congrArg (next i) ((answered_gatherReals layout).1 (answered i))) on

theorem broadcastInts {values : Fin (n + 1) → List Int32} {size : Nat}
    {next : Fin (n + 1) → Except Code (List Int32) → Program Parallel α}
    (asks : ∀ i, p i = .ask (.broadcastInts .application 0 (values i)) (next i))
    (same : ∀ j, (values j).length = size)
    (on : Meets r Q (fun i => next i (.ok (values 0))) q toFluid toSolid) :
    Meets r Q p q toFluid toSolid := by
  refine group asks ⟨_, [], fun i => (answered_broadcastInts same).2 rfl⟩ fun replies _ answered => ?_
  exact of_eq (fun i => congrArg (next i) ((answered_broadcastInts same).1 (answered i))) on

theorem broadcastReals {values : Fin (n + 1) → List Float} {size : Nat}
    {next : Fin (n + 1) → Except Code (List Float) → Program Parallel α}
    (asks : ∀ i, p i = .ask (.broadcastReals .application 0 (values i)) (next i))
    (same : ∀ j, (values j).length = size)
    (on : Meets r Q (fun i => next i (.ok (values 0))) q toFluid toSolid) :
    Meets r Q p q toFluid toSolid := by
  refine group asks ⟨_, [], fun i => (answered_broadcastReals same).2 rfl⟩ fun replies _ answered => ?_
  exact of_eq (fun i => congrArg (next i) ((answered_broadcastReals same).1 (answered i))) on

/-- All ranks have the same sums, whatever these are. -/
theorem reduceReals {values : Fin (n + 1) → List Float} {size : Nat}
    {next : Fin (n + 1) → Except Code (List Float) → Program Parallel α}
    (asks : ∀ i, p i = .ask (.reduceReals .application .sum (values i)) (next i))
    (same : ∀ j, (values j).length = size)
    (on : ∀ sums, Meets r Q (fun i => next i (.ok sums)) q toFluid toSolid) :
    Meets r Q p q toFluid toSolid := by
  refine group asks ?_ fun replies sums answered => ?_
  · exact ⟨_, List.replicate size 0.0, fun i => (answered_reduceReals same).2
      ⟨List.length_replicate, rfl⟩⟩
  · exact of_eq (fun i => congrArg (next i) ((answered_reduceReals same).1 (answered i)).2) (on sums)

/-- Each rank gets its part of the field of the root. -/
theorem scatterReals {fields buffers : Fin (n + 1) → List Float}
    {layouts : Fin (n + 1) → List Int32}
    {next : Fin (n + 1) → Except Code (List Float) → Program Parallel α}
    (asks : ∀ i, p i =
      .ask (.scatterReals .application (fields i) (layouts i) (buffers i)) (next i))
    (layout : layouts 0 = List.ofFn fun j => Int32.ofNat (buffers j).length)
    (enough : total (layouts 0) ≤ (fields 0).length)
    (on : Meets r Q (fun i => next i (.ok (overwrite (buffers i)
      (((fields 0).drop (offset (layouts 0) i)).take (buffers i).length)))) q toFluid toSolid) :
    Meets r Q p q toFluid toSolid := by
  refine group asks ⟨_, [], fun i => (answered_scatterReals layout enough).2 rfl⟩
    fun replies _ answered => ?_
  exact of_eq
    (fun i => congrArg (next i) ((answered_scatterReals layout enough).1 (answered i))) on

/-! ## Collective operations of one process -/

theorem gatherCount_alone {own : Int32} {next : Except Code (List Int32) → Program Parallel β}
    (asks : q = .ask (.gatherCount .application own) next)
    (on : Meets r Q p (next (.ok [own])) toFluid toSolid) : Meets r Q p q toFluid toSolid := by
  have replied sums reply := @answered_gatherCount 0 sums 0 (fun _ => own) reply
  refine alone asks ⟨_, [], (replied [] _).2 rfl⟩ fun reply sums answered => ?_
  rw [(replied sums reply).1 answered]
  exact on

theorem gatherReals_alone {values : List Float}
    {next : Except Code (List Float) → Program Parallel β}
    (asks : q = .ask (.gatherReals .application values [Int32.ofNat values.length]) next)
    (on : Meets r Q p (next (.ok values)) toFluid toSolid) : Meets r Q p q toFluid toSolid := by
  have replied sums reply := @answered_gatherReals 0 sums 0 (fun _ => values)
    (fun _ => [Int32.ofNat values.length]) reply rfl
  refine alone asks ⟨_, [], (replied [] _).2 rfl⟩ fun reply sums answered => ?_
  rw [(replied sums reply).1 answered]
  have whole : (List.ofFn fun _ : Fin (0 + 1) => values).flatten = values := by simp
  rw [if_pos rfl, whole]
  exact on

theorem broadcastInts_alone {values : List Int32}
    {next : Except Code (List Int32) → Program Parallel β}
    (asks : q = .ask (.broadcastInts .application 0 values) next)
    (on : Meets r Q p (next (.ok values)) toFluid toSolid) : Meets r Q p q toFluid toSolid := by
  have replied sums reply :=
    @answered_broadcastInts 0 sums 0 (fun _ => values) values.length reply fun _ => rfl
  refine alone asks ⟨_, [], (replied [] _).2 rfl⟩ fun reply sums answered => ?_
  rw [(replied sums reply).1 answered]
  exact on

theorem scatterReals_alone {field buffer : List Float}
    {next : Except Code (List Float) → Program Parallel β}
    (asks : q = .ask (.scatterReals .application field [Int32.ofNat buffer.length] buffer) next)
    (enough : total [Int32.ofNat buffer.length] ≤ field.length)
    (on : ∀ part : List Float, part.length = buffer.length →
      Meets r Q p (next (.ok part)) toFluid toSolid) :
    Meets r Q p q toFluid toSolid := by
  have replied sums reply := @answered_scatterReals 0 sums 0 (fun _ => field) (fun _ => buffer)
    (fun _ => [Int32.ofNat buffer.length]) reply rfl enough
  refine alone asks ⟨_, [], (replied [] _).2 rfl⟩ fun reply sums answered => ?_
  rw [(replied sums reply).1 answered]
  exact on _ (length_overwrite _ _)

end Meets

end FluidStructure.Network

namespace FluidStructure.Channel.MessageChannel

open FluidStructure.Parallel

/-! ## Fields, step by step -/

variable {α : Type}

/-- The channel with room for a field that is laid out like this. -/
def resized (c : MessageChannel) (counts : List Int32) : MessageChannel :=
  if c.isLocalRoot then { c with staging := resize c.staging (total counts) } else c

theorem place_resized (c : MessageChannel) (counts : List Int32) :
    (c.resized counts).place = c.place := by
  unfold resized
  split <;> rfl

/-- Goes on with the status that the root of the group has. -/
def sharing (status : Status) (c : MessageChannel)
    (on : Status → Program Parallel (Except Fault α × MessageChannel)) :
    Program Parallel (Except Fault α × MessageChannel) :=
  .ask (.broadcastInts .application 0 [status]) fun
    | .error code => .done (.error (.messagePassing "MPI_Bcast" code), c)
    | .ok shared => on (shared.headD status)

/-- The status of the root's own exchange; the other ranks have nothing to do. -/
def onRoot (c : MessageChannel) (exchange : Program Parallel (Status × MessageChannel)) :
    Program Parallel (Status × MessageChannel) :=
  if c.isLocalRoot then exchange else .done (Status.ok, c)

/-- The root sends a gathered field. -/
def sendGathered (peer : Int32) (name : String) (gathered : List Float) (c : MessageChannel) :
    Program Parallel (Status × MessageChannel) :=
  c.onRoot <| (sendMessage peer 0 name .field (.reals gathered)).bind fun status =>
    .done (status, { c with staging := gathered.map .whole })

theorem shareStatus_bind_apply (status : Status) (f : Status → Act Parallel MessageChannel α)
    (c : MessageChannel) :
    (shareStatus status >>= f) c = sharing status c fun shared => f shared c := by
  refine congrArg (Program.ask _) ?_
  funext reply
  cases reply <;> rfl

theorem sendField_apply (peer : Int32) (name : String) (values : List Float) (c : MessageChannel) :
    sendField peer name values c =
      .ask (.gatherCount .application (Int32.ofNat values.length)) fun
        | .error code => .done (.error (.messagePassing "MPI_Gather" code), c)
        | .ok counts => .ask (.gatherReals .application values counts) fun
          | .error code =>
            .done (.error (.messagePassing "MPI_Gatherv" code), c.resized counts)
          | .ok gathered =>
            (sendGathered peer name gathered (c.resized counts)).bind fun (status, d) =>
              sharing status d fun shared =>
                .done (.ok (if Status.failed shared then shared else Int32.ofNat values.length), d) := by
  refine congrArg (Program.ask _) ?_
  funext reply
  cases reply with
  | error code => rfl
  | ok counts =>
    refine congrArg (Program.ask _) ?_
    funext reply
    cases reply with
    | error code => rfl
    | ok gathered =>
      unfold sendGathered onRoot
      dsimp only
      by_cases root : (c.resized counts).isLocalRoot = true
      · rw [if_pos root]
        refine Eq.trans (congrFun (if_pos root) (c.resized counts)) ?_
        rw [Program.bind_assoc]
        refine Eq.trans (Act.lift_bind_apply _ _ _) ?_
        refine congrArg (Program.bind _) ?_
        funext status
        exact shareStatus_bind_apply _ _ _
      · rw [if_neg root]
        refine Eq.trans (congrFun (if_neg root) (c.resized counts)) ?_
        exact shareStatus_bind_apply _ _ _

/-- The root receives a field into its staging slots. -/
def receiveStaged (peer : Int32) (name : String) (c : MessageChannel) :
    Program Parallel (Status × MessageChannel) :=
  c.onRoot <|
    (receiveMessage peer ⟨0, name, .field, Int32.ofNat c.staging.length, true⟩
      (.reals c.staging)).bind fun (status, received) =>
        .done (status, { c with staging := received.toSlots c.staging })

/-- What a rank makes of the part that it is handed. -/
def afterScatter (buffer : List Float) (d : MessageChannel) : Except Code (List Float) →
    Program Parallel (Except Fault (Status × List Float) × MessageChannel)
  | .error code => .done (.error (.messagePassing "MPI_Scatterv" code), d)
  | .ok values => .done (.ok (Int32.ofNat buffer.length, values), d)

/-- Hands out a received field, unless its exchange failed. -/
def handOut (counts : List Int32) (buffer : List Float) (d : MessageChannel) (shared : Status) :
    Program Parallel (Except Fault (Status × List Float) × MessageChannel) :=
  if Status.failed shared then .done (.ok (shared, buffer), d)
  else
    .ask (.scatterReals .application (d.staging.map Slot.value) counts buffer)
      (afterScatter buffer d)

theorem handOut_failed {counts : List Int32} {buffer : List Float} {d : MessageChannel}
    {shared : Status} (failed : Status.failed shared = true) :
    handOut counts buffer d shared = .done (.ok (shared, buffer), d) := if_pos failed

theorem handOut_fine {counts : List Int32} {buffer : List Float} {d : MessageChannel}
    {shared : Status} (fine : Status.failed shared = false) :
    handOut counts buffer d shared =
      .ask (.scatterReals .application (d.staging.map Slot.value) counts buffer)
        (afterScatter buffer d) := if_neg (by rw [fine]; exact Bool.false_ne_true)

theorem receiveField_apply (peer : Int32) (name : String) (buffer : List Float)
    (c : MessageChannel) :
    receiveField peer name buffer c =
      .ask (.gatherCount .application (Int32.ofNat buffer.length)) fun
        | .error code => .done (.error (.messagePassing "MPI_Gather" code), c)
        | .ok counts =>
          (receiveStaged peer name (c.resized counts)).bind fun (status, d) =>
            sharing status d (handOut counts buffer d) := by
  refine congrArg (Program.ask _) ?_
  funext reply
  cases reply with
  | error code => rfl
  | ok counts =>
    unfold receiveStaged onRoot
    dsimp only
    have handedOut (status : Status) (d : MessageChannel) :
        (shareStatus status >>= fun shared =>
          if Status.failed shared then pure (shared, buffer)
          else Act.gets MessageChannel.staging >>= fun staging =>
            Act.perform (I := Parallel)
              (.scatterReals .application (staging.map Slot.value) counts buffer) >>= fun reply =>
                checked "MPI_Scatterv" reply >>= fun values =>
                  pure (Int32.ofNat buffer.length, values)) d =
          sharing status d (handOut counts buffer d) := by
      rw [shareStatus_bind_apply]
      refine congrArg (sharing status d) ?_
      funext shared
      unfold handOut
      split
      · rfl
      · refine congrArg (Program.ask _) ?_
        funext reply
        cases reply <;> rfl
    by_cases root : (c.resized counts).isLocalRoot = true
    · rw [if_pos root]
      refine Eq.trans (congrFun (if_pos root) (c.resized counts)) ?_
      rw [Program.bind_assoc]
      refine Eq.trans (Act.lift_bind_apply _ _ _) ?_
      refine congrArg (Program.bind _) ?_
      funext ⟨status, received⟩
      exact handedOut _ _
    · rw [if_neg root]
      refine Eq.trans (congrFun (if_neg root) (c.resized counts)) ?_
      exact handedOut _ _

section Roots

variable {c : MessageChannel} {peer : Int32} {name : String}

theorem sendGathered_root (root : c.isLocalRoot = true) (gathered : List Float) :
    sendGathered peer name gathered c =
      (Network.Message.send ⟨0, name, .field, .reals gathered⟩ peer).bind fun status =>
        .done (status, { c with staging := gathered.map .whole }) :=
  if_pos root

theorem sendGathered_other (other : c.isLocalRoot = false) (gathered : List Float) :
    sendGathered peer name gathered c = .done (Status.ok, c) :=
  if_neg (by rw [other]; decide)

theorem receiveStaged_root (root : c.isLocalRoot = true) :
    receiveStaged peer name c =
      (receiveMessage peer ⟨0, name, .field, Int32.ofNat c.staging.length, true⟩
        (.reals c.staging)).bind fun (status, received) =>
          .done (status, { c with staging := received.toSlots c.staging }) :=
  if_pos root

theorem receiveStaged_other (other : c.isLocalRoot = false) :
    receiveStaged peer name c = .done (Status.ok, c) :=
  if_neg (by rw [other]; decide)

theorem isLocalRoot_resized (counts : List Int32) :
    (c.resized counts).isLocalRoot = c.isLocalRoot := by
  unfold isLocalRoot
  rw [place_resized]

theorem length_resize (staging : List Slot) (size : Nat) : (resize staging size).length = size := by
  unfold resize
  simp
  omega

theorem staging_resized (root : c.isLocalRoot = true) (counts : List Int32) :
    (c.resized counts).staging = resize c.staging (total counts) := by
  unfold resized
  rw [if_pos root]

/-- On the root there is room for all values. -/
theorem length_staging_resized (root : c.isLocalRoot = true) (counts : List Int32) :
    (c.resized counts).staging.length = total counts := by
  rw [staging_resized root, length_resize]

end Roots

end FluidStructure.Channel.MessageChannel

namespace FluidStructure.Network

open FluidStructure.Parallel FluidStructure.Channel
open MessageChannel (total sendField receiveField sharing sendGathered receiveStaged)

variable {n : Nat} {α β : Type} {r : Roots} {Q : (Fin (n + 1) → α) → β → Traffic n → Prop}

/-! ## Whole fields -/

/-- A field that can be sent. -/
theorem proper_field {name : String} {values : List Float} (legible : Legible name)
    (some : 0 < values.length) (most : values.length < 2 ^ 31) :
    (⟨0, name, .field, .reals values⟩ : Message).Proper :=
  ⟨legible, some, most, Kind.noConfusion⟩

/-- The layout of some parts has room for all of them. -/
theorem total_layout {parts : Fin (n + 1) → List Float}
    (most : (List.ofFn parts).flatten.length < 2 ^ 31) :
    total (List.ofFn fun i => Int32.ofNat (parts i).length) = (List.ofFn parts).flatten.length := by
  have all (xs : List (List Float)) (most : xs.flatten.length < 2 ^ 31) :
      total (xs.map fun x => Int32.ofNat x.length) = xs.flatten.length := by
    induction xs with
    | nil => rfl
    | cons x xs ih =>
      rw [List.flatten_cons, List.length_append] at most ⊢
      have first : (Int32.ofNat x.length).toNatClampNeg = x.length :=
        Int32.toNatClampNeg_ofNat_of_lt (by omega)
      have later := ih (by omega)
      unfold total at later ⊢
      rw [List.map_cons, List.map_cons, List.foldr_cons, first, later]
  rw [← all _ most, List.map_ofFn]
  rfl

namespace Meets

variable {p : Fin (n + 1) → Program Parallel α} {q : Program Parallel β} {name : String}
  {toFluid toSolid : Mail}

/-- The status of the root reaches all ranks. -/
theorem sharing_group {γ : Type} {status : Fin (n + 1) → Status} {c : Fin (n + 1) → MessageChannel}
    {k : Fin (n + 1) → Status → Program Parallel (Except Fault γ × MessageChannel)}
    {f : Fin (n + 1) → Except Fault γ × MessageChannel → Program Parallel α}
    (asks : ∀ i, p i = (sharing (status i) (c i) (k i)).bind (f i))
    (on : Meets r Q (fun i => (k i (status 0)).bind (f i)) q toFluid toSolid) :
    Meets r Q p q toFluid toSolid :=
  broadcastInts asks (fun _ => rfl) on

theorem sharing_alone {γ : Type} {status : Status} {d : MessageChannel}
    {k : Status → Program Parallel (Except Fault γ × MessageChannel)}
    {g : Except Fault γ × MessageChannel → Program Parallel β}
    (asks : q = (sharing status d k).bind g)
    (on : Meets r Q p ((k status).bind g) toFluid toSolid) : Meets r Q p q toFluid toSolid :=
  broadcastInts_alone asks on

/-- The roots exchange a field once it is gathered. -/
theorem gatheredToSolid (legible : Legible name) {gathered : Fin (n + 1) → List Float}
    {c : Fin (n + 1) → MessageChannel} {d : MessageChannel}
    {f : Fin (n + 1) → Status × MessageChannel → Program Parallel α}
    {g : Status × MessageChannel → Program Parallel β}
    (roots : ∀ i, (c i).isLocalRoot = decide (i = 0)) (single : d.isLocalRoot = true)
    (size : (gathered 0).length = d.staging.length) (some : 0 < d.staging.length)
    (most : d.staging.length < 2 ^ 31)
    (sends : ∀ i, p i = (sendGathered r.solid name (gathered i) (c i)).bind (f i))
    (receives : q = (receiveStaged r.fluid name d).bind g)
    (on : ∀ (c' : Fin (n + 1) → MessageChannel) (d' : MessageChannel),
      (∀ i, (c' i).place = (c i).place) → d'.place = d.place →
      d'.staging.length = d.staging.length →
      Meets r Q
        (fun i => f i (if i = 0 then Int32.ofNat d.staging.length else Status.ok, c' i))
        (g (Int32.ofNat d.staging.length, d')) .empty .empty) :
    Meets r Q p q .empty .empty := by
  have proper := proper_field legible (size ▸ some) (size ▸ most)
  have sends₀ : p 0 = (Message.send ⟨0, name, .field, .reals (gathered 0)⟩ r.solid).bind
      fun status => f 0 (status, { c 0 with staging := (gathered 0).map .whole }) := by
    rw [sends 0, MessageChannel.sendGathered_root (roots 0), Program.bind_assoc]
    rfl
  have receives₀ : q = (MessageChannel.receiveMessage r.fluid
      (Message.expected ⟨0, name, .field, .reals (gathered 0)⟩ true) (.reals d.staging)).bind
      fun x => g (x.1, { d with staging := x.2.toSlots d.staging }) := by
    rw [receives, MessageChannel.receiveStaged_root single, Program.bind_assoc]
    unfold Message.expected Message.count Payload.length
    dsimp only
    rw [size]
    rfl
  refine toSolid proper rfl sends₀ receives₀ ?_
  unfold Message.count Payload.length
  dsimp only
  rw [size]
  refine of_eq (fun i => ?_)
    (on (put c 0 { c 0 with staging := (gathered 0).map .whole }) _ (fun i => ?_) rfl ?_)
  · by_cases root : i = 0
    · subst root
      rw [put_same, put_same, if_pos rfl]
    · rw [put_other root, put_other root, if_neg root, sends i,
        MessageChannel.sendGathered_other ((roots i).trans (decide_eq_false root))]
      rfl
  · by_cases root : i = 0
    · subst root
      rw [put_same]
    · rw [put_other root]
  · exact length_overwrite _ _

/-- The structural solver receives a field that is spread over the ranks of the fluid solver. -/
theorem fieldToSolid (legible : Legible name) {values : Fin (n + 1) → List Float}
    {c : Fin (n + 1) → MessageChannel} {buffer : List Float} {d : MessageChannel}
    {f : Fin (n + 1) → Except Fault Status × MessageChannel → Program Parallel α}
    {g : Except Fault (Status × List Float) × MessageChannel → Program Parallel β}
    (roots : ∀ i, (c i).isLocalRoot = decide (i = 0)) (single : d.isLocalRoot = true)
    (size : (List.ofFn values).flatten.length = buffer.length) (some : 0 < buffer.length)
    (most : buffer.length < 2 ^ 31)
    (sends : ∀ i, p i = (sendField r.solid name (values i) (c i)).bind (f i))
    (receives : q = (receiveField r.fluid name buffer d).bind g)
    (on : ∀ (c' : Fin (n + 1) → MessageChannel) (d' : MessageChannel) (received : List Float),
      (∀ i, (c' i).place = (c i).place) → d'.place = d.place →
      received.length = buffer.length →
      Meets r Q (fun i => f i (.ok (Int32.ofNat (values i).length), c' i))
        (g (.ok (Int32.ofNat buffer.length, received), d')) .empty .empty) :
    Meets r Q p q .empty .empty := by
  have fine : Status.failed (Int32.ofNat buffer.length) = false :=
    decide_eq_false (Int32.not_lt.2 (Int32.zero_le_ofNat_of_lt most))
  -- the ranks gather the field on their root, and the structural solver makes room for it
  have asks i := (sends i).trans ((congrArg (Program.bind · (f i))
    (MessageChannel.sendField_apply _ _ _ _)).trans (Program.ask_bind _ _ _))
  have waits := receives.trans ((congrArg (Program.bind · g)
    (MessageChannel.receiveField_apply _ _ _ _)).trans (Program.ask_bind _ _ _))
  refine gatherCount asks (gatherReals (fun i => rfl) (if_pos rfl) (gatherCount_alone waits ?_))
  have room : (d.resized [Int32.ofNat buffer.length]).staging.length = buffer.length := by
    rw [MessageChannel.length_staging_resized single]
    exact Int32.toNatClampNeg_ofNat_of_lt most
  -- the roots exchange it and tell their groups
  refine gatheredToSolid legible
    (fun i => (MessageChannel.isLocalRoot_resized _).trans (roots i))
    ((MessageChannel.isLocalRoot_resized [Int32.ofNat buffer.length]).trans single)
    ?_ ?_ ?_ (fun i => Program.bind_assoc _ _ _) (Program.bind_assoc _ _ _)
    fun c' d' places place sized => ?_
  · rw [room]
    exact size
  · rw [room]
    exact some
  · rw [room]
    exact most
  refine sharing_group (fun i => rfl) (sharing_alone rfl ?_)
  rw [room] at sized ⊢
  rw [MessageChannel.handOut_fine fine]
  refine scatterReals_alone rfl ?_ fun received kept => ?_
  · rw [List.length_map, sized]
    exact Nat.le_of_eq (Int32.toNatClampNeg_ofNat_of_lt most)
  · refine of_eq (fun i => ?_) (on c' d' received
      (fun i => (places i).trans (MessageChannel.place_resized _ _))
      (place.trans (MessageChannel.place_resized _ _)) kept)
    rw [if_pos rfl, fine, if_neg Bool.false_ne_true]
    rfl

/-- The roots exchange a field that will be handed out. -/
theorem gatheredToFluid (legible : Legible name) {gathered : List Float}
    {c : Fin (n + 1) → MessageChannel} {d : MessageChannel}
    {f : Fin (n + 1) → Status × MessageChannel → Program Parallel α}
    {g : Status × MessageChannel → Program Parallel β}
    (roots : ∀ i, (c i).isLocalRoot = decide (i = 0)) (single : d.isLocalRoot = true)
    (size : (c 0).staging.length = gathered.length) (some : 0 < gathered.length)
    (most : gathered.length < 2 ^ 31)
    (sends : q = (sendGathered r.fluid name gathered d).bind g)
    (receives : ∀ i, p i = (receiveStaged r.solid name (c i)).bind (f i))
    (on : ∀ (c' : Fin (n + 1) → MessageChannel) (d' : MessageChannel),
      (∀ i, (c' i).place = (c i).place) → d'.place = d.place →
      (c' 0).staging.length = gathered.length →
      Meets r Q (fun i => f i (if i = 0 then Int32.ofNat gathered.length else Status.ok, c' i))
        (g (Int32.ofNat gathered.length, d')) .empty .empty) :
    Meets r Q p q .empty .empty := by
  have proper := proper_field legible some most
  have sends₀ : q = (Message.send ⟨0, name, .field, .reals gathered⟩ r.fluid).bind
      fun status => g (status, { d with staging := gathered.map .whole }) := by
    rw [sends, MessageChannel.sendGathered_root single, Program.bind_assoc]
    rfl
  have receives₀ : p 0 = (MessageChannel.receiveMessage r.solid
      (Message.expected ⟨0, name, .field, .reals gathered⟩ true) (.reals (c 0).staging)).bind
      fun x => f 0 (x.1, { c 0 with staging := x.2.toSlots (c 0).staging }) := by
    rw [receives 0, MessageChannel.receiveStaged_root (roots 0), Program.bind_assoc, size]
    rfl
  refine toFluid proper rfl sends₀ receives₀ ?_
  refine of_eq (fun i => ?_)
    (on (put c 0 { c 0 with staging := overwrite (c 0).staging (gathered.map .whole) }) _
      (fun i => ?_) rfl ?_)
  · by_cases root : i = 0
    · subst root
      rw [put_same, put_same, if_pos rfl]
      rfl
    · rw [put_other root, put_other root, if_neg root, receives i,
        MessageChannel.receiveStaged_other ((roots i).trans (decide_eq_false root))]
      rfl
  · by_cases root : i = 0
    · subst root
      rw [put_same]
    · rw [put_other root]
  · rw [put_same]
    exact (length_overwrite _ _).trans size

/-- The ranks of the fluid solver receive a field from the structural solver. -/
theorem fieldToFluid (legible : Legible name) {values : List Float} {d : MessageChannel}
    {buffers : Fin (n + 1) → List Float} {c : Fin (n + 1) → MessageChannel}
    {f : Fin (n + 1) → Except Fault (Status × List Float) × MessageChannel → Program Parallel α}
    {g : Except Fault Status × MessageChannel → Program Parallel β}
    (roots : ∀ i, (c i).isLocalRoot = decide (i = 0)) (single : d.isLocalRoot = true)
    (size : (List.ofFn buffers).flatten.length = values.length) (some : 0 < values.length)
    (most : values.length < 2 ^ 31)
    (sends : q = (sendField r.fluid name values d).bind g)
    (receives : ∀ i, p i = (receiveField r.solid name (buffers i) (c i)).bind (f i))
    (on : ∀ (c' : Fin (n + 1) → MessageChannel) (d' : MessageChannel)
      (parts : Fin (n + 1) → List Float), (∀ i, (c' i).place = (c i).place) →
      d'.place = d.place → (∀ i, (parts i).length = (buffers i).length) →
      Meets r Q (fun i => f i (.ok (Int32.ofNat (buffers i).length, parts i), c' i))
        (g (.ok (Int32.ofNat values.length), d')) .empty .empty) :
    Meets r Q p q .empty .empty := by
  have fine : Status.failed (Int32.ofNat values.length) = false :=
    decide_eq_false (Int32.not_lt.2 (Int32.zero_le_ofNat_of_lt most))
  have layout : total (List.ofFn fun i => Int32.ofNat (buffers i).length) = values.length :=
    (total_layout (size ▸ most)).trans size
  -- the ranks make room on their root, and the structural solver gathers what it has alone
  have asks i := (receives i).trans ((congrArg (Program.bind · (f i))
    (MessageChannel.receiveField_apply _ _ _ _)).trans (Program.ask_bind _ _ _))
  have gives := sends.trans ((congrArg (Program.bind · g)
    (MessageChannel.sendField_apply _ _ _ _)).trans (Program.ask_bind _ _ _))
  refine gatherCount asks (gatherCount_alone gives (gatherReals_alone rfl ?_))
  let layouts : Fin (n + 1) → List Int32 := fun i =>
    if i = 0 then List.ofFn fun j => Int32.ofNat (buffers j).length else []
  have whole : layouts 0 = List.ofFn fun j => Int32.ofNat (buffers j).length := if_pos rfl
  have room : ((c 0).resized (layouts 0)).staging.length = values.length := by
    rw [whole, MessageChannel.length_staging_resized (roots 0)]
    exact layout
  -- the roots exchange it and tell their groups
  refine gatheredToFluid (c := fun i => (c i).resized (layouts i)) legible
    (fun i => (MessageChannel.isLocalRoot_resized _).trans (roots i))
    ((MessageChannel.isLocalRoot_resized [Int32.ofNat values.length]).trans single)
    room some most (Program.bind_assoc _ _ _) (fun i => Program.bind_assoc _ _ _)
    fun c' d' places place sized => ?_
  refine sharing_group (fun i => rfl) (sharing_alone rfl ?_)
  refine of_eq (fun i => congrArg (Program.bind · (f i)) (MessageChannel.handOut_fine ?_)) ?_
  · rw [if_pos rfl, fine]
  refine scatterReals (fun i => rfl) whole ?_ ?_
  · show total (layouts 0) ≤ _
    rw [whole, layout, List.length_map, sized]
  · rw [fine, if_neg Bool.false_ne_true]
    exact on c' d' _ (fun i => (places i).trans (MessageChannel.place_resized _ _))
      (place.trans (MessageChannel.place_resized _ _)) fun i => length_overwrite _ _

end Meets

end FluidStructure.Network
