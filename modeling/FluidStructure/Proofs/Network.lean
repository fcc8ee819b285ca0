import FluidStructure.Channel.MessageChannel
import FluidStructure.Proofs.Runs
import Mathlib.Data.DFinsupp.WellFounded

/-!
# Two applications that exchange messages

A fluid solver of several ranks and a structural solver of one rank run side by side.  The
root of the fluid solver and the structural solver send each other messages, which wait in
order until they are received; headers and payloads travel apart.  A collective operation
is one step of all ranks of a group.  Nothing is assumed about the order in which the
processes proceed.

Programs settle if they end well in some order of steps.  The order does not matter: a step
of one process takes nothing away from another.
-/

namespace FluidStructure.Network

open FluidStructure.Parallel FluidStructure.Channel

/-! ## Messages on their way -/

/-- Messages from one root to the other that have not been received, the oldest first. -/
structure Mail where
  headers : List Header := []
  payloads : List Payload := []

instance : Append Mail := ⟨fun a b => ⟨a.headers ++ b.headers, a.payloads ++ b.payloads⟩⟩

namespace Mail

/-- No message is on its way. -/
def empty : Mail := {}

variable {a b c d : Mail}

theorem append_def (a b : Mail) : a ++ b = ⟨a.headers ++ b.headers, a.payloads ++ b.payloads⟩ := rfl

@[simp] theorem empty_append (a : Mail) : empty ++ a = a := rfl

@[simp] theorem append_empty (a : Mail) : a ++ empty = a := by
  rw [append_def]
  simp [empty]

theorem append_assoc (a b c : Mail) : a ++ b ++ c = a ++ (b ++ c) := by
  simp only [append_def, List.append_assoc]

/-- As many messages of each sort. -/
def SameSize (a b : Mail) : Prop :=
  a.headers.length = b.headers.length ∧ a.payloads.length = b.payloads.length

theorem append_inj (h : a ++ c = b ++ d) (same : a.SameSize b) : a = b ∧ c = d := by
  obtain ⟨headers, payloads⟩ := Mail.mk.inj h
  obtain ⟨left, right⟩ := List.append_inj headers same.1
  obtain ⟨left', right'⟩ := List.append_inj payloads same.2
  constructor
  · cases a
    cases b
    rw [Mail.mk.injEq]
    exact ⟨left, left'⟩
  · cases c
    cases d
    rw [Mail.mk.injEq]
    exact ⟨right, right'⟩

end Mail

/-! ## Replies -/

/-- A request that a process makes on its own, with its reply: what the process takes from the
mail of its peer and what it gives.  A payload that is too long for its receive is gone as
well, and the reply is some error code. -/
def Handled (peer : Int32) : (request : Request) → request.Reply → (takes gives : Mail) → Prop
  | .note _, _, takes, gives => takes = .empty ∧ gives = .empty
  | .sendHeader dest header, reply, takes, gives =>
    dest = peer ∧ reply = .ok () ∧ takes = .empty ∧ gives = ⟨[header], []⟩
  | .sendPayload dest payload, reply, takes, gives =>
    dest = peer ∧ reply = .ok () ∧ takes = .empty ∧ gives = ⟨[], [payload]⟩
  | .receiveHeader source, reply, takes, gives =>
    source = peer ∧ gives = .empty ∧ ∃ header, reply = .ok header ∧ takes = ⟨[header], []⟩
  | .receivePayload source limit, reply, takes, gives =>
    source = peer ∧ gives = .empty ∧ ∃ payload, takes = ⟨[], [payload]⟩ ∧
      (payload.size ≤ limit ∧ reply = .ok payload ∨
        limit < payload.size ∧ ∃ code, reply = .error code)
  | _, _, _, _ => False

/-- Where the part of a rank begins in a field that is laid out in rank order. -/
def offset (layout : List Int32) (rank : Nat) : Nat := MessageChannel.total (layout.take rank)

/-- A collective request of one rank with its reply, when the ranks of a group make these
requests.  Sums are the same on all ranks; nothing else is known of them. -/
def Answered {n : Nat} (all : Fin (n + 1) → Request) (sums : List Float) (i : Fin (n + 1)) :
    (request : Request) → request.Reply → Prop
  | .broadcastReals _ _ own, reply =>
    (∀ j, ∃ values, all j = .broadcastReals .application 0 values ∧
      values.length = own.length) ∧
      ∃ given, all 0 = .broadcastReals .application 0 given ∧ reply = .ok given
  | .broadcastInts _ _ own, reply =>
    (∀ j, ∃ values, all j = .broadcastInts .application 0 values ∧
      values.length = own.length) ∧
      ∃ given, all 0 = .broadcastInts .application 0 given ∧ reply = .ok given
  | .reduceReals _ _ own, reply =>
    (∀ j, ∃ values, all j = .reduceReals .application .sum values ∧
      values.length = own.length) ∧
      sums.length = own.length ∧ reply = .ok sums
  | .gatherCount .., reply =>
    ∃ counts : Fin (n + 1) → Int32,
      (∀ j, all j = .gatherCount .application (counts j)) ∧
        reply = .ok (if i = 0 then List.ofFn counts else [])
  | .gatherReals .., reply =>
    ∃ (parts : Fin (n + 1) → List Float) (layouts : Fin (n + 1) → List Int32),
      (∀ j, all j = .gatherReals .application (parts j) (layouts j)) ∧
        layouts 0 = List.ofFn (fun j => Int32.ofNat (parts j).length) ∧
        reply = .ok (if i = 0 then (List.ofFn parts).flatten else [])
  | .scatterReals .., reply =>
    ∃ (fields : Fin (n + 1) → List Float) (layouts : Fin (n + 1) → List Int32)
      (buffers : Fin (n + 1) → List Float),
      (∀ j, all j = .scatterReals .application (fields j) (layouts j) (buffers j)) ∧
        layouts 0 = List.ofFn (fun j => Int32.ofNat (buffers j).length) ∧
        MessageChannel.total (layouts 0) ≤ (fields 0).length ∧
        reply = .ok (overwrite (buffers i)
          (((fields 0).drop (offset (layouts 0) i)).take (buffers i).length))
  | _, _ => False

/-- A request of a process whose group is itself alone. -/
def Served (peer : Int32) (request : Request) (reply : request.Reply) (takes gives : Mail) : Prop :=
  Handled peer request reply takes gives ∨
    takes = .empty ∧ gives = .empty ∧
      ∃ sums, Answered (fun _ : Fin 1 => request) sums 0 request reply

theorem Handled.not_answered {peer : Int32} {request : Request} {reply reply' : request.Reply}
    {takes gives : Mail} {n : Nat} {all : Fin (n + 1) → Request} {sums : List Float}
    {i : Fin (n + 1)} (h : Handled peer request reply takes gives) :
    ¬ Answered all sums i request reply' := by
  cases request <;> first | exact h.elim | exact id

/-- A request says how much is taken. -/
theorem Handled.sameSize {peer : Int32} {request : Request} {reply reply' : request.Reply}
    {takes gives takes' gives' : Mail} (h : Handled peer request reply takes gives)
    (h' : Handled peer request reply' takes' gives') : takes.SameSize takes' := by
  cases request with
  | note _ =>
    obtain ⟨rfl, -⟩ := h
    obtain ⟨rfl, -⟩ := h'
    exact ⟨rfl, rfl⟩
  | sendHeader _ _ =>
    obtain ⟨-, -, rfl, -⟩ := h
    obtain ⟨-, -, rfl, -⟩ := h'
    exact ⟨rfl, rfl⟩
  | sendPayload _ _ =>
    obtain ⟨-, -, rfl, -⟩ := h
    obtain ⟨-, -, rfl, -⟩ := h'
    exact ⟨rfl, rfl⟩
  | receiveHeader _ =>
    obtain ⟨-, -, _, -, rfl⟩ := h
    obtain ⟨-, -, _, -, rfl⟩ := h'
    exact ⟨rfl, rfl⟩
  | receivePayload _ _ =>
    obtain ⟨-, -, _, rfl, -⟩ := h
    obtain ⟨-, -, _, rfl, -⟩ := h'
    exact ⟨rfl, rfl⟩
  | _ => exact h.elim

theorem Served.sameSize {peer : Int32} {request : Request} {reply reply' : request.Reply}
    {takes gives takes' gives' : Mail} (h : Served peer request reply takes gives)
    (h' : Served peer request reply' takes' gives') : takes.SameSize takes' := by
  rcases h with h | ⟨rfl, -, _, h⟩ <;> rcases h' with h' | ⟨rfl, -, _, h'⟩
  · exact h.sameSize h'
  · exact absurd h' h.not_answered
  · exact absurd h h'.not_answered
  · exact ⟨rfl, rfl⟩

/-! ## Steps -/

/-- What has happened between and within the two applications. -/
structure Traffic (n : Nat) where
  toFluid : Mail := .empty
  toSolid : Mail := .empty
  fluidLog : Fin (n + 1) → Log Parallel := fun _ => []
  solidLog : Log Parallel := []

/-- The programs of all processes and the traffic between them.  Rank 0 is the root of the fluid
solver. -/
structure State (n : Nat) (α β : Type) where
  fluid : Fin (n + 1) → Program Parallel α
  solid : Program Parallel β
  traffic : Traffic n := {}

/-- Ranks of the two roots in the launch. -/
structure Roots where
  fluid : Int32
  solid : Int32

/-- Who takes a step. -/
inductive Who (n : Nat) where
  | rank (i : Fin (n + 1))
  | group
  | solid
deriving DecidableEq

/-- Another value in one place. -/
def put {n : Nat} {γ : Type} (f : Fin (n + 1) → γ) (i : Fin (n + 1)) (value : γ) :
    Fin (n + 1) → γ := fun j => if j = i then value else f j

section Put

variable {n : Nat} {γ : Type} {f : Fin (n + 1) → γ} {i j : Fin (n + 1)} {x y : γ}

@[simp] theorem put_same : put f i x i = x := if_pos rfl

theorem put_other (h : j ≠ i) : put f i x j = f j := if_neg h

theorem put_comm (h : i ≠ j) : put (put f i x) j y = put (put f j y) i x := by
  funext k
  unfold put
  by_cases first : k = i
  · subst first
    rw [if_neg h, if_pos rfl, if_pos rfl]
  · rw [if_neg first, if_neg first]

end Put

variable {n : Nat} {α β : Type}

/-- A rank has made a request and had its reply. -/
def State.afterRank (s : State n α β) (i : Fin (n + 1)) (made : Exchange Parallel)
    (onward : Program Parallel α) (rest gives : Mail) : State n α β where
  fluid := put s.fluid i onward
  solid := s.solid
  traffic :=
    { s.traffic with
      toFluid := rest
      toSolid := s.traffic.toSolid ++ gives
      fluidLog := put s.traffic.fluidLog i (s.traffic.fluidLog i ++ [made]) }

/-- The structural solver has made a request and had its reply. -/
def State.afterSolid (s : State n α β) (made : Exchange Parallel) (onward : Program Parallel β)
    (rest gives : Mail) : State n α β where
  fluid := s.fluid
  solid := onward
  traffic :=
    { s.traffic with
      toSolid := rest
      toFluid := s.traffic.toFluid ++ gives
      solidLog := s.traffic.solidLog ++ [made] }

/-- All ranks have made a collective request and had their replies. -/
def State.afterGroup (s : State n α β) (made : Fin (n + 1) → Exchange Parallel)
    (onward : Fin (n + 1) → Program Parallel α) : State n α β where
  fluid := onward
  solid := s.solid
  traffic := { s.traffic with fluidLog := fun i => s.traffic.fluidLog i ++ [made i] }

/-- One step.  Only the root of the fluid solver has to do with messages. -/
inductive Step (r : Roots) (s : State n α β) : Who n → State n α β → Prop
  | rank (i : Fin (n + 1)) {request : Request} {next : request.Reply → Program Parallel α}
      {reply : request.Reply} {takes gives rest : Mail}
      (asks : s.fluid i = .ask request next) (handled : Handled r.solid request reply takes gives)
      (root : i = 0 ∨ takes = .empty ∧ gives = .empty) (mail : s.traffic.toFluid = takes ++ rest) :
      Step r s (.rank i) (s.afterRank i ⟨request, reply⟩ (next reply) rest gives)
  | group {requests : Fin (n + 1) → Request}
      {next : (i : Fin (n + 1)) → (requests i).Reply → Program Parallel α}
      {replies : (i : Fin (n + 1)) → (requests i).Reply} {sums : List Float}
      (asks : ∀ i, s.fluid i = .ask (requests i) (next i))
      (answered : ∀ i, Answered requests sums i (requests i) (replies i)) :
      Step r s .group
        (s.afterGroup (fun i => ⟨requests i, replies i⟩) fun i => next i (replies i))
  | solid {request : Request} {next : request.Reply → Program Parallel β} {reply : request.Reply}
      {takes gives rest : Mail} (asks : s.solid = .ask request next)
      (served : Served r.fluid request reply takes gives)
      (mail : s.traffic.toSolid = takes ++ rest) :
      Step r s .solid (s.afterSolid ⟨request, reply⟩ (next reply) rest gives)

/-- Some steps, in any order that is possible. -/
inductive Reaches (r : Roots) (s : State n α β) : State n α β → Prop
  | here : Reaches r s s
  | step {t u : State n α β} {who : Who n} (before : Reaches r s t) (last : Step r t who u) :
    Reaches r s u

/-! ## Steps of different processes -/

variable {r : Roots} {s a b c : State n α β} {i j : Fin (n + 1)} {who who' : Who n}

theorem State.afterRank_comm {e e' : Exchange Parallel} {p p' : Program Parallel α}
    {rest rest' rest'' gives gives' : Mail} (apart : i ≠ j)
    (quiet : gives = .empty ∨ gives' = .empty) :
    (s.afterRank i e p rest gives).afterRank j e' p' rest'' gives' =
      (s.afterRank j e' p' rest' gives').afterRank i e p rest'' gives := by
  have given : s.traffic.toSolid ++ gives ++ gives' = s.traffic.toSolid ++ gives' ++ gives := by
    rcases quiet with rfl | rfl
    · rw [Mail.append_empty, Mail.append_empty]
    · rw [Mail.append_empty, Mail.append_empty]
  unfold State.afterRank
  dsimp only
  rw [given, put_comm apart, put_other apart, put_other apart.symm, put_comm apart]

/-- Only one of two different ranks has to do with messages. -/
theorem quiet_of_apart {takes gives takes' gives' : Mail} (apart : i ≠ j)
    (root : i = 0 ∨ takes = .empty ∧ gives = .empty)
    (root' : j = 0 ∨ takes' = .empty ∧ gives' = .empty) :
    takes = .empty ∧ gives = .empty ∨ takes' = .empty ∧ gives' = .empty := by
  rcases root with rfl | quiet
  · rcases root' with rfl | quiet'
    · exact absurd rfl apart
    · exact .inr quiet'
  · exact .inl quiet

/-- Two processes that can both take a step can take them in either order. -/
theorem Step.commute (h : Step r s who a) (h' : Step r s who' b) (apart : who ≠ who') :
    ∃ c, Step r a who' c ∧ Step r b who c := by
  cases h with
  | rank i asks handled root mail =>
    rename_i takes gives rest
    cases h' with
    | rank j asks' handled' root' mail' =>
      rename_i takes' gives' rest'
      have other : i ≠ j := fun same => apart (congrArg Who.rank same)
      rcases quiet_of_apart other root root' with ⟨rfl, rfl⟩ | ⟨rfl, rfl⟩
      · have kept : rest = takes' ++ rest' := mail.symm.trans mail'
        refine ⟨_, .rank j ((put_other other.symm).trans asks') handled' root' kept, ?_⟩
        rw [State.afterRank_comm other (.inl rfl)]
        exact .rank i ((put_other other).trans asks) handled root rfl
      · have kept : rest' = takes ++ rest := mail'.symm.trans mail
        refine ⟨_, .rank j ((put_other other.symm).trans asks') handled' root' rfl, ?_⟩
        rw [State.afterRank_comm other (.inr rfl)]
        exact .rank i ((put_other other).trans asks) handled root kept
    | group asks' answered =>
      obtain ⟨rfl, -⟩ := Program.ask.inj (asks.symm.trans (asks' i))
      exact absurd (answered i) handled.not_answered
    | solid asks' served mail' =>
      exact ⟨_, .solid asks' served ((congrArg (· ++ _) mail').trans (Mail.append_assoc ..)),
        .rank i asks handled root ((congrArg (· ++ _) mail).trans (Mail.append_assoc ..))⟩
  | group asks answered =>
    cases h' with
    | rank j asks' handled =>
      obtain ⟨rfl, -⟩ := Program.ask.inj (asks'.symm.trans (asks j))
      exact absurd (answered j) handled.not_answered
    | group => exact absurd rfl apart
    | solid asks' served mail' =>
      exact ⟨_, .solid asks' served mail', .group asks answered⟩
  | solid asks served mail =>
    cases h' with
    | rank j asks' handled root mail' =>
      exact ⟨_, .rank j asks' handled root ((congrArg (· ++ _) mail').trans (Mail.append_assoc ..)),
        .solid asks served ((congrArg (· ++ _) mail).trans (Mail.append_assoc ..))⟩
    | group asks' answered => exact ⟨_, .group asks' answered, .solid asks served mail⟩
    | solid => exact absurd rfl apart

/-- A process that can take a step already gains nothing from a step of another one. -/
theorem Step.advance (able : Step r s who a) (h : Step r s who' b) (apart : who ≠ who')
    (later : Step r b who c) : ∃ a, Step r s who a ∧ Step r a who' c := by
  cases able with
  | rank i asks handled root mail =>
    rename_i request next reply takes gives rest
    cases h with
    | rank j asks' handled' root' mail' =>
      rename_i takes' gives' rest'
      have other : i ≠ j := fun same => apart (congrArg Who.rank same)
      cases later with
      | rank i asks'' handled'' root'' mail'' =>
        rename_i takes'' gives'' rest''
        have before : s.fluid i = _ := (put_other other).symm.trans asks''
        rcases quiet_of_apart other root'' root' with ⟨rfl, rfl⟩ | ⟨rfl, rfl⟩
        · have kept : rest' = rest'' := mail''
          subst kept
          refine ⟨_, .rank i before handled'' root'' rfl, ?_⟩
          rw [← State.afterRank_comm other (.inl rfl)]
          exact .rank j ((put_other other.symm).trans asks') handled' root' mail'
        · have kept : s.traffic.toFluid = takes'' ++ rest'' := mail'.trans mail''
          refine ⟨_, .rank i before handled'' root'' kept, ?_⟩
          rw [← State.afterRank_comm other (.inr rfl)]
          exact .rank j ((put_other other.symm).trans asks') handled' root' rfl
    | group asks' answered =>
      obtain ⟨rfl, -⟩ := Program.ask.inj (asks.symm.trans (asks' i))
      exact absurd (answered i) handled.not_answered
    | solid asks' served mail' =>
      rename_i takes' gives' rest'
      cases later with
      | rank i asks'' handled'' root'' mail'' =>
        obtain ⟨rfl, -⟩ := Program.ask.inj (asks.symm.trans asks'')
        have received := (Mail.append_assoc ..).symm.trans
          ((congrArg (· ++ gives') mail).symm.trans mail'')
        obtain ⟨rfl, rfl⟩ := Mail.append_inj received (handled.sameSize handled'')
        exact ⟨_, .rank i asks'' handled'' root'' mail,
          .solid asks' served ((congrArg (· ++ _) mail').trans (Mail.append_assoc ..))⟩
  | group asks answered =>
    cases h with
    | rank j asks' handled =>
      obtain ⟨rfl, -⟩ := Program.ask.inj (asks'.symm.trans (asks j))
      exact absurd (answered j) handled.not_answered
    | group => exact absurd rfl apart
    | solid asks' served mail' =>
      cases later with
      | group asks'' answered'' => exact ⟨_, .group asks'' answered'', .solid asks' served mail'⟩
  | solid asks served mail =>
    cases h with
    | rank j asks' handled root mail' =>
      rename_i takes' gives' rest'
      cases later with
      | solid asks'' served'' mail'' =>
        obtain ⟨rfl, -⟩ := Program.ask.inj (asks.symm.trans asks'')
        have received := (Mail.append_assoc ..).symm.trans
          ((congrArg (· ++ gives') mail).symm.trans mail'')
        obtain ⟨rfl, rfl⟩ := Mail.append_inj received (served.sameSize served'')
        exact ⟨_, .solid asks'' served'' mail,
          .rank j asks' handled root ((congrArg (· ++ _) mail').trans (Mail.append_assoc ..))⟩
    | group asks' answered =>
      cases later with
      | solid asks'' served'' mail'' =>
        exact ⟨_, .solid asks'' served'' mail'', .group asks' answered⟩
    | solid => exact absurd rfl apart

/-! ## Termination -/

/-- What is left of a program after one request. -/
inductive Left {γ : Type} : Program Parallel γ → Program Parallel γ → Prop
  | ask {request : Request} (next : request.Reply → Program Parallel γ) (reply : request.Reply) :
    Left (next reply) (.ask request next)

theorem wellFounded_left {γ : Type} : WellFounded (Left (γ := γ)) := by
  refine ⟨fun p => ?_⟩
  induction p with
  | done value => exact ⟨_, fun _ h => nomatch h⟩
  | ask request next ih =>
    refine ⟨_, fun _ h => ?_⟩
    cases h with
    | ask _ reply => exact ih reply

/-- The first process whose program changes has less left of it. -/
def Shorter (s t : State n α β) : Prop :=
  Prod.Lex (Pi.Lex (· < ·) Left) Left (s.fluid, s.solid) (t.fluid, t.solid)

theorem wellFounded_shorter : WellFounded (Shorter (n := n) (α := α) (β := β)) :=
  InvImage.wf (fun s : State n α β => (s.fluid, s.solid))
    (WellFounded.prod_lex (Pi.Lex.wellFounded (· < ·) fun _ => wellFounded_left) wellFounded_left)

theorem Step.shorter (h : Step r s who a) : Shorter a s := by
  cases h with
  | rank i asks =>
    refine .left _ _ ⟨i, fun j before => put_other (ne_of_lt before), ?_⟩
    dsimp only [State.afterRank]
    rw [put_same, asks]
    exact .ask _ _
  | group asks =>
    refine .left _ _ ⟨0, fun j before => absurd before (Fin.not_lt_zero j), ?_⟩
    dsimp only [State.afterGroup]
    rw [asks 0]
    exact .ask _ _
  | solid asks =>
    refine .right _ ?_
    dsimp only [State.afterSolid]
    rw [asks]
    exact .ask _ _

/-- There is no infinite sequence of steps. -/
theorem acc_step (s : State n α β) :
    Acc (fun after before => ∃ who, Step r before who after) s := by
  refine Subrelation.accessible ?_ (wellFounded_shorter.apply s)
  rintro after before ⟨who, h⟩
  exact h.shorter

/-! ## Settling -/

/-- In some order of steps, whatever the replies are, all programs end, with values and traffic
in a relation. -/
inductive Settles (r : Roots) (Q : (Fin (n + 1) → α) → β → Traffic n → Prop) :
    State n α β → Prop
  | done {s : State n α β} {x : Fin (n + 1) → α} {y : β} (fluid : ∀ i, s.fluid i = .done (x i))
      (solid : s.solid = .done y) (h : Q x y s.traffic) : Settles r Q s
  | turn {s : State n α β} (who : Who n) (able : ∃ a, Step r s who a)
      (on : ∀ a, Step r s who a → Settles r Q a) : Settles r Q s

namespace Settles

variable {Q : (Fin (n + 1) → α) → β → Traffic n → Prop}

/-- The order does not matter: every step that is possible leads on. -/
theorem step (h : Settles r Q s) (taken : Step r s who b) : Settles r Q b := by
  induction h generalizing b who with
  | done fluid solid _ =>
    cases taken with
    | rank i asks => exact nomatch (fluid i).symm.trans asks
    | group asks => exact nomatch (fluid 0).symm.trans (asks 0)
    | solid asks => exact nomatch solid.symm.trans asks
  | turn first able on ih =>
    by_cases same : first = who
    · subst same
      exact on _ taken
    · obtain ⟨a, started⟩ := able
      obtain ⟨c, -, still⟩ := started.commute taken same
      refine .turn first ⟨c, still⟩ fun d later => ?_
      obtain ⟨a, before, onward⟩ := started.advance taken same later
      exact ih a before onward

theorem reaches (h : Settles r Q s) (reached : Reaches r s a) : Settles r Q a := by
  induction reached with
  | here => exact h
  | step _ last ih => exact ih.step last

/-- Nobody waits in vain: there is a next step, or all programs have ended as they should. -/
theorem goes_on (h : Settles r Q s) :
    (∃ who a, Step r s who a) ∨
      ∃ x y, (∀ i, s.fluid i = .done (x i)) ∧ s.solid = .done y ∧ Q x y s.traffic := by
  cases h with
  | done fluid solid h => exact .inr ⟨_, _, fluid, solid, h⟩
  | turn who able _ => exact .inl ⟨who, able⟩

end Settles

end FluidStructure.Network
