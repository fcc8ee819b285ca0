import FluidStructure.Proofs.Coupling.Stages
import FluidStructure.Proofs.Lockstep

/-!
# Two ranks of the local group

Rank 0 and another rank run side by side.  Collective operations and field exchanges they
make together; what rank 0 exchanges with the peer, the fluid solver and the journal they
ask on their own.
-/

namespace FluidStructure.Coupling

open FluidStructure.Channel FluidStructure.Journal

namespace Request

/-- Do all ranks make this request together? -/
def isCommon : Request → Bool
  | sumReals .. | sumCounts .. | broadcastReals .. | broadcastInts .. | sendField ..
  | receiveField .. => true
  | _ => false

/-- The fluid solver of a rank does not fault.  The peer and the channel do as they like. -/
def Alone : (request : Request) → request.Reply → Prop
  | computeForces .., reply => reply.1 = .ok ()
  | imposeDisplacement .., reply => reply = .ok ()
  | peerConvergence .., reply => ∃ converged, reply = .ok converged
  | _, _ => True

/-- Collective operations succeed: reductions give both ranks the same, broadcasts give both what
rank 0 has, and a field exchange fails on both or on none.  Operations fit if they are of one
kind, with as many values, or for one field and peer. -/
def Together : (r : Request) → r.Reply → (s : Request) → s.Reply → Prop
  | sumReals xs, x, sumReals ys, y => xs.length = ys.length ∧ ∃ sums, x = .ok sums ∧ y = .ok sums
  | sumCounts xs, x, sumCounts ys, y =>
    xs.length = ys.length ∧ ∃ sums, x = .ok sums ∧ y = .ok sums
  | broadcastReals xs, x, broadcastReals ys, y => xs.length = ys.length ∧ x = .ok xs ∧ y = .ok xs
  | broadcastInts xs, x, broadcastInts ys, y => xs.length = ys.length ∧ x = .ok xs ∧ y = .ok xs
  | sendField peer name _, x, sendField peer' name' _, y => peer = peer' ∧ name = name' ∧
    ∃ s t, x = .ok s ∧ y = .ok t ∧ Status.failed s = Status.failed t
  | receiveField peer name _, x, receiveField peer' name' _, y => peer = peer' ∧ name = name' ∧
    ∃ s t, x = .ok s ∧ y = .ok t ∧ Status.failed s.1 = Status.failed t.1
  | _, _, _, _ => False

theorem exists_alone (request : Request) (own : request.isCommon = false) :
    ∃ reply, request.Alone reply := by
  cases request with
  | sumReals | sumCounts | broadcastReals | broadcastInts | sendField | receiveField => cases own
  | sendInts | sendReals => exact ⟨Status.ok, trivial⟩
  | receiveInts | receiveReals => exact ⟨(Status.ok, []), trivial⟩
  | close | note => exact ⟨(), trivial⟩
  | computeForces => exact ⟨(.ok (), []), rfl⟩
  | imposeDisplacement => exact ⟨.ok (), rfl⟩
  | peerConvergence => exact ⟨.ok true, true, rfl⟩

end Request

/-- Rank 0 and another rank. -/
def ranks : Pact Coupling where
  common := Request.isCommon
  Alone := Request.Alone
  Together := Request.Together
  answered := Request.exists_alone

namespace Controller

variable {α β : Type}

/-- Both ranks end with values, or both with one fault. -/
inductive Settled (E : Controller → Controller → Prop)
    (Q : α → α → Controller → Controller → Prop) :
    Except Fault α × Controller → Except Fault α × Controller → Prop
  | ok {v w : α} {a b : Controller} (h : Q v w a b) : Settled E Q (.ok v, a) (.ok w, b)
  | fault {f : Fault} {a b : Controller} (h : E a b) : Settled E Q (.error f, a) (.error f, b)

/-- The programs of the two ranks are in lockstep and settle. -/
def Beside (E : Controller → Controller → Prop) (Q : α → α → Controller → Controller → Prop)
    (p q : Program Coupling (Except Fault α × Controller)) : Prop :=
  ranks.Lockstep (Settled E Q) p q

variable {E : Controller → Controller → Prop} {Q Q' : α → α → Controller → Controller → Prop}
  {R : β → β → Controller → Controller → Prop}
  {p q : Program Coupling (Except Fault α × Controller)} {a b : Controller}

theorem beside_done {v w : α} (h : Q v w a b) : Beside E Q (.done (.ok v, a)) (.done (.ok w, b)) :=
  .done (.ok h)

theorem beside_fault {f : Fault} (h : E a b) :
    Beside E Q (.done (.error f, a)) (.done (.error f, b)) := .done (.fault h)

theorem Beside.mono (h : Beside E Q p q) (imp : ∀ v w a b, Q v w a b → Q' v w a b) :
    Beside E Q' p q := by
  refine Pact.Lockstep.mono h fun x y settled => ?_
  cases settled with
  | ok h => exact .ok (imp _ _ _ _ h)
  | fault h => exact .fault h

theorem beside_bind {act act' : Act Coupling Controller α} {f g : α → Act Coupling Controller β}
    (first : Beside E Q (act a) (act' b))
    (later : ∀ v w a b, Q v w a b → Beside E R (f v a) (g w b)) :
    Beside E R ((act >>= f) a) ((act' >>= g) b) := by
  refine Pact.Lockstep.bind first fun x y settled => ?_
  cases settled with
  | ok h => exact later _ _ _ _ h
  | fault h => exact beside_fault h

/-! ## Requests of one rank -/

theorem beside_noting {c d : Bool} {n m : Notice} (h : Beside E Q p q) :
    Beside E Q (noting c n p) (noting d m q) := by
  have right : Beside E Q p (noting d m q) := by
    cases d with
    | false => exact h
    | true => exact .second rfl fun _ _ => h
  cases c with
  | false => exact right
  | true => exact .first rfl fun _ _ => right

/-- An act makes its requests on its own, keeps the state and does not fault. -/
def Solitary (act : Act Coupling Controller α) : Prop :=
  ∀ c, ranks.Own (fun x => ∃ v, x = (.ok v, c)) (act c)

theorem solitary_pure (v : α) : Solitary (pure v) := fun _ => .done ⟨v, rfl⟩

theorem solitary_perform {request : Request} (own : request.isCommon = false) :
    Solitary (Act.perform (I := Coupling) request) :=
  fun _ => .ask own fun reply => .done ⟨reply, rfl⟩

theorem Solitary.bind {act : Act Coupling Controller α} {f : α → Act Coupling Controller β}
    (first : Solitary act) (later : ∀ v, Solitary (f v)) : Solitary (act >>= f) := fun c =>
  (first c).bind fun x done => by
    obtain ⟨v, rfl⟩ := done
    exact later v c

theorem solitary_get_bind {f : Controller → Act Coupling Controller α}
    (h : ∀ c, Solitary (f c)) : Solitary (Act.get >>= f) := fun c => h c c

theorem solitary_noteIf (condition : Bool) (notice : Notice) :
    Solitary (noteIf condition notice) := by
  cases condition with
  | true => exact solitary_perform rfl
  | false => exact solitary_pure ()

theorem solitary_onRoot {exchange : Act Coupling Controller Status} (h : Solitary exchange) :
    Solitary (onRoot exchange) := by
  refine solitary_get_bind fun c => ?_
  split
  · exact h
  · exact solitary_pure _

theorem solitary_sendInTurn {first : Act Coupling Controller Status}
    {later : List (Act Coupling Controller Status)} (h : ∀ act ∈ first :: later, Solitary act) :
    Solitary (sendInTurn first later) := by
  induction later generalizing first with
  | nil => exact h first List.mem_cons_self
  | cons second later ih =>
    refine (h first List.mem_cons_self).bind fun status => ?_
    split
    · exact solitary_pure _
    · exact ih fun act member => h act (List.mem_cons_of_mem _ member)

theorem solitary_sendParameters (s : Session) : Solitary (sendParameters s) := by
  refine (solitary_noteIf _ _).bind fun _ => solitary_sendInTurn fun act member => ?_
  simp only [List.mem_cons, List.not_mem_nil, or_false] at member
  rcases member with rfl | rfl | rfl | rfl | rfl <;> exact solitary_perform rfl

theorem solitary_sendConvergence (own : Bool) : Solitary (sendConvergence own) := by
  refine solitary_get_bind fun c => ?_
  dsimp only
  split
  · exact solitary_onRoot (solitary_perform rfl)
  · exact solitary_pure _

/-- Both ranks do something on their own. -/
theorem beside_solitary {act act' : Act Coupling Controller α}
    {f g : α → Act Coupling Controller β} (first : Solitary act) (second : Solitary act')
    (on : ∀ v w, Beside E R (f v a) (g w b)) : Beside E R ((act >>= f) a) ((act' >>= g) b) := by
  refine Pact.Lockstep.first_own (first a) fun x done => ?_
  obtain ⟨v, rfl⟩ := done
  refine Pact.Lockstep.second_own (second b) fun y done => ?_
  obtain ⟨w, rfl⟩ := done
  exact on v w

theorem own_noting {γ : Type} {P : γ → Prop} {condition : Bool} {notice : Notice}
    {p : Program Coupling γ} (h : ranks.Own P p) : ranks.Own P (noting condition notice p) := by
  cases condition with
  | true => exact .ask rfl fun _ => h
  | false => exact h

theorem own_exchanged (s : Session) (iteration : Int32) (own : Float) :
    ranks.Own (fun _ => True) (TimeStep.exchanged s iteration own) := by
  refine .ask rfl fun received => ?_
  split
  · exact .ask rfl fun _ => .done trivial
  · refine .ask rfl fun sent => ?_
    split
    · exact .ask rfl fun _ => .done trivial
    · exact own_noting (.done trivial)

/-- What a rank proposes for a step it finds out on its own. -/
theorem own_proposal (place : Parallel.Place) (s : Session) (own : Float) :
    ranks.Own (fun _ => True) (TimeStep.proposal place s own) := by
  unfold TimeStep.proposal
  split
  · refine (own_exchanged s (s.iteration + 1) own).bind fun chosen _ => ?_
    cases chosen with
    | some dt => exact .done trivial
    | none => exact .ask rfl fun _ => .done trivial
  · exact .done trivial

/-! ## Requests of both ranks -/

theorem beside_sumReals {xs ys : List Float}
    {f g : List Float → Program Coupling (Except Fault α × Controller)}
    (length : xs.length = ys.length) (h : ∀ sums, Beside E Q (f sums) (g sums)) :
    Beside E Q (.ask (.sumReals xs) (opening a f)) (.ask (.sumReals ys) (opening b g)) := by
  refine .both rfl rfl ⟨.ok [], .ok [], length, [], rfl, rfl⟩ ?_
  rintro _ _ ⟨-, sums, rfl, rfl⟩
  exact h sums

theorem beside_broadcastReals {xs ys : List Float}
    {f g : List Float → Program Coupling (Except Fault α × Controller)}
    (length : xs.length = ys.length) (h : Beside E Q (f xs) (g xs)) :
    Beside E Q (.ask (.broadcastReals xs) (opening a f))
      (.ask (.broadcastReals ys) (opening b g)) := by
  refine .both rfl rfl ⟨.ok xs, .ok xs, length, rfl, rfl⟩ ?_
  rintro _ _ ⟨-, rfl, rfl⟩
  exact h

theorem beside_broadcastInts {xs ys : List Int32}
    {f g : List Int32 → Program Coupling (Except Fault α × Controller)}
    (length : xs.length = ys.length) (h : Beside E Q (f xs) (g xs)) :
    Beside E Q (.ask (.broadcastInts xs) (opening a f))
      (.ask (.broadcastInts ys) (opening b g)) := by
  refine .both rfl rfl ⟨.ok xs, .ok xs, length, rfl, rfl⟩ ?_
  rintro _ _ ⟨-, rfl, rfl⟩
  exact h

theorem beside_sendField {peer : Int32} {name : String} {xs ys : List Float}
    {f g : Status → Program Coupling (Except Fault α × Controller)}
    (h : ∀ s t, Status.failed s = Status.failed t → Beside E Q (f s) (g t)) :
    Beside E Q (.ask (.sendField peer name xs) (opening a f))
      (.ask (.sendField peer name ys) (opening b g)) := by
  refine .both rfl rfl ⟨.ok Status.ok, .ok Status.ok, rfl, rfl, _, _, rfl, rfl, rfl⟩ ?_
  rintro _ _ ⟨-, -, s, t, rfl, rfl, same⟩
  exact h s t same

theorem beside_receiveField {peer : Int32} {name : String} {xs ys : List Float}
    {f g : Status × List Float → Program Coupling (Except Fault α × Controller)}
    (h : ∀ s t, Status.failed s.1 = Status.failed t.1 → Beside E Q (f s) (g t)) :
    Beside E Q (.ask (.receiveField peer name xs) (opening a f))
      (.ask (.receiveField peer name ys) (opening b g)) := by
  refine .both rfl rfl
    ⟨.ok (Status.ok, []), .ok (Status.ok, []), rfl, rfl, _, _, rfl, rfl, rfl⟩ ?_
  rintro _ _ ⟨-, -, s, t, rfl, rfl, same⟩
  exact h s t same

end Controller

end FluidStructure.Coupling
