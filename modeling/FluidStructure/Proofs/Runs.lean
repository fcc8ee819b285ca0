import FluidStructure.Act

/-!
# Runs of programs and acts

A run of a program has a log: what was asked and what was replied, in order.  Nothing is
assumed about the replies, so a statement about all runs covers every surrounding.  What
is known of a particular surrounding is a condition on the exchanges of the log.

The lemmas below take a run apart along the program, one for each way to build one.
-/

namespace FluidStructure

/-- A request with the reply to it. -/
structure Exchange (I : Interface) where
  request : I.Request
  reply : I.Reply request

/-- The exchanges of a run, in order. -/
abbrev Log (I : Interface) := List (Exchange I)

variable {I : Interface} {σ τ α β : Type}

/-- The program can run with this log and end with this value. -/
inductive Program.Runs : Program I α → Log I → α → Prop
  | done (value : α) : Runs (.done value) [] value
  | ask {request : I.Request} {next : I.Reply request → Program I α} {log : Log I} {value : α}
      (reply : I.Reply request) (rest : Runs (next reply) log value) :
      Runs (.ask request next) (⟨request, reply⟩ :: log) value

namespace Program

@[simp] theorem runs_done {value result : α} {log : Log I} :
    (done value : Program I α).Runs log result ↔ log = [] ∧ result = value := by
  constructor
  · rintro ⟨⟩
    exact ⟨rfl, rfl⟩
  · rintro ⟨rfl, rfl⟩
    exact .done _

theorem runs_ask {request : I.Request} {next : I.Reply request → Program I α} {log : Log I}
    {result : α} :
    (ask request next).Runs log result ↔
      ∃ reply rest, log = ⟨request, reply⟩ :: rest ∧ (next reply).Runs rest result := by
  constructor
  · rintro (_ | ⟨reply, rest⟩)
    exact ⟨reply, _, rfl, rest⟩
  · rintro ⟨reply, rest, rfl, h⟩
    exact .ask reply h

theorem runs_bind {p : Program I α} {f : α → Program I β} {log : Log I} {result : β} :
    (p.bind f).Runs log result ↔
      ∃ first value second, log = first ++ second ∧ p.Runs first value ∧
        (f value).Runs second result := by
  induction p generalizing log with
  | done value =>
    constructor
    · intro h
      exact ⟨[], value, log, rfl, .done value, h⟩
    · rintro ⟨first, value', second, rfl, h, k⟩
      obtain ⟨rfl, rfl⟩ := runs_done.1 h
      exact k
  | ask request next ih =>
    simp only [ask_bind, runs_ask, ih]
    constructor
    · rintro ⟨reply, _, rfl, first, value, second, rfl, h, k⟩
      exact ⟨⟨request, reply⟩ :: first, value, second, rfl, ⟨reply, first, rfl, h⟩, k⟩
    · rintro ⟨_, value, second, rfl, ⟨reply, first, rfl, h⟩, k⟩
      exact ⟨reply, first ++ second, rfl, first, value, second, rfl, h, k⟩

theorem runs_bind_done {p : Program I α} {g : α → β} {log : Log I} {result : β} :
    (p.bind fun value => .done (g value)).Runs log result ↔
      ∃ value, p.Runs log value ∧ result = g value := by
  rw [runs_bind]
  constructor
  · rintro ⟨first, value, second, rfl, run, ends⟩
    obtain ⟨rfl, rfl⟩ := runs_done.1 ends
    rw [List.append_nil]
    exact ⟨value, run, rfl⟩
  · rintro ⟨value, run, rfl⟩
    exact ⟨log, value, [], (List.append_nil log).symm, run, .done _⟩

/-- An answering side takes requests in turn: its own log, and the state that it comes to. -/
inductive Served {J : Interface}
    (answer : (request : I.Request) → σ → Program J (I.Reply request × σ)) :
    σ → Log I → Log J → σ → Prop
  | idle (s : σ) : Served answer s [] [] s
  | serve {request : I.Request} {reply : I.Reply request} {s t u : σ} {own : Log I}
      {first later : Log J} (run : (answer request s).Runs first (reply, t))
      (rest : Served answer t own later u) :
      Served answer s (⟨request, reply⟩ :: own) (first ++ later) u

section Served

variable {J : Interface} {answer : (request : I.Request) → σ → Program J (I.Reply request × σ)}

/-- A run with an answering side is a run of the program itself whose requests are served. -/
theorem runs_via_iff {p : Program I α} {s t : σ} {log : Log J} {value : α} :
    (p.via answer s).Runs log (value, t) ↔ ∃ own, p.Runs own value ∧ Served answer s own log t := by
  induction p generalizing s log with
  | done result =>
    constructor
    · intro run
      obtain ⟨rfl, same⟩ := runs_done.1 run
      obtain ⟨rfl, rfl⟩ := Prod.mk.inj same
      exact ⟨[], .done _, .idle _⟩
    · rintro ⟨own, run, served⟩
      obtain ⟨rfl, rfl⟩ := runs_done.1 run
      cases served
      exact .done _
  | ask request next ih =>
    constructor
    · intro run
      obtain ⟨first, ⟨reply, u⟩, second, rfl, answered, onward⟩ := runs_bind.1 run
      obtain ⟨own, runs, served⟩ := (ih reply).1 onward
      exact ⟨⟨request, reply⟩ :: own, .ask reply runs, .serve answered served⟩
    · rintro ⟨own, run, served⟩
      obtain ⟨reply, own, rfl, runs⟩ := runs_ask.1 run
      cases served with
      | serve answered rest =>
        exact runs_bind.2 ⟨_, _, _, rfl, answered, (ih reply).2 ⟨own, runs, rest⟩⟩

/-- What the answers guarantee holds of all exchanges, and what they keep holds of the answering
side. -/
theorem Served.gains {K : σ → Prop} {given : Exchange J → Prop} {gained : Exchange I → Prop}
    (answers : ∀ request s log reply t, (answer request s).Runs log (reply, t) →
      (∀ e ∈ log, given e) → K s → gained ⟨request, reply⟩ ∧ K t)
    {s t : σ} {own : Log I} {log : Log J} (served : Served answer s own log t)
    (fine : ∀ e ∈ log, given e) (start : K s) : (∀ e ∈ own, gained e) ∧ K t := by
  induction served with
  | idle => exact ⟨List.forall_mem_nil _, start⟩
  | serve answered _ ih =>
    obtain ⟨first, later⟩ := List.forall_mem_append.1 fine
    obtain ⟨gain, keeps⟩ := answers _ _ _ _ _ answered first start
    obtain ⟨gains, ends⟩ := ih later keeps
    exact ⟨List.forall_mem_cons.2 ⟨gain, gains⟩, ends⟩

end Served

/-- The run in which every request gets a fixed reply. -/
def follow (reply : (request : I.Request) → I.Reply request) : Program I α → Log I × α
  | done value => ([], value)
  | ask request next =>
    let (log, value) := (next (reply request)).follow reply
    (⟨request, reply request⟩ :: log, value)

theorem runs_follow (reply : (request : I.Request) → I.Reply request) (p : Program I α) :
    p.Runs (p.follow reply).1 (p.follow reply).2 := by
  induction p with
  | done value => exact .done value
  | ask request next ih => exact .ask _ (ih _)

theorem mem_follow {reply : (request : I.Request) → I.Reply request} {p : Program I α}
    {e : Exchange I} (member : e ∈ (p.follow reply).1) : e = ⟨e.request, reply e.request⟩ := by
  induction p with
  | done value => cases member
  | ask request next ih =>
    rcases List.mem_cons.1 member with rfl | later
    · rfl
    · exact ih _ later

/-- The run in which a side with a state answers. -/
def play (answer : (request : I.Request) → σ → I.Reply request × σ) : Program I α → σ → Log I × α × σ
  | done value, s => ([], value, s)
  | ask request next, s =>
    let (reply, s) := answer request s
    let (log, value, s) := (next reply).play answer s
    (⟨request, reply⟩ :: log, value, s)

theorem runs_play (answer : (request : I.Request) → σ → I.Reply request × σ) (p : Program I α) (s : σ) :
    p.Runs (p.play answer s).1 (p.play answer s).2.1 := by
  induction p generalizing s with
  | done value => exact .done value
  | ask request next ih => exact .ask _ (ih _ _)

theorem mem_play {answer : (request : I.Request) → σ → I.Reply request × σ} {p : Program I α} {s : σ}
    {e : Exchange I} (member : e ∈ (p.play answer s).1) :
    ∃ s, e = ⟨e.request, (answer e.request s).1⟩ := by
  induction p generalizing s with
  | done value => cases member
  | ask request next ih =>
    rcases List.mem_cons.1 member with rfl | later
    · exact ⟨s, rfl⟩
    · exact ih _ later

/-- An answering side whose own requests get fixed replies serves the run that it plays. -/
theorem served_play {J : Interface}
    {answer : (request : I.Request) → σ → Program J (I.Reply request × σ)}
    (reply : (request : J.Request) → J.Reply request) (p : Program I α) (s : σ) :
    ∃ log, Served answer s (p.play (fun request s => ((answer request s).follow reply).2) s).1 log
      (p.play (fun request s => ((answer request s).follow reply).2) s).2.2 := by
  induction p generalizing s with
  | done value => exact ⟨[], .idle s⟩
  | ask request next ih =>
    obtain ⟨log, rest⟩ := ih _ _
    exact ⟨_, .serve (runs_follow reply (answer request s)) rest⟩

end Program

/-- The act can run from a state with this log, this result and this state at the end. -/
def Act.Runs (act : Act I σ α) (s : σ) (log : Log I) (result : Except Fault α) (t : σ) : Prop :=
  (act s).Runs log (result, t)

namespace Act

variable {s t : σ} {log : Log I}

theorem runs_play {answer : (request : I.Request) → τ → I.Reply request × τ} {act : Act I σ α} {s : σ}
    {u : τ} {played : Log I × (Except Fault α × σ) × τ} (playing : (act s).play answer u = played) :
    act.Runs s played.1 played.2.1.1 played.2.1.2 :=
  playing ▸ Program.runs_play answer (act s) u

@[simp] theorem runs_pure {value : α} {result : Except Fault α} :
    (pure value : Act I σ α).Runs s log result t ↔ log = [] ∧ result = .ok value ∧ t = s := by
  simp only [Runs, pure_apply, Program.runs_done, Prod.mk.injEq]

@[simp] theorem runs_fail {fault : Fault} {result : Except Fault α} :
    (fail fault : Act I σ α).Runs s log result t ↔
      log = [] ∧ result = .error fault ∧ t = s := by
  simp only [Runs, fail, Program.runs_done, Prod.mk.injEq]

@[simp] theorem runs_get {result : Except Fault σ} :
    (get : Act I σ σ).Runs s log result t ↔ log = [] ∧ result = .ok s ∧ t = s := by
  simp only [Runs, get, Program.runs_done, Prod.mk.injEq]

@[simp] theorem runs_set {new : σ} {result : Except Fault Unit} :
    (set new : Act I σ Unit).Runs s log result t ↔
      log = [] ∧ result = .ok () ∧ t = new := by
  simp only [Runs, set, Program.runs_done, Prod.mk.injEq]

@[simp] theorem runs_modify {change : σ → σ} {result : Except Fault Unit} :
    (modify change : Act I σ Unit).Runs s log result t ↔
      log = [] ∧ result = .ok () ∧ t = change s := by
  simp only [Runs, modify, Program.runs_done, Prod.mk.injEq]

theorem runs_ofExcept {outcome : Except Fault α} {result : Except Fault α} :
    (ofExcept outcome : Act I σ α).Runs s log result t ↔
      log = [] ∧ result = outcome ∧ t = s := by
  cases outcome with
  | ok value => exact runs_pure
  | error fault => exact runs_fail

@[simp] theorem runs_perform {request : I.Request} {result : Except Fault (I.Reply request)} :
    (perform request : Act I σ _).Runs s log result t ↔
      ∃ reply, log = [⟨request, reply⟩] ∧ result = .ok reply ∧ t = s := by
  simp only [Runs, perform, Program.runs_ask, Program.runs_done, Prod.mk.injEq]
  constructor
  · rintro ⟨reply, _, rfl, rfl, rfl, rfl⟩
    exact ⟨reply, rfl, rfl, rfl⟩
  · rintro ⟨reply, rfl, rfl, rfl⟩
    exact ⟨reply, [], rfl, rfl, rfl, rfl⟩

/-- A sequence that begins with a request goes on with the reply. -/
theorem runs_perform_bind {request : I.Request} {f : I.Reply request → Act I σ β}
    {result : Except Fault β} :
    (perform request >>= f).Runs s log result t ↔
      ∃ reply rest, log = ⟨request, reply⟩ :: rest ∧ (f reply).Runs s rest result t :=
  Program.runs_ask

/-- A fault of the first act ends a sequence. -/
theorem runs_bind {act : Act I σ α} {f : α → Act I σ β} {result : Except Fault β} :
    (act >>= f).Runs s log result t ↔
      (∃ first value u second, log = first ++ second ∧ act.Runs s first (.ok value) u ∧
        (f value).Runs u second result t) ∨
      ∃ fault, result = .error fault ∧ act.Runs s log (.error fault) t := by
  simp only [Runs, bind_apply, Program.runs_bind]
  constructor
  · rintro ⟨first, ⟨_ | value, u⟩, second, rfl, h, k⟩
    · obtain ⟨rfl, hk⟩ := Program.runs_done.1 k
      obtain ⟨rfl, rfl⟩ := Prod.mk.inj hk
      exact .inr ⟨_, rfl, by simpa using h⟩
    · exact .inl ⟨first, value, u, second, rfl, h, k⟩
  · rintro (⟨first, value, u, second, rfl, h, k⟩ | ⟨fault, rfl, h⟩)
    · exact ⟨first, (.ok value, u), second, rfl, h, k⟩
    · exact ⟨log, (.error fault, t), [], by simp, h, .done _⟩

/-- A sequence that ends with a value: so does the first act. -/
theorem runs_bind_ok {act : Act I σ α} {f : α → Act I σ β} {value : β} :
    (act >>= f).Runs s log (.ok value) t ↔
      ∃ first x u second, log = first ++ second ∧ act.Runs s first (.ok x) u ∧
        (f x).Runs u second (.ok value) t := by
  rw [runs_bind]
  exact or_iff_left fun ⟨_, wrong, _⟩ => nomatch wrong

/-- What follows on an act matters only where the act can lead. -/
theorem runs_bind_congr {act : Act I σ α} {f g : α → Act I σ β} {result : Except Fault β}
    (h : ∀ first value u second, act.Runs s first (.ok value) u →
      ((f value).Runs u second result t ↔ (g value).Runs u second result t)) :
    (act >>= f).Runs s log result t ↔ (act >>= g).Runs s log result t := by
  rw [runs_bind, runs_bind]
  refine or_congr ?_ Iff.rfl
  constructor
  · rintro ⟨first, value, u, second, rfl, run, onward⟩
    exact ⟨first, value, u, second, rfl, run, (h _ _ _ _ run).1 onward⟩
  · rintro ⟨first, value, u, second, rfl, run, onward⟩
    exact ⟨first, value, u, second, rfl, run, (h _ _ _ _ run).2 onward⟩

theorem runs_bind_pure {act : Act I σ α} {g : α → β} {result : Except Fault β} :
    (act >>= fun value => pure (g value)).Runs s log result t ↔
      ∃ outcome, act.Runs s log outcome t ∧ result = outcome.map g := by
  rw [runs_bind]
  constructor
  · rintro (⟨first, value, u, second, rfl, h, k⟩ | ⟨fault, rfl, h⟩)
    · obtain ⟨rfl, rfl, rfl⟩ := runs_pure.1 k
      exact ⟨.ok value, by rwa [List.append_nil], rfl⟩
    · exact ⟨.error fault, h, rfl⟩
  · rintro ⟨value | value, h, rfl⟩
    · exact .inr ⟨value, rfl, h⟩
    · exact .inl ⟨log, value, t, [], (List.append_nil log).symm, h, runs_pure.2 ⟨rfl, rfl, rfl⟩⟩

theorem runs_zoom {part : τ → σ} {store : σ → τ → τ} {act : Act I σ α} {s t : τ}
    {result : Except Fault α} :
    (zoom part store act).Runs s log result t ↔
      ∃ u, act.Runs (part s) log result u ∧ t = store u s := by
  simp only [Runs, zoom, Program.runs_bind]
  constructor
  · rintro ⟨first, ⟨outcome, u⟩, second, rfl, h, k⟩
    obtain ⟨rfl, hk⟩ := Program.runs_done.1 k
    obtain ⟨rfl, rfl⟩ := Prod.mk.inj hk
    exact ⟨u, by simpa using h, rfl⟩
  · rintro ⟨u, h, rfl⟩
    exact ⟨log, (result, u), [], by simp, h, .done _⟩

theorem runs_lift {program : Program I α} {result : Except Fault α} :
    (lift program : Act I σ α).Runs s log result t ↔
      ∃ value, program.Runs log value ∧ result = .ok value ∧ t = s := by
  simp only [Runs, lift, Program.runs_bind_done, Prod.mk.injEq]

theorem runs_follow (reply : (request : I.Request) → I.Reply request) (act : Act I σ α) (s : σ) :
    act.Runs s ((act s).follow reply).1 ((act s).follow reply).2.1 ((act s).follow reply).2.2 :=
  Program.runs_follow reply (act s)

/-- Every value comes with a state that it fits. -/
def Gives (Q : α → σ → Prop) (act : Act I σ α) : Prop :=
  ∀ s log value t, act.Runs s log (.ok value) t → Q value t

theorem gives_bind {Q : β → σ → Prop} {act : Act I σ α} {f : α → Act I σ β}
    (h : ∀ value, Gives Q (f value)) : Gives Q (act >>= f) := by
  intro s log result t run
  rcases runs_bind.1 run with ⟨_, value, u, _, -, -, later⟩ | ⟨fault, wrong, -⟩
  · exact h value _ _ _ _ later
  · cases wrong

/-! ## Acts that cannot fault -/

/-- From a state with an invariant, with nothing but calm exchanges, the act comes to a value and
keeps the invariant. -/
def Sure (calm : Exchange I → Prop) (Inv : σ → Prop) (act : Act I σ α) : Prop :=
  ∀ s log result t, act.Runs s log result t → (∀ e ∈ log, calm e) → Inv s →
    (∃ value, result = .ok value) ∧ Inv t

section Sure

variable {calm : Exchange I → Prop} {Inv : σ → Prop}

theorem sure_pure (value : α) : (pure value : Act I σ α).Sure calm Inv := by
  intro s log result t run _ start
  obtain ⟨-, rfl, rfl⟩ := runs_pure.1 run
  exact ⟨⟨value, rfl⟩, start⟩

theorem sure_gets {part : σ → α} : (gets part : Act I σ α).Sure calm Inv := by
  intro s log result t run _ start
  obtain ⟨-, h⟩ := Program.runs_done.1 run
  obtain ⟨rfl, rfl⟩ := Prod.mk.inj h
  exact ⟨⟨part t, rfl⟩, start⟩

theorem sure_modify {change : σ → σ} (kept : ∀ s, Inv s → Inv (change s)) :
    (modify change : Act I σ Unit).Sure calm Inv := by
  intro s log result t run _ start
  obtain ⟨-, rfl, rfl⟩ := runs_modify.1 run
  exact ⟨⟨(), rfl⟩, kept s start⟩

theorem sure_set {new : σ} (fine : Inv new) : (set new : Act I σ Unit).Sure calm Inv := by
  intro s log result t run _ _
  obtain ⟨-, rfl, rfl⟩ := runs_set.1 run
  exact ⟨⟨(), rfl⟩, fine⟩

theorem Sure.bind {act : Act I σ α} {f : α → Act I σ β} (first : act.Sure calm Inv)
    (later : ∀ value, (f value).Sure calm Inv) : (act >>= f).Sure calm Inv := by
  intro s log result t run fine start
  rcases runs_bind.1 run with ⟨before, value, u, after, rfl, h, k⟩ | ⟨fault, -, h⟩
  · obtain ⟨-, reached⟩ := first _ _ _ _ h (fun e member => fine e (List.mem_append_left _ member))
      start
    exact later value _ _ _ _ k (fun e member => fine e (List.mem_append_right _ member)) reached
  · obtain ⟨⟨_, wrong⟩, -⟩ := first _ _ _ _ h fine start
    cases wrong

theorem sure_get_bind {f : σ → Act I σ α} (later : ∀ s, (f s).Sure calm Inv) :
    (get >>= f).Sure calm Inv := fun s _ _ _ run => later s _ _ _ _ run

/-- What follows on a reply may count on it to be calm. -/
theorem sure_perform_bind {request : I.Request} {f : I.Reply request → Act I σ α}
    (later : ∀ reply, calm ⟨request, reply⟩ → (f reply).Sure calm Inv) :
    (perform request >>= f).Sure calm Inv := by
  intro s log result t run fine start
  obtain ⟨reply, rest, rfl, onward⟩ := Program.runs_ask.1 run
  exact later reply (fine _ List.mem_cons_self) _ _ _ _ onward
    (fun e member => fine e (List.mem_cons_of_mem _ member)) start

end Sure

/-! ## Relations that all runs keep -/

/-- Every run stands in a relation between the state before, the log and the state after. -/
def Keeps (R : σ → Log I → σ → Prop) (act : Act I σ α) : Prop :=
  ∀ s log result t, act.Runs s log result t → R s log t

/-- Relations that hold of no exchanges and pass along sequences. -/
structure Transitive (R : σ → Log I → σ → Prop) : Prop where
  refl : ∀ s, R s [] s
  trans : ∀ s first t second u, R s first t → R t second u → R s (first ++ second) u

section Keeps

variable {R : σ → Log I → σ → Prop}

theorem Transitive.pure (along : Transitive R) (value : α) :
    Keeps R (pure value : Act I σ α) := by
  intro s log result t run
  obtain ⟨rfl, -, rfl⟩ := runs_pure.1 run
  exact along.refl _

theorem Transitive.fail (along : Transitive R) (fault : Fault) :
    Keeps R (fail fault : Act I σ α) := by
  intro s log result t run
  obtain ⟨rfl, -, rfl⟩ := runs_fail.1 run
  exact along.refl _

theorem Transitive.get (along : Transitive R) : Keeps R (get : Act I σ σ) := by
  intro s log result t run
  obtain ⟨rfl, -, rfl⟩ := runs_get.1 run
  exact along.refl _

theorem Transitive.ofExcept (along : Transitive R) (outcome : Except Fault α) :
    Keeps R (ofExcept outcome : Act I σ α) := by
  intro s log result t run
  obtain ⟨rfl, -, rfl⟩ := runs_ofExcept.1 run
  exact along.refl _

theorem keeps_modify {change : σ → σ} (h : ∀ s, R s [] (change s)) :
    Keeps R (modify change) := by
  intro s log result t run
  obtain ⟨rfl, -, rfl⟩ := runs_modify.1 run
  exact h _

theorem keeps_perform {request : I.Request} (h : ∀ s reply, R s [⟨request, reply⟩] s) :
    Keeps R (perform request) := by
  intro s log result t run
  obtain ⟨reply, rfl, -, rfl⟩ := runs_perform.1 run
  exact h _ _

theorem Transitive.bind (along : Transitive R) {act : Act I σ α} {f : α → Act I σ β}
    (first : Keeps R act) (later : ∀ value, Keeps R (f value)) : Keeps R (act >>= f) := by
  intro s log result t run
  rcases runs_bind.1 run with ⟨before, value, u, after, rfl, h, k⟩ | ⟨fault, -, h⟩
  · exact along.trans _ _ _ _ _ (first _ _ _ _ h) (later value _ _ _ _ k)
  · exact first _ _ _ _ h

/-- After the state is read, the rest runs from the state that was read. -/
theorem keeps_get_bind {f : σ → Act I σ α}
    (h : ∀ s log result t, (f s).Runs s log result t → R s log t) : Keeps R (Act.get >>= f) := by
  intro s log result t run
  exact h s log result t run

end Keeps

end Act

end FluidStructure
